import Passthrough.ContainerName
import Passthrough.Files.Tree
import Passthrough.Portal.Registers
import Passthrough.Simulator.Firmware
import Passthrough.Staging

set_option autoImplicit false

/-! What the simulated machine does for each operation of a platform. An operation
checks first and changes the machine only once nothing stands against it; what is
counted or recorded of a refused operation is stated on its own. -/

namespace Passthrough.Simulator

open Files (FileTree)

def refusal (operation : String) (errno : Errno) : DriverError :=
  .kernel operation (.numbered errno)

def require (condition : Bool) (operation : String) (errno : Errno) : Result Unit :=
  if condition then .ok () else .error (refusal operation errno)

def unlessFault (sim : Simulator) (fault : Fault) (operation : String) : Result Unit :=
  require (!sim.has fault) operation .inputOutput

/-- An operation that leaves the machine as it is when it fails. -/
def commit {α : Type} (sim : Simulator) (outcome : Result (α × Simulator)) :
    Result α × Simulator :=
  match outcome with
  | .ok (value, sim) => (.ok value, sim)
  | .error failure => (.error failure, sim)

def object (sim : Simulator) (number : Int) (operation : String) : Result OpenObject :=
  match sim.descriptors[number]? with
  | some found => .ok found
  | none => .error (refusal operation .badDescriptor)

def groupOf (sim : Simulator) (descriptor : GroupFd) (operation : String) : Result GroupId :=
  match sim.object descriptor.number operation with
  | .ok (.group group) => .ok group
  | .ok _ => .error (refusal operation .invalidArgument)
  | .error failure => .error failure

/-! ### Groups and containers -/

def containerGroup (sim : Simulator) (container : ContainerName) : Result GroupId :=
  match sim.containers[container.text]? with
  | some group => .ok group
  | none => .error (refusal "read iommu_group link" .noEntry)

/-- The container object itself is listed first. -/
def groupDevices (sim : Simulator) (group : GroupId) : Result (List String) :=
  match sim.groups[group.number]? with
  | some found => .ok (found.container :: found.devices)
  | none => .error (refusal "read group devices" .noEntry)

def isOpenGroup (sim : Simulator) (group : GroupId) : Bool :=
  sim.descriptors.toList.any fun (_, found) => found == .group group

def openGroup (sim : Simulator) (group : GroupId) : Result GroupFd × Simulator :=
  sim.commit do
    sim.unlessFault .openGroup "open VFIO group"
    require (sim.groups.contains group.number) "open VFIO group" .noEntry
    require (!sim.isOpenGroup group) "open VFIO group" .busy
    let (number, sim) := (sim.note (.openGroup group)).issue (.group group)
    return (⟨number⟩, sim)

def groupViable (sim : Simulator) (descriptor : GroupFd) : Result Bool := do
  sim.unlessFault .groupStatus "VFIO_GROUP_GET_STATUS"
  let group ← sim.groupOf descriptor "VFIO_GROUP_GET_STATUS"
  match sim.groups[group.number]? with
  | some found => return found.viable
  | none => return false

def requireContainer (sim : Simulator) (number : Int) (operation : String) : Result Unit := do
  match ← sim.object number operation with
  | .container _ => return ()
  | _ => throw (refusal operation .invalidArgument)

def setContainer (sim : Simulator) (group : GroupFd) (container : ContainerFd) :
    Result Unit × Simulator :=
  sim.commit do
    sim.unlessFault .setContainer "VFIO_GROUP_SET_CONTAINER"
    let _ ← sim.groupOf group "VFIO_GROUP_SET_CONTAINER"
    sim.requireContainer container.number "VFIO_GROUP_SET_CONTAINER"
    require (!sim.attachments.contains group.number) "VFIO_GROUP_SET_CONTAINER" .busy
    return ((),
      { sim with attachments := sim.attachments.insert group.number container.number })

def unsetContainer (sim : Simulator) (group : GroupFd) : Result Unit × Simulator :=
  sim.commit do
    require (sim.attachments.contains group.number) "VFIO_GROUP_UNSET_CONTAINER"
      .invalidArgument
    return ((), { sim with attachments := sim.attachments.erase group.number })

def openContainer (sim : Simulator) : Result ContainerFd × Simulator :=
  let (number, sim) := (sim.note .openContainer).issue (.container false)
  (.ok ⟨number⟩, sim)

def reportedApiVersion (sim : Simulator) (container : ContainerFd) : Result Int := do
  let _ ← sim.object container.number "VFIO_GET_API_VERSION"
  return sim.apiVersion

def hasType1Iommu (sim : Simulator) (container : ContainerFd) : Result Bool := do
  let _ ← sim.object container.number "VFIO_CHECK_EXTENSION"
  return true

def isAttached (sim : Simulator) (container : ContainerFd) : Bool :=
  sim.attachments.toList.any fun (_, attached) => attached == container.number

def setIommu (sim : Simulator) (container : ContainerFd) : Result Unit × Simulator :=
  sim.commit do
    sim.unlessFault .setIommu "VFIO_SET_IOMMU"
    require (sim.isAttached container) "VFIO_SET_IOMMU" .invalidArgument
    match sim.descriptors[container.number]? with
    | some (.container _) =>
        return ((),
          { sim with
            descriptors := sim.descriptors.insert container.number (.container true) })
    | _ => throw (refusal "VFIO_SET_IOMMU" .badDescriptor)

/-! ### Devices -/

def deviceFd (sim : Simulator) (group : GroupFd) (name : String) :
    Result DeviceFd × Simulator :=
  sim.commit do
    let found ← sim.groupOf group "VFIO_GROUP_GET_DEVICE_FD"
    let known := match sim.groups[found.number]? with
      | some members => (members.container :: members.devices).contains name
      | none => false
    require known "VFIO_GROUP_GET_DEVICE_FD" .noDevice
    let (number, sim) := (sim.note (.openDevice name)).issue (.device name)
    return (⟨number⟩, sim)

def deviceInfo (sim : Simulator) (device : DeviceFd) : Result DeviceMetadata := do
  sim.unlessFault .deviceInfo "VFIO_DEVICE_GET_INFO"
  match ← sim.object device.number "VFIO_DEVICE_GET_INFO" with
  | .device name =>
      return {
        regions := 1
        interrupts := if ObjectName.hasClass ObjectName.tileClass name then 1 else 0 }
  | _ => throw (refusal "VFIO_DEVICE_GET_INFO" .notSupportedByDevice)

def portalLength : Nat := 0x10000

def mapPortal (sim : Simulator) (device : DeviceFd) : Result HostAddress × Simulator :=
  sim.commit do
    sim.unlessFault .mapPortal "mmap MC portal"
    match ← sim.object device.number "mmap MC portal" with
    | .device name =>
        require (ObjectName.hasClass ObjectName.portalClass name) "mmap MC portal"
          .invalidArgument
    | _ => throw (refusal "mmap MC portal" .invalidArgument)
    let (address, sim) := (sim.note (.mapDevice 0 portalLength)).allocate portalLength
    return (address,
      { sim with portals := sim.portals.insert address.value Command.blank })

/-- Gives up a portal. The mapping goes, whether or not it is still there. -/
def dropPortal (sim : Simulator) (portal : HostAddress) : Simulator :=
  let dropped :=
    { sim with
      mappings := sim.mappings.erase portal.value
      portals := sim.portals.erase portal.value }
  dropped.note (.unmap portalLength)

def portalWords (sim : Simulator) (portal : HostAddress) : Command :=
  (sim.portals[portal.value]?).getD Command.blank

def setPortalWords (sim : Simulator) (portal : HostAddress) (words : Command) : Simulator :=
  { sim with portals := sim.portals.insert portal.value words }

/-- Writing the header executes the command that the portal then shows, and its response takes
the command's place. -/
def writePortal (portal : HostAddress) (offset : Nat) (value : UInt64) (sim : Simulator) :
    Simulator :=
  let command := Portal.storeAt (sim.portalWords portal) offset value
  if offset = 0 then
    let (response, sim) := sim.execute command
    sim.setPortalWords portal response
  else sim.setPortalWords portal command

def registers (portal : HostAddress) : Portal.Registers Simulator :=
  { read := fun offset sim => (Portal.wordAt (sim.portalWords portal) offset, sim)
    write := writePortal portal }

/-! ### Registrations -/

/-- The machine once a registration is asked for: buffers are counted, the interrupt page is
not. -/
def countRegistration (sim : Simulator) (device : DeviceAddress) : Simulator :=
  if device.value = Staging.interruptAddress then sim
  else { sim with buffersRegistered := sim.buffersRegistered + 1 }

def registrationFault (sim : Simulator) (device : DeviceAddress) : Fault :=
  if device.value = Staging.interruptAddress then .mapInterruptPage
  else .mapDma sim.buffersRegistered

def isMapped (sim : Simulator) (address : HostAddress) (length : Nat) : Bool :=
  match sim.mappings[address.value]? with
  | some mapped => length ≤ mapped
  | none => false

def mapDma (sim : Simulator) (container : ContainerFd) (host : HostAddress)
    (device : DeviceAddress) (length : Nat) : Result Unit × Simulator :=
  let sim := sim.countRegistration device
  sim.commit do
    sim.unlessFault (sim.registrationFault device) "VFIO_IOMMU_MAP_DMA"
    let found ← sim.object container.number "VFIO_IOMMU_MAP_DMA"
    require (found == .container true) "VFIO_IOMMU_MAP_DMA" .invalidArgument
    require (sim.isMapped host length) "VFIO_IOMMU_MAP_DMA" .badAddress
    require (!sim.registrations.contains (container.number, device.value))
      "VFIO_IOMMU_MAP_DMA" .alreadyExists
    let registered :=
      { sim with
        registrations := sim.registrations.insert (container.number, device.value) length }
    return ((), registered.note (.mapDma device length))

/-- A removal is recorded even when there is nothing to remove. -/
def unmapDma (sim : Simulator) (container : ContainerFd) (device : DeviceAddress)
    (length : Nat) : Result Unit × Simulator :=
  let sim := sim.note (.unmapDma device length)
  sim.commit do
    require (sim.registrations.contains (container.number, device.value))
      "VFIO_IOMMU_UNMAP_DMA" .invalidArgument
    return ((),
      { sim with registrations := sim.registrations.erase (container.number, device.value) })

/-! ### Files and host mappings -/

def isRegular (files : FileTree) (path : String) : Bool :=
  match files.status path with
  | .ok (.regular _ _) => true
  | _ => false

def openFile (files : FileTree) (sim : Simulator) (path : String) :
    Result FileFd × Simulator :=
  let sim := { sim with filesOpened := sim.filesOpened + 1 }
  sim.commit do
    sim.unlessFault (.openFile sim.filesOpened) "open file"
    require (isRegular files path) "open file" .noEntry
    let (number, sim) := (sim.note (.openFile path)).issue .file
    return (⟨number⟩, sim)

def mapFile (sim : Simulator) (file : FileFd) (length : Nat) :
    Result HostAddress × Simulator :=
  let sim := { sim with filesMapped := sim.filesMapped + 1 }
  sim.commit do
    sim.unlessFault (.mapFile sim.filesMapped) "mmap file"
    let found ← sim.object file.number "mmap file"
    require (found == .file) "mmap file" .accessDenied
    return (sim.note (.mapFile length)).allocate length

def mapDevice (sim : Simulator) (device : DeviceFd) (offset : UInt64) (length : Nat) :
    Result HostAddress × Simulator :=
  sim.commit do
    match ← sim.object device.number "mmap device" with
    | .device _ => return (sim.note (.mapDevice offset length)).allocate length
    | _ => throw (refusal "mmap device" .invalidArgument)

/-- An unmapping is recorded even when it is refused; it must name a mapping's whole length. -/
def unmap (sim : Simulator) (address : HostAddress) (length : Nat) : Result Unit × Simulator :=
  let sim := sim.note (.unmap length)
  sim.commit do
    require (sim.mappings[address.value]? == some length) "munmap" .invalidArgument
    return ((), { sim with mappings := sim.mappings.erase address.value })

/-- What else goes when an open object is closed: a group's attachment, or the registrations
of a container. -/
def forgetObject (sim : Simulator) (number : Int) : OpenObject → Simulator
  | .group _ => { sim with attachments := sim.attachments.erase number }
  | .container _ =>
      { sim with registrations := sim.registrations.filter fun key _ => key.1 != number }
  | .device _ => sim
  | .file => sim

/-- Closes a descriptor by its number, whatever kind the caller takes it for. -/
def close (sim : Simulator) (number : Int) : Result Unit × Simulator :=
  sim.commit do
    let found ← sim.object number "close"
    let closed := { sim with descriptors := sim.descriptors.erase number }
    return ((), (closed.forgetObject number found).note (.close found.kind))

end Passthrough.Simulator
