import Passthrough.BusPath
import Passthrough.Kernel.Basic
import Passthrough.Kernel.Record
import Passthrough.Platform.Basic
import Passthrough.Portal.Registers
import Passthrough.Text.Decimal

set_option autoImplicit false

/-! The platform of a kernel. Each operation is one call, whose failure carries the
call's name. A failed request is also logged, except for attaching a group, which
is tried on containers that may refuse, and for the query of the portal's region. -/

namespace Passthrough.Kernel

variable {World α : Type}

def act (operation : String) (call : Call World α) : Act World α :=
  Act.ofWorld fun world =>
    let (outcome, world) := call world
    (outcome.mapError fun source => .kernel operation source, world)

def loudly (action : Act World α) : Act World α :=
  action.onFailure fun failure => Logged.error failure.message

def request (kernel : Kernel World) (descriptor : Int) (request : Request)
    (argument : Argument) : Act World Answer :=
  act request.name (kernel.control descriptor request argument)

def demand (kernel : Kernel World) (descriptor : Int) (request : Request)
    (argument : Argument) : Act World Answer :=
  loudly (kernel.request descriptor request argument)

def type1 : Nat := 1

/-- The group that a link leads to, by the last name in its target. -/
def groupOfLink? (target : String) : Option GroupId :=
  match Files.Path.fileName? target with
  | some name =>
      (Text.Decimal.parse? UInt32.size name.toList).map fun number => ⟨UInt32.ofNat number⟩
  | none => none

def containerGroup (kernel : Kernel World) (container : ContainerName) : Act World GroupId := do
  let target ← act "read iommu_group link"
    (kernel.readLink (BusPath.containerGroupLink container.text))
  match groupOfLink? target with
  | some group => return group
  | none =>
      throw (.kernel "parse iommu_group link" (.described s!"unexpected target {target}"))

def groupDevices (kernel : Kernel World) (group : GroupId) : Act World (List String) := do
  let listing ← act "read group devices" (kernel.list (BusPath.groupDevices group))
  let names := (listing.filter Prod.snd).map Prod.fst
  return names.mergeSort fun left right => decide (left ≤ right)

def nulPosition? (text : List Char) : Option Nat :=
  (text.findIdx? (· == '\x00')).map fun index =>
    (String.ofList (text.take index)).utf8ByteSize

/-- Opens a device of a group. A name that could not be passed on is refused before the request. -/
def deviceFd (kernel : Kernel World) (group : GroupFd) (name : String) : Act World DeviceFd := do
  match nulPosition? name.toList with
  | some position =>
      throw (.kernel Request.openDevice.name
        (.described s!"nul byte found in provided data at position: {position}"))
  | none =>
      let answer ← kernel.demand group.number .openDevice (.text name)
      return ⟨answer.value⟩

def deviceInfo (kernel : Kernel World) (device : DeviceFd) : Act World DeviceMetadata := do
  let answer ← kernel.demand device.number .deviceInfo (.record Record.deviceInfo)
  return {
    regions := UInt32.ofNat (Record.regionCount answer.record)
    interrupts := UInt32.ofNat (Record.interruptCount answer.record) }

structure PortalWindow where
  address : HostAddress
  length : Nat
  deriving DecidableEq

def portalRegion : Nat := 0

/-- The least length of a portal: a header and the parameters. -/
def portalMinimum : Nat := Command.parameterOffset Command.parameterCount

def mapPortal (kernel : Kernel World) (device : DeviceFd) : Act World PortalWindow := do
  let answer ← kernel.request device.number .regionInfo (.record (Record.regionInfo portalRegion))
  let length := Record.regionSize answer.record
  if length < portalMinimum then
    throw (.portalTooSmall (UInt64.ofNat length) portalMinimum)
  let address ← act "mmap MC portal"
    (kernel.map
      { descriptor := device.number
        offset := Record.regionOffset answer.record
        length := length
        sharing := .shared })
  return { address := address, length := length }

def registers (kernel : Kernel World) (window : PortalWindow) : Portal.Registers World :=
  { read := fun offset => kernel.load ⟨window.address.value + offset⟩
    write := fun offset => kernel.store ⟨window.address.value + offset⟩ }

/-- Gives up a portal. A failure is only reported, in the system's words alone. -/
def dropPortal (kernel : Kernel World) (window : PortalWindow) : Logged World Unit := do
  match ← Logged.ofWorld (kernel.unmap window.address window.length) with
  | .ok _ => return ()
  | .error source => Logged.warn s!"munmap of MC portal failed: {source.message}"

def platform (kernel : Kernel World) (poll : Portal.PollConfig) : Platform World PortalWindow :=
  { containerGroup := kernel.containerGroup
    groupDevices := kernel.groupDevices
    openGroup := fun group => do
      let number ← act "open VFIO group" (kernel.openPath (BusPath.groupNode group) .readWrite)
      return ⟨number⟩
    groupViable := fun group => do
      let answer ← kernel.demand group.number .groupStatus (.record Record.groupStatus)
      return Record.isViable answer.record
    setContainer := fun group container => do
      let _ ← kernel.request group.number .setContainer (.descriptor container.number)
    unsetContainer := fun group => do
      let _ ← kernel.demand group.number .unsetContainer .nothing
    openContainer := do
      let number ← act "open VFIO container" (kernel.openPath BusPath.containerNode .readWrite)
      return ⟨number⟩
    apiVersion := fun container => do
      let answer ← kernel.demand container.number .apiVersion .nothing
      return answer.value
    hasType1Iommu := fun container => do
      let answer ← kernel.demand container.number .checkExtension (.number type1)
      return answer.value == 1
    setIommu := fun container => do
      let _ ← kernel.demand container.number .setIommu (.number type1)
    deviceFd := kernel.deviceFd
    deviceInfo := kernel.deviceInfo
    mapPortal := kernel.mapPortal
    mapDma := fun container host device length => do
      let _ ← kernel.demand container.number .mapDma
        (.record (Record.mapDma host.value device.value length))
    unmapDma := fun container device length => do
      let _ ← kernel.demand container.number .unmapDma
        (.record (Record.unmapDma device.value length))
    openFile := fun path => do
      let number ← act "open file" (kernel.openPath path .readOnly)
      return ⟨number⟩
    mapFile := fun file length =>
      act "mmap file"
        (kernel.map
          { descriptor := file.number, offset := 0, length := length, sharing := .copied })
    mapDevice := fun device offset length =>
      act "mmap device"
        (kernel.map
          { descriptor := device.number
            offset := offset.toNat
            length := length
            sharing := .shared })
    unmap := fun address length => act "munmap" (kernel.unmap address length)
    close := fun descriptor => loudly (act "close" (kernel.close descriptor.number))
    request := fun window call =>
      Act.ofWorld ((kernel.registers window).request poll call)
    window := PortalWindow.address
    dropPortal := kernel.dropPortal }

end Passthrough.Kernel
