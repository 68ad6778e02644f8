import Passthrough.Platform.Basic

set_option autoImplicit false

/-! A gate in front of a platform refuses chosen operations before they reach it.
Giving up a portal is never refused, and firmware calls pass. -/

namespace Passthrough

/-- The operations that a gate can refuse; closing as a whole or one kind at a time. -/
inductive Operation where
  | containerGroup
  | groupDevices
  | openGroup
  | groupViable
  | setContainer
  | unsetContainer
  | openContainer
  | apiVersion
  | hasType1Iommu
  | setIommu
  | deviceFd
  | deviceInfo
  | mapPortal
  | mapDma
  | unmapDma
  | openFile
  | mapFile
  | mapDevice
  | unmap
  | close
  | closeKind (kind : DescriptorKind)
  deriving DecidableEq

def Operation.name : Operation → String
  | .containerGroup => "container_group"
  | .groupDevices => "group_devices"
  | .openGroup => "open_group"
  | .groupViable => "group_viable"
  | .setContainer => "set_container"
  | .unsetContainer => "unset_container"
  | .openContainer => "open_container"
  | .apiVersion => "api_version"
  | .hasType1Iommu => "has_type1_iommu"
  | .setIommu => "set_iommu"
  | .deviceFd => "device_fd"
  | .deviceInfo => "device_info"
  | .mapPortal => "map_portal"
  | .mapDma => "map_dma"
  | .unmapDma => "unmap_dma"
  | .openFile => "open_file"
  | .mapFile => "map_file"
  | .mapDevice => "map_device"
  | .unmap => "unmap"
  | .close => "close"
  | .closeKind kind => s!"close_{kind.name}"

def Operation.all : List Operation :=
  [ .containerGroup, .groupDevices, .openGroup, .groupViable, .setContainer, .unsetContainer
  , .openContainer, .apiVersion, .hasType1Iommu, .setIommu, .deviceFd, .deviceInfo, .mapPortal
  , .mapDma, .unmapDma, .openFile, .mapFile, .mapDevice, .unmap, .close
  , .closeKind .group, .closeKind .container, .closeKind .device, .closeKind .file ]

def Operation.ofName? (name : String) : Option Operation :=
  Operation.all.find? fun operation => operation.name = name

/-- What a gate refuses, and whether it hides the IOMMU mode. -/
structure Gate where
  refused : List Operation
  hidesType1 : Bool

namespace Gate

def allow : Gate :=
  { refused := [], hidesType1 := false }

def refuse (gate : Gate) (operation : Operation) : Gate :=
  { gate with refused := operation :: gate.refused }

def hideType1 (gate : Gate) : Gate :=
  { gate with hidesType1 := true }

def refuses (gate : Gate) (operation : Operation) : Bool :=
  gate.refused.contains operation

/-- The operation that refuses to close a descriptor of a kind, the general one first. -/
def closing (gate : Gate) (kind : DescriptorKind) : Operation :=
  if gate.refuses .close then .close else .closeKind kind

variable {World Portal α : Type}

def guard (gate : Gate) (operation : Operation) (action : Act World α) : Act World α :=
  if gate.refuses operation then
    throw (.kernel operation.name (.numbered .notPermitted))
  else action

def inFront (gate : Gate) (platform : Platform World Portal) : Platform World Portal :=
  { containerGroup := fun container =>
      gate.guard .containerGroup (platform.containerGroup container)
    groupDevices := fun group => gate.guard .groupDevices (platform.groupDevices group)
    openGroup := fun group => gate.guard .openGroup (platform.openGroup group)
    groupViable := fun group => gate.guard .groupViable (platform.groupViable group)
    setContainer := fun group container =>
      gate.guard .setContainer (platform.setContainer group container)
    unsetContainer := fun group => gate.guard .unsetContainer (platform.unsetContainer group)
    openContainer := gate.guard .openContainer platform.openContainer
    apiVersion := fun container => gate.guard .apiVersion (platform.apiVersion container)
    hasType1Iommu := fun container =>
      gate.guard .hasType1Iommu do
        let present ← platform.hasType1Iommu container
        return present && !gate.hidesType1
    setIommu := fun container => gate.guard .setIommu (platform.setIommu container)
    deviceFd := fun group name => gate.guard .deviceFd (platform.deviceFd group name)
    deviceInfo := fun device => gate.guard .deviceInfo (platform.deviceInfo device)
    mapPortal := fun device => gate.guard .mapPortal (platform.mapPortal device)
    mapDma := fun container host device length =>
      gate.guard .mapDma (platform.mapDma container host device length)
    unmapDma := fun container device length =>
      gate.guard .unmapDma (platform.unmapDma container device length)
    openFile := fun path => gate.guard .openFile (platform.openFile path)
    mapFile := fun file length => gate.guard .mapFile (platform.mapFile file length)
    mapDevice := fun device offset length =>
      gate.guard .mapDevice (platform.mapDevice device offset length)
    unmap := fun address length => gate.guard .unmap (platform.unmap address length)
    close := fun {kind} descriptor =>
      gate.guard (gate.closing kind) (platform.close descriptor)
    request := platform.request
    window := platform.window
    dropPortal := platform.dropPortal }

end Gate

end Passthrough
