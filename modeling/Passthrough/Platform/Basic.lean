import Passthrough.Action
import Passthrough.ContainerName
import Passthrough.Tile.Call

set_option autoImplicit false

/-! The control surface that a session needs: groups and containers, devices,
device-visible registrations, host mappings, and the firmware behind a mapped
portal. A platform is a value with one operation a field, so that the running
program, a simulation and any adversary are treated alike. -/

namespace Passthrough

/-- The operations of a platform over a world. -/
structure Platform (World Portal : Type) where
  containerGroup : ContainerName → Act World GroupId
  groupDevices : GroupId → Act World (List String)
  openGroup : GroupId → Act World GroupFd
  /-- Whether every device of the group is handed to user space. -/
  groupViable : GroupFd → Act World Bool
  setContainer : GroupFd → ContainerFd → Act World Unit
  unsetContainer : GroupFd → Act World Unit
  openContainer : Act World ContainerFd
  apiVersion : ContainerFd → Act World Int
  hasType1Iommu : ContainerFd → Act World Bool
  setIommu : ContainerFd → Act World Unit
  deviceFd : GroupFd → String → Act World DeviceFd
  deviceInfo : DeviceFd → Act World DeviceMetadata
  /-- Maps the command portal of a device; the mapping outlives the descriptor. -/
  mapPortal : DeviceFd → Act World Portal
  mapDma : ContainerFd → HostAddress → DeviceAddress → Nat → Act World Unit
  unmapDma : ContainerFd → DeviceAddress → Nat → Act World Unit
  openFile : String → Act World FileFd
  mapFile : FileFd → Nat → Act World HostAddress
  /-- Maps a part of a device, shared with it. -/
  mapDevice : DeviceFd → UInt64 → Nat → Act World HostAddress
  unmap : HostAddress → Nat → Act World Unit
  close : {kind : DescriptorKind} → Descriptor kind → Act World Unit
  request : Portal → (call : Call) → Act World call.Reply
  window : Portal → HostAddress
  dropPortal : Portal → Logged World Unit

namespace Platform

variable {World Portal : Type}

/-- Closes a descriptor; a failure is only reported. -/
def closeQuietly (platform : Platform World Portal) {kind : DescriptorKind}
    (descriptor : Descriptor kind) : Logged World Unit := do
  match ← (platform.close descriptor).outcome with
  | .ok _ => return ()
  | .error failure =>
      Logged.warn
        s!"Closing {kind.name} descriptor {descriptor.number} failed: {failure.message}"

end Platform

end Passthrough
