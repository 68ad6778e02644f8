import Passthrough.Text.Hex

set_option autoImplicit false

/-! The names by which a platform and its callers speak of what is open or
mapped: descriptors of a known kind, isolation groups, and addresses on the host
and on the device side. Handles are plain values; who owns what is kept elsewhere. -/

namespace Passthrough

inductive DescriptorKind where
  | group
  | container
  | device
  | file
  deriving DecidableEq

def DescriptorKind.name : DescriptorKind → String
  | .group => "group"
  | .container => "container"
  | .device => "device"
  | .file => "file"

structure Descriptor (kind : DescriptorKind) where
  number : Int
  deriving DecidableEq

abbrev GroupFd := Descriptor .group
abbrev ContainerFd := Descriptor .container
abbrev DeviceFd := Descriptor .device
abbrev FileFd := Descriptor .file

def Descriptor.message {kind : DescriptorKind} (descriptor : Descriptor kind) : String :=
  s!"{kind.name}:{descriptor.number}"

/-- The number of an isolation group: the smallest set of devices with one address space. -/
structure GroupId where
  number : UInt32
  deriving DecidableEq

def GroupId.message (group : GroupId) : String :=
  toString group.number.toNat

structure HostAddress where
  value : Nat
  deriving DecidableEq

def HostAddress.message (address : HostAddress) : String :=
  Text.Hex.numeral address.value

structure DeviceAddress where
  value : Nat
  deriving DecidableEq

def DeviceAddress.message (address : DeviceAddress) : String :=
  Text.Hex.numeral address.value

/-- Staged buffers are visible to devices at their host address. -/
def HostAddress.identity (address : HostAddress) : DeviceAddress :=
  ⟨address.value⟩

structure DeviceMetadata where
  regions : UInt32
  interrupts : UInt32
  deriving DecidableEq

end Passthrough
