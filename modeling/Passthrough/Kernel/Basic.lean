import Passthrough.Platform.Handle
import Passthrough.SystemError

set_option autoImplicit false

/-! The calls of a process on a kernel that hands devices to user space: requests on
descriptors, opening and closing, links and listings, mappings, and the words of
mapped memory. A kernel is a value with one operation a field, over any world. -/

namespace Passthrough

namespace Kernel

inductive Request where
  | apiVersion
  | checkExtension
  | setIommu
  | groupStatus
  | setContainer
  | unsetContainer
  | openDevice
  | deviceInfo
  | regionInfo
  | mapDma
  | unmapDma
  deriving DecidableEq

namespace Request

/-- The number of a request: the letter of its family, then its place in the family. -/
def number : Request → Nat
  | .apiVersion => 0x3b64
  | .checkExtension => 0x3b65
  | .setIommu => 0x3b66
  | .groupStatus => 0x3b67
  | .setContainer => 0x3b68
  | .unsetContainer => 0x3b69
  | .openDevice => 0x3b6a
  | .deviceInfo => 0x3b6b
  | .regionInfo => 0x3b6c
  | .mapDma => 0x3b71
  | .unmapDma => 0x3b72

def name : Request → String
  | .apiVersion => "VFIO_GET_API_VERSION"
  | .checkExtension => "VFIO_CHECK_EXTENSION"
  | .setIommu => "VFIO_SET_IOMMU"
  | .groupStatus => "VFIO_GROUP_GET_STATUS"
  | .setContainer => "VFIO_GROUP_SET_CONTAINER"
  | .unsetContainer => "VFIO_GROUP_UNSET_CONTAINER"
  | .openDevice => "VFIO_GROUP_GET_DEVICE_FD"
  | .deviceInfo => "VFIO_DEVICE_GET_INFO"
  | .regionInfo => "VFIO_DEVICE_GET_REGION_INFO"
  | .mapDma => "VFIO_IOMMU_MAP_DMA"
  | .unmapDma => "VFIO_IOMMU_UNMAP_DMA"

end Request

inductive Argument where
  | nothing
  | number (value : Nat)
  | descriptor (value : Int)
  | text (value : String)
  | record (bytes : List UInt8)
  deriving DecidableEq

structure Answer where
  value : Int
  record : List UInt8
  deriving DecidableEq

inductive Access where
  | readOnly
  | readWrite
  deriving DecidableEq

/-- What becomes of words stored in a mapping: the file sees them, or a copy of its own. -/
inductive Sharing where
  | shared
  | copied
  deriving DecidableEq

/-- Whether a number can be that of a descriptor. The number that failed calls return stands for
none, and asking for a mapping by it is a mistake of the caller, not a call that fails. -/
def isDescriptor (number : Int) : Bool :=
  number != -1

/-- A mapping of a part of a file, to be read and written. Its descriptor has to be one. -/
structure MappingRequest where
  descriptor : Int
  offset : Nat
  length : Nat
  sharing : Sharing
  deriving DecidableEq

abbrev Call (World α : Type) : Type := World → Except SystemError α × World

end Kernel

/-- The operations of a kernel over a world. -/
structure Kernel (World : Type) where
  control : Int → Kernel.Request → Kernel.Argument → Kernel.Call World Kernel.Answer
  openPath : String → Kernel.Access → Kernel.Call World Int
  close : Int → Kernel.Call World Unit
  readLink : String → Kernel.Call World String
  list : String → Kernel.Call World (List (String × Bool))
  map : Kernel.MappingRequest → Kernel.Call World HostAddress
  unmap : HostAddress → Nat → Kernel.Call World Unit
  load : HostAddress → World → UInt64 × World
  store : HostAddress → UInt64 → World → World

end Passthrough
