import Passthrough.Command.Status
import Passthrough.Platform.Handle
import Passthrough.SystemError
import Passthrough.Text.Quoted

set_option autoImplicit false

/-! Everything that can go wrong, by cause. The wording of each cause stands in
`message` alone; a file or a name that is refused before anything is touched is a
validation failure. -/

namespace Passthrough

inductive FileFault where
  | lookup (source : SystemError)
  | notRegular
  | notReadable (errno : Errno)
  | empty
  | tooLong (length limit : Nat)
  | lengthOverflow
  | other (reason : String)
  deriving DecidableEq

def FileFault.message : FileFault → String
  | .lookup source => source.message
  | .notRegular => "not a regular file"
  | .notReadable errno => s!"not readable: {(SystemError.numbered errno).message}"
  | .empty => "empty"
  | .tooLong length limit => s!"{length} bytes exceeds the {limit}-byte limit"
  | .lengthOverflow => "length overflows u32"
  | .other reason => reason

inductive NameFault where
  | empty
  | tooLong
  | separator
  | other (reason : String)
  deriving DecidableEq

def NameFault.message : NameFault → String
  | .empty => "empty"
  | .tooLong => "longer than 10 characters"
  | .separator => "contains '/'"
  | .other reason => reason

inductive DriverError where
  | invalidFile (path : String) (fault : FileFault)
  | invalidContainerName (name : String) (fault : NameFault)
  | kernel (operation : String) (source : SystemError)
  /-- Some device of the group is not handed to user space. -/
  | groupNotViable (group : GroupId)
  | unsupportedApi (version : Int)
  | iommuUnsupported
  | capacityExceeded (resource : String) (capacity : Nat)
  | deviceMissing (role : String) (group : GroupId)
  /-- The object's name ends in no number. -/
  | invalidDeviceName (name : String)
  | portalTooSmall (size : UInt64) (required : Nat)
  | firmware (operation : String) (status : Status)
  | firmwareTimeout (operation : String) (polls : UInt32)
  | io (source : SystemError)
  deriving DecidableEq

namespace DriverError

def message : DriverError → String
  | .invalidFile path fault => s!"Invalid file {path}: {fault.message}"
  | .invalidContainerName name fault =>
      s!"Invalid container name {Text.Quoted.quote name}: {fault.message}"
  | .kernel operation source => s!"{operation} failed: {source.message}"
  | .groupNotViable group =>
      s!"VFIO group {group.message} not viable (all devices must be bound to vfio-fsl-mc)"
  | .unsupportedApi version => s!"Unsupported VFIO API version: {version}"
  | .iommuUnsupported => "VFIO Type1 IOMMU not supported"
  | .capacityExceeded resource capacity => s!"No free {resource} slot (capacity {capacity})"
  | .deviceMissing role group => s!"No {role} device found in IOMMU group {group.message}"
  | .invalidDeviceName name =>
      s!"Cannot parse object id from device name {Text.Quoted.quote name}"
  | .portalTooSmall size required =>
      s!"MC portal region of {Text.Hex.numeral size.toNat} bytes is smaller than " ++
        Text.Hex.numeral required
  | .firmware operation status => s!"MC command {operation} failed: {status.message}"
  | .firmwareTimeout operation polls =>
      s!"MC command {operation} timed out after {polls.toNat} polls"
  | .io source => s!"I/O error: {source.message}"

/-- Whether the failure came before any resource was touched. -/
def isValidation : DriverError → Bool
  | .invalidFile _ _ => true
  | .invalidContainerName _ _ => true
  | _ => false

def source? : DriverError → Option SystemError
  | .kernel _ source => some source
  | .io source => some source
  | _ => none

end DriverError

abbrev Result (α : Type) : Type := Except DriverError α

/-- The first failure of several attempts that were all made. -/
def Result.first : List (Result Unit) → Result Unit
  | [] => .ok ()
  | .error failure :: _ => .error failure
  | .ok _ :: rest => first rest

end Passthrough
