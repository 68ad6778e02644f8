import Passthrough.Error

set_option autoImplicit false

/-! Validated names of container objects, such as `dprc.5`. A name is one path
component of at most ten characters. -/

namespace Passthrough

namespace ContainerName

def maximumLength : Nat := 10

/-- The first reason to refuse a name: emptiness, then length, then a path separator. -/
def fault? (name : List Char) : Option NameFault :=
  if name.isEmpty then some .empty
  else if name.length > maximumLength then some .tooLong
  else if name.contains '/' then some .separator
  else none

end ContainerName

structure ContainerName where
  text : String
  valid : ContainerName.fault? text.toList = none

namespace ContainerName

def ofString? (text : String) : Result ContainerName :=
  match check : fault? text.toList with
  | none => .ok ⟨text, check⟩
  | some fault => .error (.invalidContainerName text fault)

def standard : ContainerName :=
  ⟨"dprc.5", by decide⟩

def environmentVariable : String := "DPRC"

end ContainerName

end Passthrough
