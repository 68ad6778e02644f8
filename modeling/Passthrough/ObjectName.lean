import Passthrough.Text.Decimal

set_option autoImplicit false

/-! Names of the objects on the management bus, such as `dpaiop.0`: a class, a
point, and the object's number. Only the first point separates. -/

namespace Passthrough.ObjectName

def portalClass : String := "dpmcp"

def tileClass : String := "dpaiop"

def suffix? : List Char → Option (List Char)
  | [] => none
  | character :: rest => if character = '.' then some rest else suffix? rest

/-- The object's number: a decimal of 32 bits behind the first point. -/
def number? (name : String) : Option UInt32 :=
  match suffix? name.toList with
  | some suffix => (Text.Decimal.parse? UInt32.size suffix).map UInt32.ofNat
  | none => none

def hasClass (objectClass name : String) : Bool :=
  objectClass.toList.isPrefixOf name.toList

end Passthrough.ObjectName
