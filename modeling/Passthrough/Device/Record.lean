import Passthrough.Command.Word
import Passthrough.ObjectName
import Passthrough.Platform.Handle

set_option autoImplicit false

/-! The two objects that a session drives: the companion, whose portal carries the
commands, and the accelerator tile itself. -/

namespace Passthrough

inductive DeviceRole where
  | companion
  | accelerator
  deriving DecidableEq

/-- The class of the objects that serve in a role; it also names the role in messages. -/
def DeviceRole.objectClass : DeviceRole → String
  | .companion => ObjectName.portalClass
  | .accelerator => ObjectName.tileClass

/-- A bound object. Only an accelerator is opened, and it has a token only while a firmware
session is open. -/
structure DeviceRecord where
  name : String
  hardwareId : UInt32
  descriptor : Option DeviceFd
  metadata : Option DeviceMetadata
  token : Option Token
  deriving DecidableEq

def DeviceRecord.unopened (name : String) (hardwareId : UInt32) : DeviceRecord :=
  { name := name, hardwareId := hardwareId, descriptor := none, metadata := none, token := none }

structure DeviceSet where
  companion : DeviceRecord
  accelerator : DeviceRecord
  deriving DecidableEq

end Passthrough
