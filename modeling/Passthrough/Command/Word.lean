import Passthrough.Command.Field
import Passthrough.Command.Status

set_option autoImplicit false

/-! One command of the management complex, or the response that replaces it: a
header word and seven parameter words. From the top, the header holds the command
number (16 bits), the session token (16), flags (8), the status (8) and flags with
the source (16), of which bit 15 asks for the urgent queue. -/

namespace Passthrough

/-- Names an open firmware session; zero names none. -/
structure Token where
  number : UInt16
  deriving DecidableEq

def Token.message (token : Token) : String :=
  Text.Hex.padded 4 token.number.toNat

inductive Priority where
  | low
  | high
  deriving DecidableEq

abbrev Command.parameterCount : Nat := 7

structure Command where
  header : UInt64
  parameters : Vector UInt64 Command.parameterCount
  deriving DecidableEq

namespace Command

def blank : Command :=
  { header := 0, parameters := Vector.replicate parameterCount 0 }

instance : Inhabited Command := ⟨blank⟩

def parameterOffset (index : Nat) : Nat :=
  8 * (index + 1)

/-- A command that waits to be executed, with every parameter zero. -/
def make (number : UInt16) (priority : Priority) (token : Token) : Command :=
  let flag : UInt64 := match priority with
    | .low => 0
    | .high => 1
  let header : UInt64 := 0
  { blank with
    header := header
      |> Field.write 48 16 number.toUInt64
      |> Field.write 32 16 token.number.toUInt64
      |> Field.write 16 8 Status.ready.byte.toUInt64
      |> Field.write 15 1 flag }

def number (command : Command) : UInt16 :=
  (Field.read 48 16 command.header).toUInt16

def token (command : Command) : Token :=
  ⟨(Field.read 32 16 command.header).toUInt16⟩

def headerStatus (header : UInt64) : Status :=
  Status.ofByte (Field.read 16 8 header).toUInt8

def status (command : Command) : Status :=
  headerStatus command.header

def isUrgent (command : Command) : Bool :=
  Field.read 15 1 command.header != 0

def withStatus (status : Status) (command : Command) : Command :=
  { command with header := Field.write 16 8 status.byte.toUInt64 command.header }

def withToken (token : Token) (command : Command) : Command :=
  { command with header := Field.write 32 16 token.number.toUInt64 command.header }

def field (command : Command) (index : Fin parameterCount) (offset width : Nat) : UInt64 :=
  Field.read offset width command.parameters[index]

def setField (index : Fin parameterCount) (offset width : Nat) (value : UInt64)
    (command : Command) : Command :=
  { command with
    parameters := command.parameters.set index.val
      (Field.write offset width value command.parameters[index]) index.isLt }

inductive FieldError where
  | exceedsWord
  | noParameter (index : Nat)
  deriving DecidableEq

/-- A field must end inside its word, and its word must exist; the first is asked first. -/
def locate (index offset width : Nat) : Except FieldError (Fin parameterCount) :=
  if offset + width ≤ 64 then
    if inside : index < parameterCount then .ok ⟨index, inside⟩
    else .error (.noParameter index)
  else .error .exceedsWord

def field? (command : Command) (index offset width : Nat) : Except FieldError UInt64 := do
  let index ← locate index offset width
  return command.field index offset width

/-- Writes a field that may not exist; a refusal leaves no changed command. -/
def setField? (index offset width : Nat) (value : UInt64) (command : Command) :
    Except FieldError Command := do
  let index ← locate index offset width
  return command.setField index offset width value

end Command

end Passthrough
