import Passthrough.Command.Word
import Passthrough.Tile.Report

set_option autoImplicit false

/-! The calls that a tile's firmware answers, each with the type of its reply and
with its form as a command. `encode` and `ofCommand?` turn a call into its
command and back; `writeReply` and `readReply` do the same for the response. -/

namespace Passthrough

structure LoadConfig where
  address : UInt64
  size : UInt32
  options : UInt64
  deriving DecidableEq

/-- What to start: the cores, and an argument block that may be absent (all zero). -/
structure RunConfig where
  cores : UInt32
  options : UInt64
  argumentAddress : UInt64
  argumentSize : UInt32
  deriving DecidableEq

def RunConfig.everyCore : UInt32 := 0xFFFFFFFF

def RunConfig.allCores (arguments : Option (UInt64 × UInt32)) : RunConfig :=
  { cores := everyCore
    options := 0
    argumentAddress := (arguments.getD (0, 0)).1
    argumentSize := (arguments.getD (0, 0)).2 }

/-- A request to the firmware; every call but the first needs the token of an open session. -/
inductive Call where
  | openSession (hardwareId : UInt32)
  | closeSession (token : Token)
  | reset (token : Token)
  | load (token : Token) (config : LoadConfig)
  | run (token : Token) (config : RunConfig)
  | attributes (token : Token)
  | serviceLayerVersion (token : Token)
  | state (token : Token)
  | timeOfDay (token : Token)
  | setTimeOfDay (token : Token) (time : UInt64)
  deriving DecidableEq

namespace Call

@[reducible] def Reply : Call → Type
  | .openSession _ => Token
  | .closeSession _ => Unit
  | .reset _ => Unit
  | .load _ _ => Unit
  | .run _ _ => Unit
  | .attributes _ => TileAttributes
  | .serviceLayerVersion _ => ServiceLayerVersion
  | .state _ => TileState
  | .timeOfDay _ => UInt64
  | .setTimeOfDay _ _ => Unit

def name : Call → String
  | .openSession _ => "open"
  | .closeSession _ => "close"
  | .reset _ => "reset"
  | .load _ _ => "load"
  | .run _ _ => "run"
  | .attributes _ => "get_attributes"
  | .serviceLayerVersion _ => "get_sl_version"
  | .state _ => "get_state"
  | .timeOfDay _ => "get_time_of_day"
  | .setTimeOfDay _ _ => "set_time_of_day"

/-! ### Command numbers -/

def openNumber : UInt16 := 0x80a
def closeNumber : UInt16 := 0x800
def resetNumber : UInt16 := 0x005
def loadNumber : UInt16 := 0x280
def runNumber : UInt16 := 0x281
def attributesNumber : UInt16 := 0x004
def serviceLayerVersionNumber : UInt16 := 0x282
def stateNumber : UInt16 := 0x283
def timeOfDayNumber : UInt16 := 0x285
def setTimeOfDayNumber : UInt16 := 0x284

def interfaceVersion : UInt16 := 1

/-- A command number with the interface revision in its lowest four bits. -/
def versioned (number : UInt16) : UInt16 :=
  (number <<< 4) ||| interfaceVersion

def number : Call → UInt16
  | .openSession _ => openNumber
  | .closeSession _ => closeNumber
  | .reset _ => resetNumber
  | .load _ _ => loadNumber
  | .run _ _ => runNumber
  | .attributes _ => attributesNumber
  | .serviceLayerVersion _ => serviceLayerVersionNumber
  | .state _ => stateNumber
  | .timeOfDay _ => timeOfDayNumber
  | .setTimeOfDay _ _ => setTimeOfDayNumber

def token : Call → Token
  | .openSession _ => ⟨0⟩
  | .closeSession token => token
  | .reset token => token
  | .load token _ => token
  | .run token _ => token
  | .attributes token => token
  | .serviceLayerVersion token => token
  | .state token => token
  | .timeOfDay token => token
  | .setTimeOfDay token _ => token

/-! ### Requests -/

/-- The command of a call: header first, then the arguments in their fields. -/
def encode (call : Call) : Command :=
  let plain := Command.make (versioned call.number) .low call.token
  match call with
  | .openSession hardwareId => plain |> Command.setField 0 0 32 hardwareId.toUInt64
  | .load _ config =>
      plain
        |> Command.setField 0 32 32 config.size.toUInt64
        |> Command.setField 1 0 64 config.address
        |> Command.setField 2 0 64 config.options
  | .run _ config =>
      plain
        |> Command.setField 0 0 32 config.cores.toUInt64
        |> Command.setField 0 32 32 config.argumentSize.toUInt64
        |> Command.setField 1 0 64 config.options
        |> Command.setField 2 0 64 config.argumentAddress
  | .setTimeOfDay _ time => plain |> Command.setField 0 0 64 time
  | .closeSession _ => plain
  | .reset _ => plain
  | .attributes _ => plain
  | .serviceLayerVersion _ => plain
  | .state _ => plain
  | .timeOfDay _ => plain

/-- The call that a command stands for; only its number decides which one. -/
def ofCommand? (command : Command) : Option Call :=
  let token := command.token
  if command.number = versioned openNumber then
    some (.openSession (command.field 0 0 32).toUInt32)
  else if command.number = versioned closeNumber then
    some (.closeSession token)
  else if command.number = versioned resetNumber then
    some (.reset token)
  else if command.number = versioned loadNumber then
    some (.load token
      { address := command.field 1 0 64
        size := (command.field 0 32 32).toUInt32
        options := command.field 2 0 64 })
  else if command.number = versioned runNumber then
    some (.run token
      { cores := (command.field 0 0 32).toUInt32
        options := command.field 1 0 64
        argumentAddress := command.field 2 0 64
        argumentSize := (command.field 0 32 32).toUInt32 })
  else if command.number = versioned attributesNumber then
    some (.attributes token)
  else if command.number = versioned serviceLayerVersionNumber then
    some (.serviceLayerVersion token)
  else if command.number = versioned stateNumber then
    some (.state token)
  else if command.number = versioned timeOfDayNumber then
    some (.timeOfDay token)
  else if command.number = versioned setTimeOfDayNumber then
    some (.setTimeOfDay token (command.field 0 0 64))
  else
    none

/-! ### Responses -/

def readAttributes (response : Command) : TileAttributes :=
  { id := (response.field 0 0 32).toUInt32
    major := (response.field 1 0 32).toUInt32
    minor := (response.field 1 32 32).toUInt32 }

def readServiceLayerVersion (response : Command) : ServiceLayerVersion :=
  { major := (response.field 0 0 32).toUInt32
    minor := (response.field 0 32 32).toUInt32
    revision := (response.field 1 0 32).toUInt32 }

def readState (response : Command) : TileState :=
  TileState.ofWord (response.field 0 0 32).toUInt32

def readTimeOfDay (response : Command) : UInt64 :=
  response.field 0 0 64

/-- The reply that a response carries; an opened session is named by the response's token. -/
def readReply (response : Command) : (call : Call) → call.Reply
  | .openSession _ => response.token
  | .closeSession _ => ()
  | .reset _ => ()
  | .load _ _ => ()
  | .run _ _ => ()
  | .attributes _ => readAttributes response
  | .serviceLayerVersion _ => readServiceLayerVersion response
  | .state _ => readState response
  | .timeOfDay _ => readTimeOfDay response
  | .setTimeOfDay _ _ => ()

def writeReply (response : Command) : (call : Call) → call.Reply → Command
  | .openSession _, answer => response.withToken answer
  | .attributes _, answer =>
      response
        |> Command.setField 0 0 32 answer.id.toUInt64
        |> Command.setField 1 0 32 answer.major.toUInt64
        |> Command.setField 1 32 32 answer.minor.toUInt64
  | .serviceLayerVersion _, answer =>
      response
        |> Command.setField 0 0 32 answer.major.toUInt64
        |> Command.setField 0 32 32 answer.minor.toUInt64
        |> Command.setField 1 0 32 answer.revision.toUInt64
  | .state _, answer => response |> Command.setField 0 0 32 answer.word.toUInt64
  | .timeOfDay _, answer => response |> Command.setField 0 0 64 answer
  | .closeSession _, _ => response
  | .reset _, _ => response
  | .load _ _, _ => response
  | .run _ _, _ => response
  | .setTimeOfDay _ _, _ => response

end Call

end Passthrough
