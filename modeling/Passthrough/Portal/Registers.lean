import Passthrough.Action
import Passthrough.Tile.Call

set_option autoImplicit false

/-! The command portal of the management complex: eight registers, of which the
first holds the header. A command is written with its header last; the header is
then read until it no longer says that the command is pending, and the parameters
of the response are read after that. Which registers these are is a parameter. -/

namespace Passthrough.Portal

/-- Registers of 64 bits in a world, by byte offset; a read may change the world too. -/
structure Registers (World : Type) where
  read : Nat → World → UInt64 × World
  write : Nat → UInt64 → World → World

/-- How long to wait for a response. The thread yields every so many reads; zero never yields. -/
structure PollConfig where
  maximumPolls : UInt32
  yieldInterval : UInt32
  deriving DecidableEq

def PollConfig.standard : PollConfig :=
  { maximumPolls := 1000000, yieldInterval := 1000 }

/-- The word that a portal holding a command shows at a byte offset: the register that the
offset falls into. There is none past the parameters; nobody looks there. -/
def wordAt (cells : Command) (offset : Nat) : UInt64 :=
  if offset / 8 = 0 then cells.header else (cells.parameters[offset / 8 - 1]?).getD 0

def storeAt (cells : Command) (offset : Nat) (value : UInt64) : Command :=
  if offset / 8 = 0 then { cells with header := value }
  else { cells with parameters := cells.parameters.setIfInBounds (offset / 8 - 1) value }

namespace Registers

variable {World : Type}

def submit (registers : Registers World) (command : Command) (world : World) : World :=
  let prepared := (List.finRange Command.parameterCount).foldl
    (fun world (index : Fin Command.parameterCount) =>
      registers.write (Command.parameterOffset index) (command.parameters.get index) world)
    world
  registers.write 0 command.header prepared

/-- Reads the header at most so many times, until it no longer says pending. To yield the thread
between two reads changes nothing that is modelled, so `yieldInterval` has no part in this. -/
def await (registers : Registers World) : Nat → World → Option UInt64 × World
  | 0, world => (none, world)
  | remaining + 1, world =>
      let (header, world) := registers.read 0 world
      if Command.headerStatus header = .ready then registers.await remaining world
      else (some header, world)

def collect (registers : Registers World) (header : UInt64) (world : World) : Command × World :=
  let (parameters, world) := (List.finRange Command.parameterCount).foldl
    (fun (collected, world) (index : Fin Command.parameterCount) =>
      let (value, world) := registers.read (Command.parameterOffset index) world
      (collected.set index.val value index.isLt, world))
    (Command.blank.parameters, world)
  ({ header := header, parameters := parameters }, world)

def send (registers : Registers World) (poll : PollConfig) (operation : String)
    (command : Command) (world : World) : Result Command × World :=
  match registers.await poll.maximumPolls.toNat (registers.submit command world) with
  | (none, world) => (.error (.firmwareTimeout operation poll.maximumPolls), world)
  | (some header, world) =>
      let (response, world) := registers.collect header world
      match response.status with
      | .ok => (.ok response, world)
      | status => (.error (.firmware operation status), world)

def request (registers : Registers World) (poll : PollConfig) (call : Call) (world : World) :
    Result call.Reply × World :=
  let (result, world) := registers.send poll call.name call.encode world
  (result.map fun response => Call.readReply response call, world)

end Registers

end Passthrough.Portal
