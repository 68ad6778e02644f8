import Passthrough.Error
import Passthrough.Simulator.State

set_option autoImplicit false

/-! The firmware of the simulated tile. `serve` says what each call answers and
changes; `execute` is the same for a command word, whose response it writes. A call
that needs a session and names none that is open is not even recorded. -/

namespace Passthrough.Simulator

/-- The next token: one more than the last, with zero left out. -/
def nextToken (sim : Simulator) : UInt16 :=
  let following := sim.lastToken + 1
  if following = 0 then 1 else following

def hasSession (sim : Simulator) (token : Token) : Bool :=
  sim.sessions.contains token.number

def covers (sim : Simulator) (address size : Nat) : Bool :=
  sim.registrations.toList.any fun ((_, start), length) =>
    start ≤ address && address + size ≤ start + length

def setTile (sim : Simulator) (tile : Tile) : Simulator :=
  { sim with tile := tile }

def refuse (sim : Simulator) (fault : Fault) (status : Status) : Except Status Unit :=
  if sim.has fault then .error status else .ok ()

/-- What the firmware answers to a call made in an open session: the reply, and the tile
afterwards. -/
def answer (sim : Simulator) : (call : Call) → Except Status (call.Reply × Tile)
  | .reset _ => do
      sim.refuse .reset .unsupportedOperation
      return ((), { sim.tile with state := .resetDone })
  | .load _ config => do
      sim.refuse .load .configError
      if !sim.covers config.address.toNat config.size.toNat then
        throw .dmaError
      return ((), { sim.tile with state := .loadDone })
  | .run _ config => do
      sim.refuse .run .invalidState
      if sim.tile.state ≠ .loadDone then
        throw .invalidState
      if config.argumentSize ≠ 0 ∧
          !sim.covers config.argumentAddress.toNat config.argumentSize.toNat then
        throw .dmaError
      return ((), { sim.tile with state := .running })
  | .attributes _ => do
      sim.refuse .attributes .busy
      return (sim.tile.attributes, sim.tile)
  | .serviceLayerVersion _ => do
      sim.refuse .serviceLayerVersion .busy
      return (sim.tile.serviceLayer, sim.tile)
  | .state _ => do
      sim.refuse .state .busy
      return (sim.tile.state, sim.tile)
  | .timeOfDay _ => do
      sim.refuse .timeOfDay .busy
      return (sim.tile.timeOfDay, sim.tile)
  | .setTimeOfDay _ time => do
      sim.refuse .setTimeOfDay .busy
      return ((), { sim.tile with timeOfDay := time })
  | .openSession _ => .error .authError
  | .closeSession _ => .error .authError

def openSession (sim : Simulator) (hardwareId : UInt32) : Except Status Token × Simulator :=
  let sim := sim.note (.firmware (.openSession hardwareId))
  if sim.has .firmwareOpen then (.error .noResource, sim)
  else if hardwareId ≠ sim.tile.attributes.id then (.error .configError, sim)
  else
    let token := sim.nextToken
    (.ok ⟨token⟩, { sim with lastToken := token, sessions := sim.sessions.insert token })

/-- Closes a session. It is gone even when closing reports a fault. -/
def closeSession (sim : Simulator) (token : Token) : Except Status Unit × Simulator :=
  let sim := sim.note (.firmware (.closeSession token))
  if sim.hasSession token then
    let closed := { sim with sessions := sim.sessions.erase token.number }
    if sim.has .firmwareClose then (.error .busy, closed) else (.ok (), closed)
  else (.error .authError, sim)

def inSession (sim : Simulator) (call : Call) : Except Status call.Reply × Simulator :=
  if sim.hasSession call.token then
    let sim := sim.note (.firmware call)
    match sim.answer call with
    | .ok (reply, tile) => (.ok reply, sim.setTile tile)
    | .error status => (.error status, sim)
  else (.error .authError, sim)

def serve (sim : Simulator) (call : Call) : Except Status call.Reply × Simulator :=
  match call with
  | .openSession hardwareId => sim.openSession hardwareId
  | .closeSession token => sim.closeSession token
  | call => sim.inSession call

def respond (command : Command) (call : Call) (outcome : Except Status call.Reply) : Command :=
  let blank := { Command.blank with header := command.header }
  match outcome with
  | .ok reply => (Call.writeReply blank call reply).withStatus .ok
  | .error status => blank.withStatus status

/-- Executes a command word. An unknown number is refused as such only in an open session. -/
def execute (sim : Simulator) (command : Command) : Command × Simulator :=
  match Call.ofCommand? command with
  | some call =>
      let (outcome, sim) := sim.serve call
      (respond command call outcome, sim)
  | none =>
      let status := if sim.hasSession command.token then Status.unsupportedOperation else .authError
      ({ Command.blank with header := command.header }.withStatus status, sim)

end Passthrough.Simulator
