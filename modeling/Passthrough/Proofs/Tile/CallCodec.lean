import Passthrough.Proofs.Command.WordLaws
import Passthrough.Tile.Call

set_option autoImplicit false

/-! Calls and replies survive their way through a command. A command tells which
call it was made from, and a response tells the reply that was written into it. Only
the word of a tile's state is read back as the state that the word stands for. -/

namespace Passthrough.Call

open Command

@[simp] theorem number_encode (call : Call) : call.encode.number = versioned call.number := by
  cases call <;> simp [encode]

@[simp] theorem token_encode (call : Call) : call.encode.token = call.token := by
  cases call <;> simp [encode]

theorem ofCommand?_encode (call : Call) : ofCommand? call.encode = some call := by
  unfold ofCommand?
  rw [number_encode, token_encode]
  cases call with
  | openSession hardwareId =>
      simp +decide [number, encode, field_setField, Field.toUInt32_read]
  | closeSession token => simp +decide [number, Call.token]
  | reset token => simp +decide [number, Call.token]
  | load token config =>
      simp +decide [number, Call.token, encode, field_setField, field_setField_of_ne,
        Field.toUInt32_read, Field.read_whole]
  | run token config =>
      simp +decide [number, Call.token, encode, field_setField, field_setField_of_ne,
        field_setField_of_disjoint, Field.toUInt32_read, Field.read_whole]
  | attributes token => simp +decide [number, Call.token]
  | serviceLayerVersion token => simp +decide [number, Call.token]
  | state token => simp +decide [number, Call.token]
  | timeOfDay token => simp +decide [number, Call.token]
  | setTimeOfDay token time =>
      simp +decide [number, Call.token, encode, field_setField, Field.read_whole]

/-- The reply as it is read from the response that carries it: a tile's state is known by
its word alone. -/
def settled : (call : Call) → call.Reply → call.Reply
  | .openSession _, answer => answer
  | .closeSession _, answer => answer
  | .reset _, answer => answer
  | .load _ _, answer => answer
  | .run _ _, answer => answer
  | .attributes _, answer => answer
  | .serviceLayerVersion _, answer => answer
  | .state _, answer => TileState.ofWord answer.word
  | .timeOfDay _, answer => answer
  | .setTimeOfDay _ _, answer => answer

/-- What was written into a response is read from it, whatever its status. -/
theorem readReply_writeReply (response : Command) (status : Status) (call : Call)
    (reply : call.Reply) :
    readReply ((writeReply response call reply).withStatus status) call = call.settled reply := by
  cases call with
  | openSession hardwareId => simp [readReply, writeReply, settled]
  | attributes token =>
      simp +decide [readReply, readAttributes, writeReply, settled, field_setField,
        field_setField_of_ne, field_setField_of_disjoint, Field.toUInt32_read]
  | serviceLayerVersion token =>
      simp +decide [readReply, readServiceLayerVersion, writeReply, settled, field_setField,
        field_setField_of_ne, field_setField_of_disjoint, Field.toUInt32_read]
  | state token =>
      simp [readReply, readState, writeReply, settled, field_setField, Field.toUInt32_read]
  | timeOfDay token =>
      simp [readReply, readTimeOfDay, writeReply, settled, field_setField, Field.read_whole]
  | closeSession token => rfl
  | reset token => rfl
  | load token config => rfl
  | run token config => rfl
  | setTimeOfDay token time => rfl

end Passthrough.Call
