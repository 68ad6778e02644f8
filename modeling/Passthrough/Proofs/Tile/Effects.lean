import Passthrough.Proofs.Simulator.FirmwareRules
import Passthrough.Tile.Report

set_option autoImplicit false

/-! What calls to the firmware make of the tile. Only four of them can change it at all, and of
these only one the time; whether a reset or a new time takes effect depends on one fault,
and not on what becomes of the firmware session afterwards. -/

namespace Passthrough

namespace Call

def spares : Call → Bool
  | .reset _ => false
  | .load _ _ => false
  | .run _ _ => false
  | .setTimeOfDay _ _ => false
  | _ => true

/-- A call that sets no time. -/
def sparesTime : Call → Bool
  | .setTimeOfDay _ _ => false
  | _ => true

end Call

/-- What a status says of a tile; a state is known by its word alone. -/
def Tile.status (tile : Tile) : TileStatus :=
  { attributes := tile.attributes
    serviceLayer := tile.serviceLayer
    state := .ofWord tile.state.word }

def Tile.shown (tile : Tile) : (call : Call) → Option call.Reply
  | .attributes _ => some tile.attributes
  | .serviceLayerVersion _ => some tile.serviceLayer
  | .state _ => some (.ofWord tile.state.word)
  | .timeOfDay _ => some tile.timeOfDay
  | _ => none

namespace Simulator

variable {sim : Simulator} {call : Call}

/-- Who asks about the tile and is answered learns what is so. -/
theorem Answers.truthful {told reply : call.Reply} {after : Simulator}
    (shown : sim.tile.shown call = some told) (answers : sim.Answers call (.ok reply) after) :
    reply = told ∧ after.tile = sim.tile := by
  generalize answered : Except.ok reply = result at answers
  cases answers with
  | attributes | serviceLayerVersion | timeOfDay =>
      cases shown
      cases answered
      exact ⟨rfl, rfl⟩
  | state token state taken word canonical =>
      cases shown
      cases answered
      exact ⟨by rw [← word, canonical.ofWord_word], rfl⟩
  | locked | hindered => cases answered
  | _ => cases shown

theorem Answers.tile_serve {result : Result call.Reply} {after : Simulator}
    (answers : sim.Answers call result after) : (sim.serve call).2.tile = after.tile :=
  congrArg (fun served => served.2.tile) answers.serve

theorem tile_serve_of_spares (spares : call.spares = true) (sim : Simulator) :
    (sim.serve call).2.tile = sim.tile := by
  obtain ⟨_, _, answers⟩ := sim.exists_answers call
  rw [answers.tile_serve]
  cases answers with
  | reset | load | run | setTimeOfDay => cases spares
  | _ => rfl

theorem tile_serve_of_sparesTime (spares : call.sparesTime = true) (sim : Simulator) :
    ∃ state, (sim.serve call).2.tile = { sim.tile with state := state } := by
  obtain ⟨_, _, answers⟩ := sim.exists_answers call
  rw [answers.tile_serve]
  cases answers with
  | setTimeOfDay => cases spares
  | _ => exact ⟨_, rfl⟩

theorem tile_serve_reset {token : Token} (known : token.number ∈ sim.sessions) :
    (sim.serve (.reset token)).2.tile =
      if sim.has .reset then sim.tile else { sim.tile with state := .resetDone } := by
  cases injected : sim.has .reset with
  | true => exact (Answers.hindered (.reset token) _ _ known rfl injected).tile_serve
  | false =>
      have taken : sim.TakesUp (.reset token) := by
        refine ⟨known, ?_⟩
        rintro _ _ ⟨⟩
        exact injected
      exact (Answers.reset token taken).tile_serve

theorem tile_serve_setTimeOfDay {token : Token} (known : token.number ∈ sim.sessions)
    (time : UInt64) :
    (sim.serve (.setTimeOfDay token time)).2.tile =
      if sim.has .setTimeOfDay then sim.tile else { sim.tile with timeOfDay := time } := by
  cases injected : sim.has .setTimeOfDay with
  | true => exact (Answers.hindered (.setTimeOfDay token time) _ _ known rfl injected).tile_serve
  | false =>
      have taken : sim.TakesUp (.setTimeOfDay token time) := by
        refine ⟨known, ?_⟩
        rintro _ _ ⟨⟩
        exact injected
      exact (Answers.setTimeOfDay token time taken).tile_serve

end Simulator

end Passthrough
