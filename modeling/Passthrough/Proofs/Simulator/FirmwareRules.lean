import Passthrough.Proofs.Simulator.CallFrames
import Passthrough.Proofs.Simulator.PortalService

set_option autoImplicit false

/-! The rules of a tile's firmware, one a constructor. A rule says when it applies, what
the caller is told and what becomes of the machine; no rule mentions a field or a register,
and none an encoder or a decoder. For each call in each machine just one rule applies, and
the firmware of the simulation keeps it. -/

namespace Passthrough

namespace TileState

variable {state other : TileState}

/-- A state that is not called unknown where its word has a name. -/
def Canonical (state : TileState) : Prop :=
  ∀ word, state = .unknown word → ∀ named : TileState, named.word = word → named = state

theorem canonical_ofWord (word : UInt32) : (ofWord word).Canonical := by
  unfold ofWord
  split
  case h_9 =>
    rintro _ ⟨⟩ named spelled
    cases named with
    | unknown => rw [← spelled, TileState.word]
    | _ =>
        cases spelled
        contradiction
  all_goals exact nofun

theorem Canonical.ofWord_word (canonical : state.Canonical) : ofWord state.word = state := by
  cases state with
  | unknown word => exact canonical word rfl (ofWord word) (word_ofWord word)
  | _ => rfl

theorem Canonical.eq_of_word (canonical : state.Canonical) (known : other.Canonical)
    (same : state.word = other.word) : state = other := by
  rw [← canonical.ofWord_word, same, known.ofWord_word]

end TileState

namespace Simulator

/-- One registration holds a whole range of device addresses. -/
def Covered (sim : Simulator) (address size : Nat) : Prop :=
  ∃ (container : Int) (start length : Nat), sim.registrations[(container, start)]? = some length ∧
    start ≤ address ∧ address + size ≤ start + length

theorem covers_iff (sim : Simulator) (address size : Nat) :
    sim.covers address size = true ↔ sim.Covered address size := by
  unfold covers Covered
  rw [List.any_eq_true]
  constructor
  · rintro ⟨⟨⟨container, start⟩, length⟩, member, inside⟩
    refine ⟨container, start, length, Std.ExtTreeMap.mem_toList_iff_getElem?_eq_some.mp member, ?_⟩
    simpa using inside
  · rintro ⟨container, start, length, registered, inside⟩
    refine ⟨((container, start), length),
      Std.ExtTreeMap.mem_toList_iff_getElem?_eq_some.mpr registered, ?_⟩
    simpa using inside

/-- The fault that keeps the firmware from a call of an open session, and what it then says. -/
def obstacle : Call → Option (Fault × Status)
  | .openSession _ => none
  | .closeSession _ => none
  | .reset _ => some (.reset, .unsupportedOperation)
  | .load _ _ => some (.load, .configError)
  | .run _ _ => some (.run, .invalidState)
  | .attributes _ => some (.attributes, .busy)
  | .serviceLayerVersion _ => some (.serviceLayerVersion, .busy)
  | .state _ => some (.state, .busy)
  | .timeOfDay _ => some (.timeOfDay, .busy)
  | .setTimeOfDay _ _ => some (.setTimeOfDay, .busy)

def TakesUp (sim : Simulator) (call : Call) : Prop :=
  call.token.number ∈ sim.sessions ∧
    ∀ fault status, obstacle call = some (fault, status) → sim.has fault = false

def recording (sim : Simulator) (call : Call) (tile : Tile) : Simulator :=
  { sim with tile := tile, events := .firmware call :: sim.events }

/-- What a caller is told, and the machine afterwards. -/
inductive Answers (sim : Simulator) : (call : Call) → Result call.Reply → Simulator → Prop where
  | openFault (hardwareId : UInt32) (fault : sim.has .firmwareOpen = true) :
      Answers sim (.openSession hardwareId) (.error (.firmware "open" .noResource))
        (sim.recording (.openSession hardwareId) sim.tile)
  | openForeign (hardwareId : UInt32) (sound : sim.has .firmwareOpen = false)
      (foreign : hardwareId ≠ sim.tile.attributes.id) :
      Answers sim (.openSession hardwareId) (.error (.firmware "open" .configError))
        (sim.recording (.openSession hardwareId) sim.tile)
  | opened (hardwareId : UInt32) (token : UInt16) (sound : sim.has .firmwareOpen = false)
      (own : hardwareId = sim.tile.attributes.id) (number : token ≠ 0)
      (next : token = sim.lastToken + 1 ∨ sim.lastToken + 1 = 0 ∧ token = 1) :
      Answers sim (.openSession hardwareId) (.ok ⟨token⟩)
        { sim.recording (.openSession hardwareId) sim.tile with
          lastToken := token
          sessions := sim.sessions.insert token }
  | closed (token : Token) (known : token.number ∈ sim.sessions) :
      Answers sim (.closeSession token)
        (if sim.has .firmwareClose then .error (.firmware "close" .busy) else .ok ())
        { sim.recording (.closeSession token) sim.tile with
          sessions := sim.sessions.erase token.number }
  | closeUnknown (token : Token) (unknown : token.number ∉ sim.sessions) :
      Answers sim (.closeSession token) (.error (.firmware "close" .authError))
        (sim.recording (.closeSession token) sim.tile)
  /-- Nothing is changed, and nothing is put on record. -/
  | locked (call : Call) (working : (obstacle call).isSome)
      (unknown : call.token.number ∉ sim.sessions) :
      Answers sim call (.error (.firmware call.name .authError)) sim
  | hindered (call : Call) (fault : Fault) (status : Status)
      (known : call.token.number ∈ sim.sessions) (row : obstacle call = some (fault, status))
      (injected : sim.has fault = true) :
      Answers sim call (.error (.firmware call.name status)) (sim.recording call sim.tile)
  | reset (token : Token) (taken : sim.TakesUp (.reset token)) :
      Answers sim (.reset token) (.ok ())
        (sim.recording (.reset token) { sim.tile with state := .resetDone })
  | load (token : Token) (config : LoadConfig) (taken : sim.TakesUp (.load token config))
      (reachable : sim.Covered config.address.toNat config.size.toNat) :
      Answers sim (.load token config) (.ok ())
        (sim.recording (.load token config) { sim.tile with state := .loadDone })
  | loadOutside (token : Token) (config : LoadConfig) (taken : sim.TakesUp (.load token config))
      (outside : ¬ sim.Covered config.address.toNat config.size.toNat) :
      Answers sim (.load token config) (.error (.firmware "load" .dmaError))
        (sim.recording (.load token config) sim.tile)
  | run (token : Token) (config : RunConfig) (taken : sim.TakesUp (.run token config))
      (loaded : sim.tile.state = .loadDone)
      (reachable : config.argumentSize ≠ 0 →
        sim.Covered config.argumentAddress.toNat config.argumentSize.toNat) :
      Answers sim (.run token config) (.ok ())
        (sim.recording (.run token config) { sim.tile with state := .running })
  | runUnloaded (token : Token) (config : RunConfig) (taken : sim.TakesUp (.run token config))
      (unloaded : sim.tile.state ≠ .loadDone) :
      Answers sim (.run token config) (.error (.firmware "run" .invalidState))
        (sim.recording (.run token config) sim.tile)
  | runOutside (token : Token) (config : RunConfig) (taken : sim.TakesUp (.run token config))
      (loaded : sim.tile.state = .loadDone) (given : config.argumentSize ≠ 0)
      (outside : ¬ sim.Covered config.argumentAddress.toNat config.argumentSize.toNat) :
      Answers sim (.run token config) (.error (.firmware "run" .dmaError))
        (sim.recording (.run token config) sim.tile)
  | attributes (token : Token) (taken : sim.TakesUp (.attributes token)) :
      Answers sim (.attributes token) (.ok sim.tile.attributes)
        (sim.recording (.attributes token) sim.tile)
  | serviceLayerVersion (token : Token) (taken : sim.TakesUp (.serviceLayerVersion token)) :
      Answers sim (.serviceLayerVersion token) (.ok sim.tile.serviceLayer)
        (sim.recording (.serviceLayerVersion token) sim.tile)
  /-- A state is told by its word alone. -/
  | state (token : Token) (state : TileState) (taken : sim.TakesUp (.state token))
      (word : state.word = sim.tile.state.word) (canonical : state.Canonical) :
      Answers sim (.state token) (.ok state) (sim.recording (.state token) sim.tile)
  | timeOfDay (token : Token) (taken : sim.TakesUp (.timeOfDay token)) :
      Answers sim (.timeOfDay token) (.ok sim.tile.timeOfDay)
        (sim.recording (.timeOfDay token) sim.tile)
  | setTimeOfDay (token : Token) (time : UInt64) (taken : sim.TakesUp (.setTimeOfDay token time)) :
      Answers sim (.setTimeOfDay token time) (.ok ())
        (sim.recording (.setTimeOfDay token time) { sim.tile with timeOfDay := time })

theorem Answers.state_told {sim after : Simulator} {token : Token} {state : TileState}
    (answers : sim.Answers (.state token) (.ok state) after) :
    state.word = sim.tile.state.word ∧ state.Canonical := by
  cases answers with
  | state _ _ _ word canonical => exact ⟨word, canonical⟩

theorem hasSession_iff (sim : Simulator) (token : Token) :
    sim.hasSession token = true ↔ token.number ∈ sim.sessions := by
  rw [hasSession, Std.ExtTreeSet.contains_iff_mem]

theorem serve_of_working (sim : Simulator) (call : Call) (working : (obstacle call).isSome) :
    sim.serve call = sim.inSession call := by
  cases call with
  | openSession hardwareId => cases working
  | closeSession token => cases working
  | _ => rfl

theorem serve_of_answer (sim : Simulator) (call : Call) (working : (obstacle call).isSome)
    (taken : sim.TakesUp call) {reply : call.Reply} {tile : Tile}
    (answered : sim.answer call = .ok (reply, tile)) :
    sim.serve call = (.ok reply, sim.recording call tile) := by
  rw [sim.serve_of_working call working]
  exact inSession_of_answer sim call reply tile ((sim.hasSession_iff _).mpr taken.1) answered

theorem serve_of_refusal (sim : Simulator) (call : Call) (working : (obstacle call).isSome)
    (known : call.token.number ∈ sim.sessions) {status : Status}
    (refused : sim.answer call = .error status) :
    sim.serve call = (.error status, sim.recording call sim.tile) := by
  rw [sim.serve_of_working call working]
  exact inSession_of_refusal sim call status ((sim.hasSession_iff _).mpr known) refused

theorem answer_of_obstacle (sim : Simulator) (call : Call) {fault : Fault} {status : Status}
    (row : obstacle call = some (fault, status)) (injected : sim.has fault = true) :
    sim.answer call = .error status := by
  cases call with
  | openSession hardwareId => cases row
  | closeSession token => cases row
  | reset token =>
      cases row
      rw [answer_reset, if_pos injected]
  | load token config =>
      cases row
      rw [answer_load, if_pos injected]
  | run token config =>
      cases row
      rw [answer_run, if_pos injected]
  | _ =>
      cases row
      simp only [answer, refuse, if_pos injected]
      rfl

theorem serve_of_report (sim : Simulator) {call : Call} (taken : sim.TakesUp call) {fault : Fault}
    {reply : call.Reply} {tile : Tile} (row : obstacle call = some (fault, .busy))
    (shape : sim.answer call = (do sim.refuse fault .busy; return (reply, tile))) :
    (told call (sim.serve call).1, (sim.serve call).2) =
      (.ok (call.settled reply), sim.recording call tile) := by
  have answered := answer_unless_busy sim call fault (reply, tile) shape
  rw [taken.2 fault .busy row, if_neg Bool.false_ne_true] at answered
  rw [sim.serve_of_answer call (by rw [row]; rfl) taken answered]
  rfl

/-- A rule that applies says what the firmware does. -/
theorem Answers.serve {sim : Simulator} {call : Call} {result : Result call.Reply}
    {after : Simulator} (answers : sim.Answers call result after) :
    (told call (sim.serve call).1, (sim.serve call).2) = (result, after) := by
  cases answers with
  | openFault hardwareId fault =>
      have served : sim.serve (.openSession hardwareId) = _ :=
        openSession_of_fault sim hardwareId fault
      rw [served]
      rfl
  | openForeign hardwareId sound foreign =>
      have served : sim.serve (.openSession hardwareId) = _ :=
        openSession_of_foreign sim hardwareId (Bool.eq_false_iff.mp sound) foreign
      rw [served]
      rfl
  | opened hardwareId token sound own number next =>
      have named : sim.nextToken = token := by
        unfold nextToken
        rcases next with rfl | ⟨wrapped, rfl⟩
        · exact if_neg number
        · exact if_pos wrapped
      have served : sim.serve (.openSession hardwareId) = _ :=
        openSession_of_own sim hardwareId (Bool.eq_false_iff.mp sound) own
      rw [served, ← named]
      rfl
  | closed token known =>
      have served : sim.serve (.closeSession token) = _ :=
        closeSession_of_known sim token ((sim.hasSession_iff token).mpr known)
      rw [served]
      split <;> rfl
  | closeUnknown token unknown =>
      have served : sim.serve (.closeSession token) = _ :=
        closeSession_of_unknown sim token (mt (sim.hasSession_iff token).mp unknown)
      rw [served]
      rfl
  | locked _ working unknown =>
      rw [sim.serve_of_working call working,
        inSession_of_unknown sim call (mt (sim.hasSession_iff _).mp unknown)]
      rfl
  | hindered _ fault status known row injected =>
      rw [sim.serve_of_refusal call (by rw [row]; rfl) known
        (sim.answer_of_obstacle call row injected)]
      rfl
  | reset token taken =>
      have answered := sim.answer_reset token
      rw [taken.2 _ _ rfl, if_neg Bool.false_ne_true] at answered
      rw [sim.serve_of_answer _ rfl taken answered]
      rfl
  | load token config taken reachable =>
      have answered := sim.answer_load token config
      rw [taken.2 _ _ rfl, if_neg Bool.false_ne_true,
        if_pos ((sim.covers_iff _ _).mpr reachable)] at answered
      rw [sim.serve_of_answer _ rfl taken answered]
      rfl
  | loadOutside token config taken outside =>
      have answered := sim.answer_load token config
      rw [taken.2 _ _ rfl, if_neg Bool.false_ne_true,
        if_neg (mt (sim.covers_iff _ _).mp outside)] at answered
      rw [sim.serve_of_refusal _ rfl taken.1 answered]
      rfl
  | run token config taken loaded reachable =>
      have answered := sim.answer_run token config
      have found : ¬ (config.argumentSize ≠ 0 ∧
          (!sim.covers config.argumentAddress.toNat config.argumentSize.toNat) = true) := by
        rintro ⟨given, outside⟩
        rw [(sim.covers_iff _ _).mpr (reachable given)] at outside
        cases outside
      rw [taken.2 _ _ rfl, if_neg Bool.false_ne_true, if_neg (not_not_intro loaded),
        if_neg found] at answered
      rw [sim.serve_of_answer _ rfl taken answered]
      rfl
  | runUnloaded token config taken unloaded =>
      have answered := sim.answer_run token config
      rw [taken.2 _ _ rfl, if_neg Bool.false_ne_true, if_pos unloaded] at answered
      rw [sim.serve_of_refusal _ rfl taken.1 answered]
      rfl
  | runOutside token config taken loaded given outside =>
      have answered := sim.answer_run token config
      have missing :
          (!sim.covers config.argumentAddress.toNat config.argumentSize.toNat) = true := by
        rw [Bool.not_eq_true']
        exact Bool.eq_false_iff.mpr (mt (sim.covers_iff _ _).mp outside)
      rw [taken.2 _ _ rfl, if_neg Bool.false_ne_true, if_neg (not_not_intro loaded),
        if_pos ⟨given, missing⟩] at answered
      rw [sim.serve_of_refusal _ rfl taken.1 answered]
      rfl
  | attributes token taken => exact sim.serve_of_report taken rfl rfl
  | serviceLayerVersion token taken => exact sim.serve_of_report taken rfl rfl
  | state token state taken word canonical =>
      rw [← canonical.ofWord_word, word]
      exact sim.serve_of_report taken rfl rfl
  | timeOfDay token taken => exact sim.serve_of_report taken rfl rfl
  | setTimeOfDay token time taken => exact sim.serve_of_report taken rfl rfl

private theorem exists_answers_of_taken (sim : Simulator) (call : Call)
    (working : (obstacle call).isSome) (taken : sim.TakesUp call) :
    ∃ result after, sim.Answers call result after := by
  cases call with
  | openSession hardwareId => cases working
  | closeSession token => cases working
  | reset token => exact ⟨_, _, .reset token taken⟩
  | load token config =>
      by_cases reachable : sim.Covered config.address.toNat config.size.toNat
      · exact ⟨_, _, .load token config taken reachable⟩
      · exact ⟨_, _, .loadOutside token config taken reachable⟩
  | run token config =>
      by_cases loaded : sim.tile.state = .loadDone
      · by_cases given : config.argumentSize = 0
        · exact ⟨_, _, .run token config taken loaded fun some => absurd given some⟩
        · by_cases reachable :
            sim.Covered config.argumentAddress.toNat config.argumentSize.toNat
          · exact ⟨_, _, .run token config taken loaded fun _ => reachable⟩
          · exact ⟨_, _, .runOutside token config taken loaded given reachable⟩
      · exact ⟨_, _, .runUnloaded token config taken loaded⟩
  | attributes token => exact ⟨_, _, .attributes token taken⟩
  | serviceLayerVersion token => exact ⟨_, _, .serviceLayerVersion token taken⟩
  | state token =>
      exact ⟨_, _, .state token _ taken (TileState.word_ofWord _) (TileState.canonical_ofWord _)⟩
  | timeOfDay token => exact ⟨_, _, .timeOfDay token taken⟩
  | setTimeOfDay token time => exact ⟨_, _, .setTimeOfDay token time taken⟩

theorem exists_answers (sim : Simulator) (call : Call) :
    ∃ result after, sim.Answers call result after := by
  by_cases working : (obstacle call).isSome
  · by_cases known : call.token.number ∈ sim.sessions
    · obtain ⟨⟨fault, status⟩, row⟩ := Option.isSome_iff_exists.mp working
      cases injected : sim.has fault with
      | true => exact ⟨_, _, .hindered call fault status known row injected⟩
      | false =>
          have taken : sim.TakesUp call := by
            refine ⟨known, fun other found same => ?_⟩
            cases row.symm.trans same
            exact injected
          exact sim.exists_answers_of_taken call working taken
    · exact ⟨_, _, .locked call working known⟩
  · cases call with
    | openSession hardwareId =>
        cases fault : sim.has .firmwareOpen with
        | true => exact ⟨_, _, .openFault hardwareId fault⟩
        | false =>
            by_cases own : hardwareId = sim.tile.attributes.id
            · by_cases wrapped : sim.lastToken + 1 = 0
              · exact ⟨_, _, .opened hardwareId 1 fault own (by decide) (Or.inr ⟨wrapped, rfl⟩)⟩
              · exact ⟨_, _, .opened hardwareId _ fault own wrapped (Or.inl rfl)⟩
            · exact ⟨_, _, .openForeign hardwareId fault own⟩
    | closeSession token =>
        by_cases known : token.number ∈ sim.sessions
        · exact ⟨_, _, .closed token known⟩
        · exact ⟨_, _, .closeUnknown token known⟩
    | _ => exact absurd rfl working

/-- The firmware answers as the rules say, and the rules leave it no choice. -/
theorem answers_iff (sim : Simulator) (call : Call) (result : Result call.Reply)
    (after : Simulator) :
    sim.Answers call result after ↔
      (told call (sim.serve call).1, (sim.serve call).2) = (result, after) := by
  constructor
  · exact Answers.serve
  · -- Some rule applies, and it says what was served, so it is this one.
    intro served
    obtain ⟨found, changed, answers⟩ := sim.exists_answers call
    cases answers.serve.symm.trans served
    exact answers

end Simulator

end Passthrough
