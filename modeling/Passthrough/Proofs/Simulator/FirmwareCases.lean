import Passthrough.Simulator.Firmware

set_option autoImplicit false

/-! What the simulated firmware does, one case a statement. Whatever is asked of it,
only the tile, the open sessions with their counter, and the record of happenings can
change; a refusal bears a status that no header confuses with another. -/

namespace Passthrough

/-- A status that ends the wait for a response and means a refusal. -/
structure Status.Refuses (status : Status) : Prop where
  readBack : Status.ofByte status.byte = status
  notReady : status ≠ .ready
  notOk : status ≠ .ok

namespace Simulator

theorem openSession_of_fault (sim : Simulator) (hardwareId : UInt32)
    (fault : sim.has .firmwareOpen = true) :
    sim.openSession hardwareId =
      (.error .noResource, sim.note (.firmware (.openSession hardwareId))) :=
  if_pos fault

theorem openSession_of_foreign (sim : Simulator) (hardwareId : UInt32)
    (sound : ¬ sim.has .firmwareOpen = true) (foreign : hardwareId ≠ sim.tile.attributes.id) :
    sim.openSession hardwareId =
      (.error .configError, sim.note (.firmware (.openSession hardwareId))) :=
  (if_neg sound).trans (if_pos foreign)

theorem openSession_of_own (sim : Simulator) (hardwareId : UInt32)
    (sound : ¬ sim.has .firmwareOpen = true) (own : hardwareId = sim.tile.attributes.id) :
    sim.openSession hardwareId =
      (.ok ⟨sim.nextToken⟩,
        { sim.note (.firmware (.openSession hardwareId)) with
          lastToken := sim.nextToken
          sessions := sim.sessions.insert sim.nextToken }) :=
  (if_neg sound).trans (if_neg (not_not_intro own))

theorem closeSession_of_unknown (sim : Simulator) (token : Token)
    (unknown : ¬ sim.hasSession token = true) :
    sim.closeSession token = (.error .authError, sim.note (.firmware (.closeSession token))) :=
  if_neg unknown

theorem closeSession_of_known (sim : Simulator) (token : Token)
    (known : sim.hasSession token = true) :
    sim.closeSession token =
      (if sim.has .firmwareClose then .error .busy else .ok (),
        { sim.note (.firmware (.closeSession token)) with
          sessions := sim.sessions.erase token.number }) := by
  unfold closeSession
  have found : (sim.note (.firmware (.closeSession token))).hasSession token = true := known
  rw [if_pos found]
  by_cases fault : sim.has .firmwareClose
  · rw [if_pos fault]
    exact if_pos fault
  · rw [if_neg fault]
    exact if_neg fault

theorem erase_insert_session (sessions : Std.ExtTreeSet UInt16 compare) (token : UInt16)
    (unused : token ∉ sessions) : (sessions.insert token).erase token = sessions := by
  refine Std.ExtTreeSet.ext_mem fun other => ?_
  rw [Std.ExtTreeSet.mem_erase, Std.ExtTreeSet.mem_insert]
  by_cases same : token = other
  · subst same
    simp [unused]
  · simp [same]

theorem nextToken_ne_lastToken (sim : Simulator) : sim.nextToken ≠ sim.lastToken := by
  unfold nextToken
  grind

/-- At most one session was opened, under the token that was next, and it is closed again. -/
def Visit (before after : Simulator) : Prop :=
  after.sessions = before.sessions ∧ after.lastToken = before.lastToken ∨
    after.sessions = (before.sessions.insert before.nextToken).erase before.nextToken ∧
      after.lastToken = before.nextToken

theorem Visit.restored {before after : Simulator} (visit : before.Visit after)
    (unused : after.lastToken ≠ before.lastToken → before.nextToken ∉ before.sessions) :
    after.sessions = before.sessions := by
  rcases visit with ⟨same, -⟩ | ⟨closed, handed⟩
  · exact same
  · refine closed.trans (erase_insert_session _ _ (unused ?_))
    rw [handed]
    exact before.nextToken_ne_lastToken

theorem inSession_of_unknown (sim : Simulator) (call : Call)
    (unknown : ¬ sim.hasSession call.token = true) :
    sim.inSession call = (.error .authError, sim) :=
  if_neg unknown

theorem inSession_of_answer (sim : Simulator) (call : Call) (reply : call.Reply) (tile : Tile)
    (known : sim.hasSession call.token = true) (answered : sim.answer call = .ok (reply, tile)) :
    sim.inSession call = (.ok reply, (sim.note (.firmware call)).setTile tile) := by
  have same : (sim.note (.firmware call)).answer call = .ok (reply, tile) := answered
  unfold inSession
  rw [if_pos known]
  simp only [same]

theorem inSession_of_refusal (sim : Simulator) (call : Call) (status : Status)
    (known : sim.hasSession call.token = true) (refused : sim.answer call = .error status) :
    sim.inSession call = (.error status, sim.note (.firmware call)) := by
  have same : (sim.note (.firmware call)).answer call = .error status := refused
  unfold inSession
  rw [if_pos known]
  simp only [same]

theorem answer_reset (sim : Simulator) (token : Token) :
    sim.answer (.reset token) =
      if sim.has .reset then .error .unsupportedOperation
      else .ok ((), { sim.tile with state := .resetDone }) := by
  simp only [answer, refuse]
  split <;> rfl

theorem answer_load (sim : Simulator) (token : Token) (config : LoadConfig) :
    sim.answer (.load token config) =
      if sim.has .load then .error .configError
      else if sim.covers config.address.toNat config.size.toNat then
        .ok ((), { sim.tile with state := .loadDone })
      else .error .dmaError := by
  simp only [answer, refuse]
  split
  · rfl
  · cases sim.covers config.address.toNat config.size.toNat <;> rfl

/-- An argument block of length zero is not looked up. -/
theorem answer_run (sim : Simulator) (token : Token) (config : RunConfig) :
    sim.answer (.run token config) =
      if sim.has .run then .error .invalidState
      else if sim.tile.state ≠ .loadDone then .error .invalidState
      else if config.argumentSize ≠ 0 ∧
          !sim.covers config.argumentAddress.toNat config.argumentSize.toNat then .error .dmaError
      else .ok ((), { sim.tile with state := .running }) := by
  simp only [answer, refuse]
  split
  · rfl
  · by_cases loaded : sim.tile.state ≠ .loadDone
    · simp only [if_pos loaded]
      rfl
    · simp only [if_neg loaded]
      split <;> rfl

theorem answer_unless_busy (sim : Simulator) (call : Call) (fault : Fault)
    (reply : call.Reply × Tile) (shape : sim.answer call =
      (do sim.refuse fault .busy; return reply)) :
    sim.answer call = if sim.has fault then .error .busy else .ok reply := by
  rw [shape, refuse]
  split <;> rfl

/-- An answer is a refusal, or it leaves alone what a tile cannot change about itself. -/
theorem answer_shape (sim : Simulator) (call : Call) :
    (∃ status : Status, status.Refuses ∧ sim.answer call = .error status) ∨
      ∃ reply tile, sim.answer call = .ok (reply, tile) ∧
        tile.attributes = sim.tile.attributes ∧ tile.serviceLayer = sim.tile.serviceLayer := by
  have plain (call : Call) (fault : Fault) (reply : call.Reply) (tile : Tile)
      (shape : sim.answer call = (do sim.refuse fault .busy; return (reply, tile)))
      (attributes : tile.attributes = sim.tile.attributes)
      (serviceLayer : tile.serviceLayer = sim.tile.serviceLayer) :
      (∃ status : Status, status.Refuses ∧ sim.answer call = .error status) ∨
        ∃ reply tile, sim.answer call = .ok (reply, tile) ∧
          tile.attributes = sim.tile.attributes ∧
          tile.serviceLayer = sim.tile.serviceLayer := by
    rw [answer_unless_busy sim call fault (reply, tile) shape]
    split
    · exact Or.inl ⟨.busy, ⟨rfl, nofun, nofun⟩, rfl⟩
    · exact Or.inr ⟨reply, tile, rfl, attributes, serviceLayer⟩
  cases call with
  | openSession hardwareId => exact Or.inl ⟨.authError, ⟨rfl, nofun, nofun⟩, rfl⟩
  | closeSession token => exact Or.inl ⟨.authError, ⟨rfl, nofun, nofun⟩, rfl⟩
  | reset token =>
      rw [answer_reset]
      split
      · exact Or.inl ⟨.unsupportedOperation, ⟨rfl, nofun, nofun⟩, rfl⟩
      · exact Or.inr ⟨_, _, rfl, rfl, rfl⟩
  | load token config =>
      rw [answer_load]
      split
      · exact Or.inl ⟨.configError, ⟨rfl, nofun, nofun⟩, rfl⟩
      · split
        · exact Or.inr ⟨_, _, rfl, rfl, rfl⟩
        · exact Or.inl ⟨.dmaError, ⟨rfl, nofun, nofun⟩, rfl⟩
  | run token config =>
      rw [answer_run]
      split
      · exact Or.inl ⟨.invalidState, ⟨rfl, nofun, nofun⟩, rfl⟩
      · split
        · exact Or.inl ⟨.invalidState, ⟨rfl, nofun, nofun⟩, rfl⟩
        · split
          · exact Or.inl ⟨.dmaError, ⟨rfl, nofun, nofun⟩, rfl⟩
          · exact Or.inr ⟨_, _, rfl, rfl, rfl⟩
  | attributes token => exact plain _ .attributes _ _ rfl rfl rfl
  | serviceLayerVersion token => exact plain _ .serviceLayerVersion _ _ rfl rfl rfl
  | state token => exact plain _ .state _ _ rfl rfl rfl
  | timeOfDay token => exact plain _ .timeOfDay _ _ rfl rfl rfl
  | setTimeOfDay token time => exact plain _ .setTimeOfDay _ _ rfl rfl rfl

theorem refuses_of_serve (sim : Simulator) (call : Call) (status : Status)
    (refused : (sim.serve call).1 = .error status) : status.Refuses := by
  have inSession (call : Call) (refused : (sim.inSession call).1 = .error status) :
      status.Refuses := by
    by_cases known : sim.hasSession call.token
    · rcases answer_shape sim call with ⟨found, proper, answered⟩ | ⟨reply, tile, answered, -, -⟩
      · rw [inSession_of_refusal sim call found known answered] at refused
        cases refused
        exact proper
      · rw [inSession_of_answer sim call reply tile known answered] at refused
        cases refused
    · rw [inSession_of_unknown sim call known] at refused
      cases refused
      exact ⟨rfl, nofun, nofun⟩
  cases call with
  | openSession hardwareId =>
      change (sim.openSession hardwareId).1 = .error status at refused
      by_cases fault : sim.has .firmwareOpen
      · rw [openSession_of_fault sim hardwareId fault] at refused
        cases refused
        exact ⟨rfl, nofun, nofun⟩
      · by_cases own : hardwareId = sim.tile.attributes.id
        · rw [openSession_of_own sim hardwareId fault own] at refused
          cases refused
        · rw [openSession_of_foreign sim hardwareId fault own] at refused
          cases refused
          exact ⟨rfl, nofun, nofun⟩
  | closeSession token =>
      change (sim.closeSession token).1 = .error status at refused
      by_cases known : sim.hasSession token
      · rw [closeSession_of_known sim token known] at refused
        split at refused
        · cases refused
          exact ⟨rfl, nofun, nofun⟩
        · cases refused
      · rw [closeSession_of_unknown sim token known] at refused
        cases refused
        exact ⟨rfl, nofun, nofun⟩
  | _ => exact inSession _ refused

/-- The machine after a firmware call: what the firmware owns is new, all else is as before. -/
structure FirmwareChange (before after : Simulator) : Prop where
  same : after = { before with
    lastToken := after.lastToken
    sessions := after.sessions
    tile := after.tile
    portals := after.portals
    events := after.events }
  attributes : after.tile.attributes = before.tile.attributes
  serviceLayer : after.tile.serviceLayer = before.tile.serviceLayer

theorem inSession_change (sim : Simulator) (call : Call) :
    FirmwareChange sim (sim.inSession call).2 ∧
      (sim.inSession call).2.sessions = sim.sessions ∧
      (sim.inSession call).2.lastToken = sim.lastToken := by
  by_cases known : sim.hasSession call.token
  · rcases answer_shape sim call with
      ⟨status, -, answered⟩ | ⟨reply, tile, answered, attributes, serviceLayer⟩
    · rw [inSession_of_refusal sim call status known answered]
      exact ⟨⟨rfl, rfl, rfl⟩, rfl, rfl⟩
    · rw [inSession_of_answer sim call reply tile known answered]
      exact ⟨⟨rfl, attributes, serviceLayer⟩, rfl, rfl⟩
  · rw [inSession_of_unknown sim call known]
    exact ⟨⟨rfl, rfl, rfl⟩, rfl, rfl⟩

theorem serve_change (sim : Simulator) (call : Call) : FirmwareChange sim (sim.serve call).2 := by
  cases call with
  | openSession hardwareId =>
      change FirmwareChange sim (sim.openSession hardwareId).2
      by_cases fault : sim.has .firmwareOpen
      · rw [openSession_of_fault sim hardwareId fault]
        exact ⟨rfl, rfl, rfl⟩
      · by_cases own : hardwareId = sim.tile.attributes.id
        · rw [openSession_of_own sim hardwareId fault own]
          exact ⟨rfl, rfl, rfl⟩
        · rw [openSession_of_foreign sim hardwareId fault own]
          exact ⟨rfl, rfl, rfl⟩
  | closeSession token =>
      change FirmwareChange sim (sim.closeSession token).2
      by_cases known : sim.hasSession token
      · rw [closeSession_of_known sim token known]
        exact ⟨rfl, rfl, rfl⟩
      · rw [closeSession_of_unknown sim token known]
        exact ⟨rfl, rfl, rfl⟩
  | _ => exact (inSession_change sim _).1

theorem execute_change (sim : Simulator) (command : Command) :
    FirmwareChange sim (sim.execute command).2 := by
  unfold execute
  cases Call.ofCommand? command with
  | none => exact ⟨rfl, rfl, rfl⟩
  | some call => exact serve_change sim call

/-- A call is recorded, unless it names no session that is open. -/
theorem serve_events (sim : Simulator) (call : Call) :
    (sim.serve call).2.events = sim.events ∨
      (sim.serve call).2.events = .firmware call :: sim.events := by
  have inSession (call : Call) : (sim.inSession call).2.events = sim.events ∨
      (sim.inSession call).2.events = .firmware call :: sim.events := by
    by_cases known : sim.hasSession call.token
    · rcases answer_shape sim call with ⟨status, -, answered⟩ | ⟨reply, tile, answered, -, -⟩
      · rw [inSession_of_refusal sim call status known answered]
        exact Or.inr rfl
      · rw [inSession_of_answer sim call reply tile known answered]
        exact Or.inr rfl
    · rw [inSession_of_unknown sim call known]
      exact Or.inl rfl
  cases call with
  | openSession hardwareId =>
      refine Or.inr ?_
      change (sim.openSession hardwareId).2.events = _
      unfold openSession
      dsimp only
      repeat' split
      all_goals rfl
  | closeSession token =>
      refine Or.inr ?_
      change (sim.closeSession token).2.events = _
      unfold closeSession
      dsimp only
      repeat' split
      all_goals rfl
  | _ => exact inSession _

end Simulator

end Passthrough
