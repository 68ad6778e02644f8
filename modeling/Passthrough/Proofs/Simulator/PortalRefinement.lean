import Passthrough.Proofs.Simulator.FirmwareRules

set_option autoImplicit false

/-! The codec of the portal refines the rules of the firmware. A call that goes through a
simulated portal, word by word, ends as a rule says: the encoder, the order of the
registers, the firmware's own decoder and the layout of the response agree on each
field of each call. -/

namespace Passthrough.Simulator

open Portal

private theorem accesses_request (sim : Simulator) (portal : HostAddress) (poll : PollConfig)
    (patient : 0 < poll.maximumPolls.toNat) (call : Call) :
    ∃ response, statusByte response.header ≠ 1 ∧
      (registers portal).accesses poll call.encode sim =
        submission call.encode ++ polls [response.header] ++ collection response := by
  obtain ⟨-, accesses⟩ := send_registers portal poll patient call sim
  exact ⟨sim.response call, statusByte_response sim call, accesses⟩

private theorem state_of_request (sim : Simulator) (portal : HostAddress) (poll : PollConfig)
    (patient : 0 < poll.maximumPolls.toNat) {token : Token} {state : TileState}
    (told : ((registers portal).request poll (.state token) sim).1 = .ok state) :
    state.word = sim.tile.state.word ∧ state.Canonical := by
  obtain ⟨portals, served, -⟩ := request_registers portal poll patient (.state token) sim
  rw [served] at told
  exact ((sim.answers_iff (.state token) _ _).mpr (Prod.ext told rfl)).state_told

/-- Whatever is asked of a portal in whatever machine, the caller is told what a rule of the
firmware says, and the machine is the rule's but for the words that this portal shows. A state
that is told has the word of the one that is stored, and is that very state unless it was
stored as unknown under a word that has a name. -/
theorem request_refines_rules (sim : Simulator) (portal : HostAddress) (poll : PollConfig)
    (patient : 0 < poll.maximumPolls.toNat) (call : Call) :
    let ended := (registers portal).tapped.request poll call ⟨sim, []⟩
    (registers portal).request poll call sim = (ended.1, ended.2.world) ∧
      (∃ after portals, sim.Answers call ended.1 after ∧
        (∀ result other, sim.Answers call result other → result = ended.1 ∧ other = after) ∧
        ended.2.world = after.withPortals portals ∧
        ∀ other, other ≠ portal.value → portals[other]? = sim.portals[other]?) ∧
      (∃ response, statusByte response.header ≠ 1 ∧ ended.2.accesses =
        submission call.encode ++ polls [response.header] ++ collection response) ∧
      ∀ token state, ((registers portal).request poll (.state token) sim).1 = .ok state →
        state.word = sim.tile.state.word ∧
          (sim.tile.state.Canonical → state = sim.tile.state) := by
  intro ended
  have tapped : ended = _ := (registers portal).request_tapped poll call ⟨sim, []⟩
  obtain ⟨portals, served, others⟩ := request_registers portal poll patient call sim
  rw [tapped]
  refine ⟨rfl, ⟨(sim.serve call).2, portals, ?_, ?_, ?_, others⟩, ?_, ?_⟩
  · rw [served]
    exact (sim.answers_iff call _ _).mpr rfl
  · intro result other answers
    have same := (sim.answers_iff call result other).mp answers
    rw [served]
    exact ⟨(congrArg Prod.fst same).symm, (congrArg Prod.snd same).symm⟩
  · rw [served]
    rfl
  · exact sim.accesses_request portal poll patient call
  · intro token state told
    obtain ⟨word, canonical⟩ := sim.state_of_request portal poll patient told
    exact ⟨word, fun stored => canonical.eq_of_word stored word⟩

/-- A run whose argument block ends with its registration, in a session that is open; who then
asks for the state is told that the tile runs. -/
theorem request_refines_rules_of_run :
    let config : RunConfig := ⟨0xff, 5, 0x1800, 0x800⟩
    let call := Call.run ⟨7⟩ config
    let sim : Simulator :=
      { empty { Tile.fresh with state := .loadDone } with
        sessions := (∅ : Std.ExtTreeSet UInt16 compare).insert 7
        registrations :=
          (∅ : Std.ExtTreeMap (Int × Nat) Nat registrationOrder).insert (3, 0x1000) 0x1000 }
    let poll : PollConfig := { maximumPolls := 1, yieldInterval := 0 }
    let ended := (registers ⟨0x2000⟩).tapped.request poll call ⟨sim, []⟩
    ended.1 = .ok () ∧ ended.2.world.tile.state = .running ∧
      ended.2.world.events = [.firmware call] ∧
      ((registers ⟨0x2000⟩).request poll (.state ⟨7⟩) ended.2.world).1 = .ok .running := by
  intro config call sim poll ended
  obtain ⟨-, ⟨after, portals, -, unique, world, -⟩, -, -⟩ :=
    sim.request_refines_rules ⟨0x2000⟩ poll (by decide) call
  have open7 : (7 : UInt16) ∈ sim.sessions := by decide +kernel
  have rule : sim.Answers call (.ok ())
      (sim.recording call { sim.tile with state := .running }) := by
    refine .run ⟨7⟩ config ⟨open7, fun _ _ _ => rfl⟩ rfl fun _ => ?_
    refine ⟨3, 0x1000, 0x1000, ?_, by decide, by decide⟩
    decide +kernel
  obtain ⟨told, reached⟩ := unique _ _ rule
  change ended.2.world = _ at world
  rw [world, ← reached]
  refine ⟨told.symm, rfl, rfl, ?_⟩
  obtain ⟨same, ⟨_, _, -, single, -, -⟩, -, -⟩ :=
    (after.withPortals portals).request_refines_rules ⟨0x2000⟩ poll (by decide) (.state ⟨7⟩)
  rw [← reached] at same single
  rw [same]
  exact (single _ _ (.state ⟨7⟩ .running ⟨open7, fun _ _ _ => rfl⟩ rfl nofun)).1.symm

end Passthrough.Simulator
