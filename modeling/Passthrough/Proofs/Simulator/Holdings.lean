import Passthrough.Proofs.Simulator.Reachable

set_option autoImplicit false

/-! Only open groups are attached, so a machine without open descriptors has no attachments
either: one whose holdings are empty holds nothing at all. -/

namespace Passthrough.Simulator

/-- Every attached descriptor is open and stands for a group. -/
def Anchored (sim : Simulator) : Prop :=
  ∀ (number : Int) (container : Int), sim.attachments[number]? = some container →
    ∃ group, sim.descriptors[number]? = some (OpenObject.group group)

/-- Nothing is open, attached, mapped or registered, and no firmware session either. -/
structure HoldsNothing (sim : Simulator) : Prop where
  descriptors : sim.descriptors = ∅
  attachments : sim.attachments = ∅
  mappings : sim.mappings = ∅
  registrations : sim.registrations = ∅
  sessions : sim.sessions = ∅

namespace Anchored

variable {sim after : Simulator}

theorem congr (anchored : sim.Anchored) (attachments : after.attachments = sim.attachments)
    (descriptors : after.descriptors = sim.descriptors) : after.Anchored := by
  unfold Anchored
  rw [attachments, descriptors]
  exact anchored

theorem insert (anchored : sim.Anchored) {number : Int} {object : OpenObject}
    (attachments : after.attachments = sim.attachments)
    (descriptors : after.descriptors = sim.descriptors.insert number object)
    (other : ∀ group, sim.descriptors[number]? ≠ some (OpenObject.group group)) :
    after.Anchored := by
  intro key container attached
  rw [attachments] at attached
  obtain ⟨group, found⟩ := anchored key container attached
  have apart : number ≠ key := by
    rintro rfl
    exact other group found
  refine ⟨group, ?_⟩
  rw [descriptors, Std.ExtTreeMap.getElem?_insert, if_neg (by simpa using apart)]
  exact found

theorem turn (anchored : sim.Anchored) (turn : Turn sim after) (fresh : sim.Fresh) :
    after.Anchored := by
  cases turn with
  | aside descriptors attachments => exact anchored.congr attachments descriptors
  | opens object _ descriptors attachments =>
      apply anchored.insert attachments descriptors
      rw [fresh.descriptors _ (Int.lt_succ _)]
      exact nofun
  | attaches group container opened descriptors attachments =>
      intro key attached found
      rw [attachments, Std.ExtTreeMap.getElem?_insert] at found
      rw [descriptors]
      split at found
      · next same =>
          cases Std.LawfulEqCmp.compare_eq_iff_eq.mp same
          exact ⟨_, opened⟩
      · exact anchored key attached found
  | detaches group descriptors attachments =>
      intro key container found
      rw [attachments, Std.ExtTreeMap.getElem?_erase] at found
      rw [descriptors]
      split at found
      · cases found
      · exact anchored key container found
  | selects container opened descriptors attachments =>
      refine anchored.insert attachments descriptors ?_
      rw [opened]
      exact nofun
  | registers _ _ _ _ descriptors attachments => exact anchored.congr attachments descriptors
  | unregisters _ descriptors attachments => exact anchored.congr attachments descriptors
  | @closes number object opened descriptors attachments =>
      intro key container found
      have before : sim.attachments[key]? = some container ∧ number ≠ key := by
        rw [attachments] at found
        cases object with
        | group group =>
            change (sim.attachments.erase number)[key]? = some container at found
            rw [Std.ExtTreeMap.getElem?_erase] at found
            split at found
            · cases found
            · next apart => exact ⟨found, by simpa using apart⟩
        | _ =>
            refine ⟨found, ?_⟩
            rintro rfl
            obtain ⟨group, known⟩ := anchored number container found
            rw [opened] at known
            cases known
      obtain ⟨group, known⟩ := anchored key container before.1
      refine ⟨group, ?_⟩
      rw [descriptors, Std.ExtTreeMap.getElem?_erase, if_neg (by simpa using before.2)]
      exact known

end Anchored

theorem Reachable.anchored {sim : Simulator} (reachable : sim.Reachable) : sim.Anchored := by
  induction reachable with
  | empty tile =>
      intro number container attached
      change (∅ : Std.ExtTreeMap Int Int compare)[number]? = _ at attached
      rw [Std.ExtTreeMap.getElem?_empty] at attached
      cases attached
  | step before next known => exact known.turn next.change.turn before.fresh

theorem Reachable.holdsNothing {sim : Simulator} (reachable : sim.Reachable)
    (nothing : sim.holdings.isEmpty = true) : sim.HoldsNothing := by
  simp only [Holdings.isEmpty, holdings, Bool.and_eq_true, beq_iff_eq] at nothing
  obtain ⟨⟨⟨descriptors, mappings⟩, registrations⟩, sessions⟩ := nothing
  have closed : sim.descriptors = ∅ :=
    Std.ExtTreeMap.eq_empty_iff_size_eq_zero.mpr descriptors
  refine ⟨closed, ?_, Std.ExtTreeMap.eq_empty_iff_size_eq_zero.mpr mappings,
    Std.ExtTreeMap.eq_empty_iff_size_eq_zero.mpr registrations,
    Std.ExtTreeSet.eq_empty_iff_size_eq_zero.mpr sessions⟩
  refine Std.ExtTreeMap.ext_getElem? fun number => ?_
  rw [Std.ExtTreeMap.getElem?_empty]
  cases attached : sim.attachments[number]? with
  | none => rfl
  | some container =>
      obtain ⟨group, found⟩ := reachable.anchored number container attached
      rw [closed, Std.ExtTreeMap.getElem?_empty] at found
      cases found

end Passthrough.Simulator
