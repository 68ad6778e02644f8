import Passthrough.Proofs.Journal.Basic
import Passthrough.Proofs.Simulator.Orderly
import Passthrough.Proofs.Table.Loses

set_option autoImplicit false

/-! What calls that close and detach leave of a machine: all that it held before, without what
the journal says was taken away. A call that failed has taken nothing. -/

namespace Passthrough

open Simulator (OpenObject)

namespace Entry

def Closed (calls : List Entry) (number : Int) : Prop :=
  ∃ kind, ⟨.closeKind kind, some number, none⟩ ∈ calls

def Detached (calls : List Entry) (number : Int) : Prop :=
  ⟨.unsetContainer, some number, none⟩ ∈ calls ∨ Closed calls number

variable {calls more : List Entry} {number other : Int}

theorem closed_append :
    Closed (calls ++ more) number ↔ Closed calls number ∨ Closed more number := by
  unfold Closed
  simp only [List.mem_append]
  exact exists_or

theorem detached_append :
    Detached (calls ++ more) number ↔ Detached calls number ∨ Detached more number := by
  unfold Detached
  rw [List.mem_append, closed_append]
  exact or_or_or_comm

theorem not_closed_nil : ¬ Closed [] number := by
  rintro ⟨_, member⟩
  cases member

theorem closed_close (kind : DescriptorKind) :
    Closed [⟨.closeKind kind, some number, none⟩] other ↔ other = number := by
  constructor
  · rintro ⟨_, member⟩
    cases List.mem_singleton.mp member
    rfl
  · rintro rfl
    exact ⟨kind, List.mem_cons_self⟩

theorem detached_close (kind : DescriptorKind) :
    Detached [⟨.closeKind kind, some number, none⟩] other ↔ other = number := by
  constructor
  · rintro (member | closed)
    · cases List.mem_singleton.mp member
    · exact (closed_close kind).mp closed
  · exact fun same => Or.inr ((closed_close kind).mpr same)

theorem detached_unset :
    Detached [⟨.unsetContainer, some number, none⟩] other ↔ other = number := by
  constructor
  · rintro (member | ⟨_, member⟩)
    · cases List.mem_singleton.mp member
      rfl
    · cases List.mem_singleton.mp member
  · rintro rfl
    exact Or.inl List.mem_cons_self

theorem not_closed_unset (subject : Option Int) (failure : Option DriverError) :
    ¬ Closed [⟨.unsetContainer, subject, failure⟩] number := by
  rintro ⟨_, member⟩
  cases List.mem_singleton.mp member

theorem not_closed_failure {entry : Entry} {failure : DriverError}
    (failed : entry.failure = some failure) : ¬ Closed [entry] number := by
  rintro ⟨_, member⟩
  cases List.mem_singleton.mp member
  cases failed

theorem not_detached_failure {entry : Entry} {failure : DriverError}
    (failed : entry.failure = some failure) : ¬ Detached [entry] number := by
  rintro (member | closed)
  · cases List.mem_singleton.mp member
    cases failed
  · exact not_closed_failure failed closed

end Entry

/-- What is left of a machine after calls that take things away. -/
structure Simulator.Shed (before : Simulator) (calls : List Entry) (after : Simulator) : Prop where
  orderly : after.Orderly
  descriptors : Loses (Entry.Closed calls) before.descriptors after.descriptors
  attachments : Loses (Entry.Detached calls) before.attachments after.attachments
  registrations : Loses (fun key => Entry.Closed calls key.1) before.registrations
    after.registrations
  same : after = { before with
    descriptors := after.descriptors
    attachments := after.attachments
    registrations := after.registrations
    events := after.events }

namespace Simulator

namespace Shed

variable {before middle after sim : Simulator} {calls more : List Entry}

theorem refl (orderly : sim.Orderly) : sim.Shed [] sim where
  orderly := orderly
  descriptors := .of_absent fun _ closed => absurd closed Entry.not_closed_nil
  attachments := .of_absent fun _ detached =>
    absurd detached (not_or.mpr ⟨List.not_mem_nil, Entry.not_closed_nil⟩)
  registrations := .of_absent fun _ closed => absurd closed Entry.not_closed_nil
  same := rfl

theorem failed (orderly : sim.Orderly) {entry : Entry} {failure : DriverError}
    (failed : entry.failure = some failure) : sim.Shed [entry] sim where
  orderly := orderly
  descriptors := .of_absent fun _ closed => absurd closed (Entry.not_closed_failure failed)
  attachments := .of_absent fun _ detached => absurd detached (Entry.not_detached_failure failed)
  registrations := .of_absent fun _ closed => absurd closed (Entry.not_closed_failure failed)
  same := rfl

theorem trans (first : before.Shed calls middle) (second : middle.Shed more after) :
    before.Shed (calls ++ more) after where
  orderly := second.orderly
  descriptors := (first.descriptors.trans second.descriptors).congr fun _ =>
    Entry.closed_append.symm
  attachments := (first.attachments.trans second.attachments).congr fun _ =>
    Entry.detached_append.symm
  registrations := (first.registrations.trans second.registrations).congr fun _ =>
    Entry.closed_append.symm
  same := by rw [second.same, first.same]

end Shed

variable {sim : Simulator}

theorem Orderly.unattached (orderly : sim.Orderly) {number : Int} {object : OpenObject}
    (opened : sim.descriptors[number]? = some object) (plain : ∀ group, object ≠ .group group) :
    sim.attachments[number]? = none := by
  cases attached : sim.attachments[number]? with
  | none => rfl
  | some container =>
      obtain ⟨group, found⟩ := orderly.anchored number container attached
      cases opened.symm.trans found
      exact absurd rfl (plain group)

theorem Orderly.unregistered (orderly : sim.Orderly) {number : Int} {object : OpenObject}
    (opened : sim.descriptors[number]? = some object)
    (single : ∀ translating, object ≠ .container translating) (address : Nat) :
    sim.registrations[(number, address)]? = none := by
  cases registered : sim.registrations[(number, address)]? with
  | none => rfl
  | some length =>
      obtain ⟨translating, found⟩ := orderly.rooted number address length registered
      cases opened.symm.trans found
      exact absurd rfl (single translating)

/-- With a descriptor goes what was attached by it and what was registered for it, and nothing
else, whatever it stood for. -/
theorem Orderly.shed_close (orderly : sim.Orderly) {number : Int} {object : OpenObject}
    (opened : sim.descriptors[number]? = some object) (kind : DescriptorKind) :
    (sim.close number).1 = .ok () ∧
      sim.Shed [⟨.closeKind kind, some number, none⟩] (sim.close number).2 := by
  have next := orderly.step (.close number)
  rw [close_eq, opened] at next ⊢
  have closed (other : Int) : other = number ↔
      Entry.Closed [⟨.closeKind kind, some number, none⟩] other :=
    (Entry.closed_close kind).symm
  have descriptors := (Loses.erase sim.descriptors number).congr closed
  have attachments (plain : ∀ group, object ≠ .group group) :
      Loses (Entry.Detached [⟨.closeKind kind, some number, none⟩]) sim.attachments
        sim.attachments := by
    refine .of_absent fun other detached => ?_
    cases (Entry.detached_close kind).mp detached
    exact orderly.unattached opened plain
  have registrations (single : ∀ translating, object ≠ .container translating) :
      Loses (fun key => Entry.Closed [⟨.closeKind kind, some number, none⟩] key.1)
        sim.registrations sim.registrations := by
    refine .of_absent fun (other, address) gone => ?_
    cases (Entry.closed_close kind).mp gone
    exact orderly.unregistered opened single address
  refine ⟨rfl, ?_⟩
  cases object with
  | group group =>
      have same (other : Int) : other = number ↔
          Entry.Detached [⟨.closeKind kind, some number, none⟩] other :=
        (Entry.detached_close kind).symm
      have detached := (Loses.erase sim.attachments number).congr same
      exact ⟨next, descriptors, detached, registrations nofun, rfl⟩
  | container translating =>
      have forgotten := (Loses.filter sim.registrations fun key => key.1 != number).congr
        fun key => (show (key.1 != number) = false ↔ key.1 = number by simp).trans (closed key.1)
      exact ⟨next, descriptors, attachments nofun, forgotten, rfl⟩
  | device name => exact ⟨next, descriptors, attachments nofun, registrations nofun, rfl⟩
  | file => exact ⟨next, descriptors, attachments nofun, registrations nofun, rfl⟩

theorem Orderly.shed_unsetContainer (orderly : sim.Orderly) {group : GroupFd} {container : Int}
    (attached : sim.attachments[group.number]? = some container) :
    (sim.unsetContainer group).1 = .ok () ∧
      sim.Shed [⟨.unsetContainer, some group.number, none⟩] (sim.unsetContainer group).2 := by
  have next := orderly.step (.unsetContainer group)
  have known : sim.attachments.contains group.number = true := by
    rw [Std.ExtTreeMap.contains_eq_isSome_getElem?, attached]
    rfl
  rw [unsetContainer_eq, if_pos known] at next ⊢
  refine ⟨rfl, next, ?_, ?_, ?_, rfl⟩
  · exact .of_absent fun _ closed => absurd closed (Entry.not_closed_unset _ _)
  · exact (Loses.erase sim.attachments group.number).congr fun _ => Entry.detached_unset.symm
  · exact .of_absent fun _ closed => absurd closed (Entry.not_closed_unset _ _)

end Simulator

end Passthrough
