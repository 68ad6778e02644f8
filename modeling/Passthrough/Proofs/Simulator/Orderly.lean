import Passthrough.Proofs.Simulator.CallFrames
import Passthrough.Proofs.Simulator.Holdings

set_option autoImplicit false

/-! Machines in good order. Numbers and addresses to come are free, only open groups are
attached, no group is open twice, and whatever is registered belongs to an open container.
All machines that can be reached are so, and calls to the firmware keep them so. -/

namespace Passthrough.Simulator

/-- No two descriptors stand for one group. -/
def Exclusive (sim : Simulator) : Prop :=
  ∀ (first second : Int) (group : GroupId), sim.descriptors[first]? = some (.group group) →
    sim.descriptors[second]? = some (.group group) → first = second

/-- A registration belongs to a container that is open. -/
def Rooted (sim : Simulator) : Prop :=
  ∀ (container : Int) (address length : Nat),
    sim.registrations[(container, address)]? = some length →
      ∃ translating, sim.descriptors[container]? = some (.container translating)

variable {sim after : Simulator}

private theorem getElem?_insert_cases {number other : Int} {object found : OpenObject}
    (known : (sim.descriptors.insert number object)[other]? = some found) :
    number = other ∧ object = found ∨ number ≠ other ∧ sim.descriptors[other]? = some found := by
  rw [Std.ExtTreeMap.getElem?_insert] at known
  split at known
  · next same => exact Or.inl ⟨by simpa using same, Option.some.inj known⟩
  · next apart => exact Or.inr ⟨by simpa using apart, known⟩

private theorem getElem?_of_erase {number other : Int} {found : OpenObject}
    (known : (sim.descriptors.erase number)[other]? = some found) :
    number ≠ other ∧ sim.descriptors[other]? = some found := by
  rw [Std.ExtTreeMap.getElem?_erase] at known
  split at known
  · cases known
  · next apart => exact ⟨by simpa using apart, known⟩

theorem Exclusive.turn (exclusive : sim.Exclusive) (turn : Turn sim after) : after.Exclusive := by
  unfold Exclusive at exclusive ⊢
  cases turn with
  | opens object unopened descriptors =>
      rw [descriptors]
      intro first second group one other
      rcases getElem?_insert_cases one with ⟨here, new⟩ | ⟨-, old⟩
      · rcases getElem?_insert_cases other with ⟨there, -⟩ | ⟨-, known⟩
        · exact here.symm.trans there
        · exact absurd known (unopened group new second)
      · rcases getElem?_insert_cases other with ⟨-, new⟩ | ⟨-, known⟩
        · exact absurd old (unopened group new first)
        · exact exclusive first second group old known
  | selects container opened descriptors =>
      rw [descriptors]
      intro first second group one other
      rcases getElem?_insert_cases one with ⟨-, impossible⟩ | ⟨-, old⟩
      · cases impossible
      · rcases getElem?_insert_cases other with ⟨-, impossible⟩ | ⟨-, known⟩
        · cases impossible
        · exact exclusive first second group old known
  | closes number opened descriptors =>
      rw [descriptors]
      intro first second group one other
      exact exclusive first second group (getElem?_of_erase one).2 (getElem?_of_erase other).2
  | aside descriptors => rwa [descriptors]
  | attaches _ _ _ descriptors => rwa [descriptors]
  | detaches _ descriptors => rwa [descriptors]
  | registers _ _ _ _ descriptors => rwa [descriptors]
  | unregisters _ descriptors => rwa [descriptors]

private theorem getElem?_of_forget {number : Int} {key : Int × Nat} {length : Nat}
    (found : (sim.registrations.filter fun key _ => key.1 != number)[key]? = some length) :
    sim.registrations[key]? = some length ∧ number ≠ key.1 := by
  rw [Std.ExtTreeMap.getElem?_filter', Option.filter_eq_some_iff] at found
  refine ⟨found.1, ?_⟩
  exact Ne.symm (by simpa using found.2)

theorem Rooted.filter_eq (rooted : sim.Rooted) {number : Int}
    (absent : ∀ translating, sim.descriptors[number]? ≠ some (.container translating)) :
    (sim.registrations.filter fun key _ => key.1 != number) = sim.registrations := by
  refine Std.ExtTreeMap.ext_getElem? fun key => ?_
  obtain ⟨container, address⟩ := key
  rw [Std.ExtTreeMap.getElem?_filter']
  cases found : sim.registrations[(container, address)]? with
  | none => rfl
  | some length =>
      obtain ⟨translating, opened⟩ := rooted container address length found
      have apart : container ≠ number := by
        rintro rfl
        exact absent translating opened
      simp [apart]

/-- Whatever is registered belongs to an open container, and to one of an admissible mode. -/
def RegisteredIn (sim : Simulator) (admissible : Bool → Prop) : Prop :=
  ∀ (container : Int) (address length : Nat),
    sim.registrations[(container, address)]? = some length →
      ∃ translating, admissible translating ∧
        sim.descriptors[container]? = some (.container translating)

/-- Registering needs a container whose mode is selected, and no mode is ever taken back. -/
theorem RegisteredIn.turn {admissible : Bool → Prop} (selected : admissible true)
    (registered : sim.RegisteredIn admissible) (turn : Turn sim after) (fresh : sim.Fresh) :
    after.RegisteredIn admissible := by
  unfold RegisteredIn at registered ⊢
  cases turn with
  | opens object unopened descriptors attachments registrations =>
      rw [descriptors, registrations]
      intro container address length found
      obtain ⟨translating, mode, opened⟩ := registered container address length found
      have apart : sim.lastDescriptor + 1 ≠ container := by
        rintro rfl
        rw [fresh.descriptors _ (Int.lt_succ _)] at opened
        cases opened
      refine ⟨translating, mode, ?_⟩
      rw [Std.ExtTreeMap.getElem?_insert, if_neg (by simpa using apart)]
      exact opened
  | selects chosen opened descriptors attachments registrations =>
      rw [descriptors, registrations]
      intro container address length found
      obtain ⟨translating, mode, opened⟩ := registered container address length found
      rw [Std.ExtTreeMap.getElem?_insert]
      split
      · exact ⟨true, selected, rfl⟩
      · exact ⟨translating, mode, opened⟩
  | registers chosen start size opened descriptors attachments registrations =>
      rw [descriptors, registrations]
      intro container address length found
      rw [Std.ExtTreeMap.getElem?_insert] at found
      split at found
      · next same =>
          cases Std.LawfulEqCmp.compare_eq_iff_eq.mp same
          exact ⟨true, selected, opened⟩
      · exact registered container address length found
  | unregisters key descriptors attachments registrations =>
      rw [descriptors, registrations]
      intro container address length found
      rw [Std.ExtTreeMap.getElem?_erase] at found
      split at found
      · cases found
      · exact registered container address length found
  | @closes number object opened descriptors attachments registrations =>
      rw [descriptors, registrations]
      intro container address length found
      have before : sim.registrations[(container, address)]? = some length ∧
          number ≠ container := by
        cases object with
        | container translating => exact getElem?_of_forget found
        | _ =>
            refine ⟨found, ?_⟩
            rintro rfl
            obtain ⟨translating, -, known⟩ := registered number address length found
            rw [opened] at known
            cases known
      obtain ⟨known, apart⟩ := before
      obtain ⟨translating, mode, opened⟩ := registered container address length known
      refine ⟨translating, mode, ?_⟩
      rw [Std.ExtTreeMap.getElem?_erase, if_neg (by simpa using apart)]
      exact opened
  | aside descriptors _ registrations => rwa [descriptors, registrations]
  | attaches _ _ _ descriptors _ registrations => rwa [descriptors, registrations]
  | detaches _ descriptors _ registrations => rwa [descriptors, registrations]

theorem rooted_iff : sim.Rooted ↔ sim.RegisteredIn fun _ => True := by
  simp only [Rooted, RegisteredIn, true_and]

theorem Rooted.turn (rooted : sim.Rooted) (turn : Turn sim after) (fresh : sim.Fresh) :
    after.Rooted :=
  rooted_iff.mpr ((rooted_iff.mp rooted).turn trivial turn fresh)

structure Orderly (sim : Simulator) : Prop where
  fresh : sim.Fresh
  anchored : sim.Anchored
  exclusive : sim.Exclusive
  rooted : sim.Rooted

namespace Orderly

theorem turn (orderly : sim.Orderly) (turn : Turn sim after) (fresh : after.Fresh) :
    after.Orderly where
  fresh := fresh
  anchored := orderly.anchored.turn turn orderly.fresh
  exclusive := orderly.exclusive.turn turn
  rooted := orderly.rooted.turn turn orderly.fresh

theorem change (orderly : sim.Orderly) (change : Change sim after) : after.Orderly :=
  orderly.turn change.turn (orderly.fresh.change change)

theorem step (orderly : sim.Orderly) (next : Step sim after) : after.Orderly :=
  orderly.change next.change

theorem empty (tile : Tile) : (Simulator.empty tile).Orderly := by
  have unopened : ∀ (number : Int) (object : OpenObject),
      (Simulator.empty tile).descriptors[number]? ≠ some object := by
    intro number object
    change (∅ : Std.ExtTreeMap Int OpenObject compare)[number]? ≠ some object
    rw [Std.ExtTreeMap.getElem?_empty]
    exact nofun
  refine ⟨fresh_empty tile, (Reachable.empty tile).anchored, ?_, ?_⟩
  · intro first second group one
    exact absurd one (unopened first _)
  · intro container address length found
    change (∅ : Std.ExtTreeMap (Int × Nat) Nat registrationOrder)[(container, address)]? =
      some length at found
    rw [Std.ExtTreeMap.getElem?_empty] at found
    cases found

theorem firmware (orderly : sim.Orderly) (served : FirmwareChange sim after) : after.Orderly :=
  orderly.change (.firmware served)

end Orderly

theorem Reachable.orderly (reachable : sim.Reachable) : sim.Orderly := by
  induction reachable with
  | empty tile => exact .empty tile
  | step _ next known => exact known.step next

end Passthrough.Simulator
