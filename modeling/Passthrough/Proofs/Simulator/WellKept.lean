import Passthrough.Proofs.Simulator.Tokens

set_option autoImplicit false

/-! What a machine keeps of its own state, however it is used once it is built. Numbers and
addresses are issued once, the tables agree with each other, host mappings stay clear of
each other with a page between them, a refusal changes nothing that is held, and the
record accounts for every descriptor that is open. -/

namespace Passthrough.Simulator

variable {sim after : Simulator}

/-! ### Numbers and addresses are issued once -/

/-- What is answered once is not answered again, if there is a notion of what is still ahead of
a machine: it only shrinks, and what an answer hands out was ahead until then. -/
theorem run_nodup {α : Type} (given? : Result Answer → Option α) (ahead : Simulator → α → Prop)
    (shrinks : ∀ sim stimulus item, ahead (sim.react stimulus).2 item → ahead sim item)
    (gives : ∀ sim stimulus item, given? (sim.react stimulus).1 = some item →
      ahead sim item ∧ ¬ ahead (sim.react stimulus).2 item)
    (sim : Simulator) (stimuli : List Stimulus) :
    ((sim.run stimuli).1.filterMap given?).Nodup ∧
      ∀ item ∈ (sim.run stimuli).1.filterMap given?, ahead sim item := by
  induction stimuli generalizing sim with
  | nil => exact ⟨List.nodup_nil, nofun⟩
  | cons stimulus rest ih =>
      obtain ⟨distinct, later⟩ := ih (sim.react stimulus).2
      change (List.filterMap given? ((sim.react stimulus).1 ::
        ((sim.react stimulus).2.run rest).1)).Nodup ∧ ∀ item ∈ List.filterMap given?
          ((sim.react stimulus).1 :: ((sim.react stimulus).2.run rest).1), ahead sim item
      cases given : given? (sim.react stimulus).1 with
      | none =>
          rw [List.filterMap_cons_none given]
          exact ⟨distinct, fun item member => shrinks sim stimulus item (later item member)⟩
      | some first =>
          obtain ⟨before, spent⟩ := gives sim stimulus first given
          rw [List.filterMap_cons_some given]
          constructor
          · rw [List.nodup_cons]
            exact ⟨fun again => spent (later first again), distinct⟩
          · intro item member
            rcases List.mem_cons.mp member with same | behind
            · rw [same]
              exact before
            · exact shrinks sim stimulus item (later item behind)

theorem issued_nodup (sim : Simulator) (stimuli : List Stimulus) :
    ((sim.run stimuli).1.filterMap issued?).Nodup := by
  refine (run_nodup issued? (fun sim number => sim.lastDescriptor < number) ?_ ?_ sim stimuli).1
  · intro sim stimulus number ahead
    have dealing := (sim.react_dealing stimulus).issued
    split at dealing <;> omega
  · intro sim stimulus number issued
    have dealing := (sim.react_dealing stimulus).issued
    rw [issued] at dealing
    omega

theorem placed_nodup (sim : Simulator) (stimuli : List Stimulus) :
    ((sim.run stimuli).1.filterMap placed?).Nodup := by
  refine (run_nodup placed? (fun sim address => sim.nextAddress ≤ address.value) ?_ ?_ sim
    stimuli).1
  · intro sim stimulus address ahead
    have dealing := (sim.react_dealing stimulus).placed
    split at dealing <;> omega
  · intro sim stimulus address placed
    have dealing := (sim.react_dealing stimulus).placed
    rw [placed] at dealing
    omega

/-! ### Mappings stay clear of each other -/

/-- A mapping has its pages and the page behind them for itself. -/
structure Spaced (sim : Simulator) : Prop where
  below : ∀ address length, sim.mappings[address]? = some length →
    address + mappedPages length * 4096 ≤ sim.nextAddress
  apart : ∀ first second length other, sim.mappings[first]? = some length →
    sim.mappings[second]? = some other → first < second →
      first + mappedPages length * 4096 ≤ second

theorem Spaced.place (spaced : sim.Spaced) (placement : Placement sim after) : after.Spaced := by
  cases placement with
  | aside address mappings =>
      constructor
      · rw [address, mappings]
        exact spaced.below
      · rw [mappings]
        exact spaced.apart
  | allocates size address mappings =>
      have entry (place length : Nat) (found : after.mappings[place]? = some length) :
          place = sim.nextAddress ∧ length = size ∨ sim.mappings[place]? = some length := by
        rw [mappings, Std.ExtTreeMap.getElem?_insert] at found
        split at found
        · next same =>
            exact Or.inl ⟨(Std.LawfulEqOrd.eq_of_compare same).symm, (Option.some.inj found).symm⟩
        · exact Or.inr found
      constructor
      · intro place length found
        rcases entry place length found with ⟨here, same⟩ | old
        · rw [here, same, address]
        · have bound := spaced.below place length old
          omega
      · intro first second length other one two before
        rcases entry first length one with ⟨here, same⟩ | old
        · rcases entry second other two with ⟨there, -⟩ | known
          · omega
          · have bound := spaced.below second other known
            omega
        · have bound := spaced.below first length old
          rcases entry second other two with ⟨there, -⟩ | known
          · omega
          · exact spaced.apart first second length other old known before
  | removes number address mappings =>
      have entry (place length : Nat) (found : after.mappings[place]? = some length) :
          sim.mappings[place]? = some length := by
        rw [mappings, Std.ExtTreeMap.getElem?_erase] at found
        split at found
        · cases found
        · exact found
      constructor
      · intro place length found
        rw [address]
        exact spaced.below place length (entry place length found)
      · intro first second length other one two before
        exact spaced.apart first second length other (entry first length one)
          (entry second other two) before

def Covers (sim : Simulator) (place : Nat) : Prop :=
  ∃ address length, sim.mappings[address]? = some length ∧ address ≤ place ∧
    place < address + length

theorem length_le_pages (length : Nat) : length ≤ (length + 4095) / 4096 * 4096 := by
  omega

/-! ### The machine in order -/

/-- What holds of every machine that is in use. -/
structure WellKept (sim : Simulator) : Prop where
  exclusive : ∀ (first second : Int) (group : GroupId),
    sim.descriptors[first]? = some (.group group) →
      sim.descriptors[second]? = some (.group group) → first = second
  attached : ∀ number container : Int, sim.attachments[number]? = some container →
    ∃ group, sim.descriptors[number]? = some (.group group)
  registered : ∀ (container : Int) (address length : Nat),
    sim.registrations[(container, address)]? = some length →
      sim.descriptors[container]? = some (.container true)
  tokenless : 0 ∉ sim.sessions
  disjoint : ∀ first second length other : Nat, sim.mappings[first]? = some length →
    sim.mappings[second]? = some other → first ≠ second →
      first + length ≤ second ∨ second + other ≤ first
  /-- The page behind a mapping's last one is in no mapping. -/
  guarded : ∀ address length : Nat, sim.mappings[address]? = some length →
    ∀ place : Nat, address + (length + 4095) / 4096 * 4096 ≤ place →
      place < address + (length + 4095) / 4096 * 4096 + 4096 → ¬ sim.Covers place

/-- The invariant that carries this along. -/
structure Kept (sim : Simulator) : Prop where
  orderly : sim.Orderly
  registered : sim.RegisteredIn (· = true)
  tokenless : 0 ∉ sim.sessions
  spaced : sim.Spaced

theorem nextToken_ne_zero (sim : Simulator) : sim.nextToken ≠ 0 := by
  unfold nextToken
  grind

theorem Handling.tokenless {handed ended : Option UInt16}
    (handling : Handling sim after handed ended) (tokenless : 0 ∉ sim.sessions) :
    0 ∉ after.sessions := by
  cases handling with
  | opens sessions last =>
      rw [sessions, Std.ExtTreeSet.mem_insert]
      rintro (same | old)
      · exact sim.nextToken_ne_zero (Std.LawfulEqOrd.eq_of_compare same)
      · exact tokenless old
  | closes opened sessions last =>
      rw [sessions, Std.ExtTreeSet.mem_erase]
      exact fun kept => tokenless kept.2
  | aside sessions last => rwa [sessions]

namespace Kept

theorem empty (tile : Tile) : (Simulator.empty tile).Kept where
  orderly := .empty tile
  registered := by
    intro container address length found
    change (∅ : Std.ExtTreeMap (Int × Nat) Nat registrationOrder)[(container, address)]? =
      some length at found
    rw [Std.ExtTreeMap.getElem?_empty] at found
    cases found
  tokenless := Std.ExtTreeSet.not_mem_empty
  spaced := by
    have nothing (address : Nat) : (Simulator.empty tile).mappings[address]? = none :=
      Std.ExtTreeMap.getElem?_empty
    constructor
    · intro address length found
      rw [nothing] at found
      cases found
    · intro first second length other found
      rw [nothing] at found
      cases found

theorem passage (kept : sim.Kept) (passage : Passage sim after) (tokenless : 0 ∉ after.sessions) :
    after.Kept where
  orderly := kept.orderly.change passage.change
  registered := kept.registered.turn rfl passage.change.turn kept.orderly.fresh
  tokenless := tokenless
  spaced := kept.spaced.place passage.change.placement

theorem react (kept : sim.Kept) (stimulus : Stimulus) : (sim.react stimulus).2.Kept :=
  kept.passage (sim.react_passage stimulus)
    ((sim.react_handling stimulus).tokenless kept.tokenless)

theorem run (kept : sim.Kept) (stimuli : List Stimulus) : (sim.run stimuli).2.Kept := by
  induction stimuli generalizing sim with
  | nil => exact kept
  | cons stimulus rest ih => exact ih (kept.react stimulus)

theorem built (tile : Tile) (containers : List (String × GroupId × List String)) :
    (Simulator.built tile containers).Kept := by
  apply built_of_withContainer Kept (.empty tile)
  intro sim name group devices kept
  exact kept.passage (.steps (.withContainer name group devices)) kept.tokenless

theorem wellKept (kept : sim.Kept) : sim.WellKept where
  exclusive := kept.orderly.exclusive
  attached := kept.orderly.anchored
  registered := by
    intro container address length found
    obtain ⟨translating, selected, opened⟩ := kept.registered container address length found
    rwa [selected] at opened
  tokenless := kept.tokenless
  disjoint := by
    intro first second length other one two different
    have enough := length_le_pages length
    have room := length_le_pages other
    rcases Nat.lt_or_gt_of_ne different with before | behind
    · have apart := kept.spaced.apart first second length other one two before
      unfold mappedPages at apart
      omega
    · have apart := kept.spaced.apart second first other length two one behind
      unfold mappedPages at apart
      omega
  guarded := by
    rintro address length mapped place past inside ⟨other, size, known, reached, covered⟩
    have enough := length_le_pages length
    have room := length_le_pages size
    rcases Nat.lt_trichotomy other address with before | same | behind
    · have apart := kept.spaced.apart other address size length known mapped before
      unfold mappedPages at apart
      omega
    · rw [same, mapped] at known
      cases known
      omega
    · have apart := kept.spaced.apart address other length size mapped known behind
      unfold mappedPages at apart
      omega

end Kept

/-! ### The record -/

/-- The record accounts for the descriptors that are open. -/
def Balanced (sim : Simulator) : Prop :=
  sim.openings = sim.closings + sim.holdings.descriptors

private theorem size_issue (fresh : sim.Fresh) (object : OpenObject) :
    (sim.descriptors.insert (sim.lastDescriptor + 1) object).size = sim.descriptors.size + 1 := by
  have unused : ¬ sim.descriptors.contains (sim.lastDescriptor + 1) = true := by
    rw [Std.ExtTreeMap.contains_eq_isSome_getElem?, fresh.descriptors _ (Int.lt_succ _)]
    exact nofun
  rw [Std.ExtTreeMap.size_insert, if_neg unused]

private theorem size_close {number : Int} {object : OpenObject}
    (opened : sim.descriptors[number]? = some object) :
    (sim.descriptors.erase number).size + 1 = sim.descriptors.size := by
  have present : sim.descriptors.contains number = true := by
    rw [Std.ExtTreeMap.contains_eq_isSome_getElem?, opened]
    rfl
  have positive : sim.descriptors.size ≠ 0 := by
    intro nothing
    rw [Std.ExtTreeMap.eq_empty_iff_size_eq_zero.mpr nothing,
      Std.ExtTreeMap.getElem?_empty] at opened
    cases opened
  rw [Std.ExtTreeMap.size_erase, if_pos present]
  omega

theorem Balanced.dealing {stimulus : Stimulus} {answer : Result Answer}
    (balanced : sim.Balanced) (fresh : sim.Fresh) (dealing : Dealing sim stimulus after answer)
    (remembered : stimulus ≠ .forgetEvents) : after.Balanced := by
  have before : sim.openings = sim.closings + sim.descriptors.size := balanced
  change after.openings = after.closings + after.descriptors.size
  cases dealing with
  | refuses holdings counts =>
      rw [counts.openings, counts.closings, holdings.descriptors]
      exact before
  | settles keeps stays size counts =>
      rw [counts.openings, counts.closings, size]
      exact before
  | places length descriptors last address openings closings =>
      rw [openings, closings, descriptors]
      exact before
  | issues event object kind recorded descriptors last address =>
      have opened : after.openings = sim.openings + 1 := by
        unfold openings
        rw [recorded, List.countP_cons_of_pos kind.1]
      have closed : after.closings = sim.closings := by
        unfold closings
        rw [recorded, List.countP_cons_of_neg (by simp [kind.2])]
      rw [opened, closed, descriptors, size_issue fresh object]
      omega
  | closes number known recorded descriptors last address =>
      have opened : after.openings = sim.openings := by
        unfold openings
        rw [recorded, List.countP_cons_of_neg (by simp [Event.opens])]
      have closed : after.closings = sim.closings + 1 := by
        unfold closings
        rw [recorded, List.countP_cons_of_pos rfl]
      have fewer := size_close known
      rw [opened, closed, descriptors]
      omega
  | forgets asked descriptors last address => exact absurd asked remembered

theorem Balanced.run (balanced : sim.Balanced) (kept : sim.Kept) (stimuli : List Stimulus)
    (remembered : .forgetEvents ∉ stimuli) : (sim.run stimuli).2.Balanced := by
  induction stimuli generalizing sim with
  | nil => exact balanced
  | cons stimulus rest ih =>
      obtain ⟨other, behind⟩ := not_or.mp (mt List.mem_cons.mpr remembered)
      exact ih (balanced.dealing kept.orderly.fresh (sim.react_dealing stimulus) (Ne.symm other))
        (kept.react stimulus) behind

theorem balanced_built (tile : Tile) (containers : List (String × GroupId × List String)) :
    (built tile containers).Balanced :=
  built_of_withContainer Balanced rfl (fun _ _ _ _ balanced => balanced) containers

theorem react_refused {failure : DriverError} {stimulus : Stimulus}
    (refused : (sim.react stimulus).1 = .error failure) :
    SameHoldings sim (sim.react stimulus).2 := by
  have dealing := sim.react_dealing stimulus
  rw [refused] at dealing
  cases dealing with
  | refuses holdings counts => exact holdings

/-- However a machine is used once it is built, with arguments that may be stale, of the wrong
kind or made up: no descriptor number and no address is handed out twice, its tables agree and
its mappings keep their distance, what is refused changes nothing that is held, and as long as
the record is not cleared it tells how many descriptors are open. -/
theorem machine_keeps_its_state (tile : Tile) (containers : List (String × GroupId × List String))
    (stimuli : List Stimulus) :
    let used := (built tile containers).run stimuli
    (used.1.filterMap issued?).Nodup ∧ (used.1.filterMap placed?).Nodup ∧ used.2.WellKept ∧
      (∀ stimulus failure, (used.2.react stimulus).1 = .error failure →
        SameHoldings used.2 (used.2.react stimulus).2) ∧
      (.forgetEvents ∉ stimuli →
        used.2.openings = used.2.closings + used.2.holdings.descriptors) := by
  have kept := Kept.built tile containers
  refine ⟨issued_nodup _ stimuli, placed_nodup _ stimuli, (kept.run stimuli).wellKept,
    fun _ _ => react_refused, ?_⟩
  exact (balanced_built tile containers).run kept stimuli

end Passthrough.Simulator
