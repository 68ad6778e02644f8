import Passthrough.Proofs.Estate.Run
import Passthrough.Proofs.Pool.Handles
import Passthrough.Proofs.Simulator.Dealings

set_option autoImplicit false

/-! Handles over the history of several pools on one machine, to which anything else may be done
as well. The numbers of descriptors are counted up, so that no number is in two slots or
comes back: a slot that is used again has another descriptor, and a handle that was given up
once stays so. -/

namespace Passthrough

open Files (FileTree)
open Pool.SlotTable (at?)

/-! ### The numbers only grow -/

theorem Simulator.openGroup_issues {sim : Simulator} {group : GroupId} {descriptor : GroupFd}
    (opened : (sim.openGroup group).1 = .ok descriptor) :
    descriptor.number = sim.lastDescriptor + 1 ∧
      (sim.openGroup group).2.lastDescriptor = descriptor.number := by
  have dealing := (sim.react_dealing (.openGroup group)).issued
  dsimp only [react, answering] at dealing
  rw [opened] at dealing
  exact ⟨dealing.1, dealing.2⟩

/-- The group of a tenure has a number above one bound, and the last number is not below
another. -/
def Tenure.Numbered (above last : Int) (tenure : Tenure) (sim : Simulator) : Prop :=
  last ≤ sim.lastDescriptor ∧ ∀ descriptor group, tenure.group = some (descriptor, group) →
    above < descriptor.number ∧ descriptor.number ≤ sim.lastDescriptor

namespace Tenure.Numbered

variable {above last : Int} {tenure : Tenure} {sim : Simulator}

theorem react (numbered : tenure.Numbered above last sim) (stimulus : Simulator.Stimulus) :
    tenure.Numbered above last (sim.react stimulus).2 := by
  have grown := sim.lastDescriptor_le_react stimulus
  refine ⟨Int.le_trans numbered.1 grown, ?_⟩
  intro descriptor group opened
  obtain ⟨lower, upper⟩ := numbered.2 descriptor group opened
  exact ⟨lower, Int.le_trans upper grown⟩

theorem kept (files : FileTree) (ordered : above ≤ last) :
    Kept (fun _ => True) (Numbered above last) (Simulator.platform files) where
  openGroup {sim} held group _ := by
    change Result.Either _ _ (sim.openGroup group).1
    have grown : sim.lastDescriptor ≤ (sim.openGroup group).2.lastDescriptor :=
      sim.lastDescriptor_le_react (.openGroup group)
    cases opened : (sim.openGroup group).1 with
    | error failure => exact ⟨Int.le_trans held.1 grown, nofun⟩
    | ok descriptor =>
        obtain ⟨number, newest⟩ := Simulator.openGroup_issues opened
        refine ⟨Int.le_trans held.1 grown, ?_⟩
        rintro _ _ ⟨⟩
        have bound := held.1
        constructor
        · omega
        · exact Int.le_of_eq newest.symm
  groupViable held _ _ _ _ := held
  apiVersion held _ _ _ _ := held
  hasType1Iommu held _ _ _ _ := held
  setContainer held _ _ _ _ container _ _ :=
    Result.either_of_forall (fun _ => held.react (.setContainer _ container))
      (held.react (.setContainer _ container))
  unsetContainer held _ _ _ _ _ _ := ⟨none, held.react (.unsetContainer _)⟩
  openContainer held _ _ :=
    Result.either_of_forall (fun _ => held.react .openContainer) (held.react .openContainer)
  setIommu held container _ _ _ :=
    Result.either_of_forall (fun _ => held.react (.setIommu container))
      (held.react (.setIommu container))
  closeContainer held container _ _ _ := held.react (.close container.number)
  closeGroup held descriptor _ _ _ _ :=
    ⟨(held.react (.close descriptor.number)).1, nofun⟩

end Tenure.Numbered

namespace Estate

/-- One thing that happens, to a pool or to the machine itself. The latter may be anything. -/
inductive Occurrence where
  | acquire (index : Nat) (group : GroupId)
  | release (index : Nat) (handle : GroupHandle)
  | machine (stimulus : Simulator.Stimulus)

def meet (estate : Estate) : Occurrence → Estate
  | .acquire index group => estate.step (.acquire index group)
  | .release index handle => estate.step (.release index handle)
  | .machine stimulus => estate.control fun sim => (sim.react stimulus).2

def pass (estate : Estate) (occurrences : List Occurrence) : Estate :=
  occurrences.foldl meet estate

def lastDescriptor (estate : Estate) : Int :=
  estate.machine.lastDescriptor

def Lists (estate : Estate) (index slot : Nat) (owned : GroupSlot) : Prop :=
  ∃ pool, estate.pools[index]? = some pool ∧ at? pool.groups slot = some owned

/-- Every slot has a number of its own, which was issued already. -/
structure Numbered (estate : Estate) : Prop where
  sound : ∀ pool ∈ estate.pools, pool.Sound
  issued : ∀ index slot owned, estate.Lists index slot owned →
    owned.descriptor.number ≤ estate.lastDescriptor
  distinct : ∀ index slot owned other place twin, estate.Lists index slot owned →
    estate.Lists other place twin → owned.descriptor = twin.descriptor →
      index = other ∧ slot = place

/-! ### What happens to the slots -/

/-- What an occurrence does to the pools: nothing, one admission with a new number, or the
eviction that a release asks for. -/
inductive Turnover (estate : Estate) : Occurrence → Estate → Prop where
  | idle {occurrence : Occurrence} {after : Estate} (pools : after.pools = estate.pools)
      (last : estate.lastDescriptor ≤ after.lastDescriptor)
      (unheld : ∀ index handle pool, occurrence = .release index handle →
        estate.pools[index]? = some pool → pool.held? handle = none) :
      Turnover estate occurrence after
  | admits {index : Nat} {group : GroupId} {after : Estate} {pool : Pool}
      {admission : Pool.Admission} (found : estate.pools[index]? = some pool)
      (admits : pool.Admits admission)
      (pools : after.pools = estate.pools.set index (pool.admitting admission))
      (new : estate.lastDescriptor < admission.owned.descriptor.number)
      (issued : admission.owned.descriptor.number ≤ after.lastDescriptor) :
      Turnover estate (.acquire index group) after
  | evicts {index : Nat} {handle : GroupHandle} {after : Estate} {pool : Pool} {owned : GroupSlot}
      {host : ContainerSlot} (found : estate.pools[index]? = some pool)
      (houses : pool.Houses handle owned host)
      (pools : after.pools = estate.pools.set index (pool.evict handle.slot owned host))
      (last : estate.lastDescriptor ≤ after.lastDescriptor) :
      Turnover estate (.release index handle) after

variable {estate after : Estate} {occurrence : Occurrence} {index : Nat} {handle : GroupHandle}
  {pool : Pool}

theorem apply_of_found {α : Type} (found : estate.pools[index]? = some pool)
    (operation : Pool → Logged Simulator (Result α × Pool)) :
    estate.apply index operation =
      { estate with
        machine := (operation pool ⟨estate.machine, []⟩).2.world
        pools := estate.pools.set index (operation pool ⟨estate.machine, []⟩).1.2 } := by
  unfold Estate.apply
  rw [found]

theorem apply_of_missing {α : Type} (missing : estate.pools[index]? = none)
    (operation : Pool → Logged Simulator (Result α × Pool)) :
    estate.apply index operation = estate := by
  unfold Estate.apply
  rw [missing]

private theorem set_of_found (found : estate.pools[index]? = some pool) :
    estate.pools.set index pool = estate.pools := by
  obtain ⟨bound, rfl⟩ := List.getElem?_eq_some_iff.mp found
  exact List.set_getElem_self bound

theorem Numbered.acquires (numbered : estate.Numbered) (index : Nat) (group : GroupId) :
    Turnover estate (.acquire index group) (estate.meet (.acquire index group)) := by
  change Turnover estate _ (estate.apply index (·.acquire estate.platform group))
  cases found : estate.pools[index]? with
  | none =>
      rw [apply_of_missing found]
      exact .idle rfl (Int.le_refl _) nofun
  | some pool =>
      rw [apply_of_found found]
      have kept := Tenure.Numbered.kept estate.files (Int.le_refl estate.lastDescriptor)
      have start : Tenure.idle.Numbered estate.lastDescriptor estate.lastDescriptor
        estate.machine := ⟨Int.le_refl _, nofun⟩
      rcases kept.acquire (numbered.sound pool (List.mem_of_getElem? found))
        (fun _ _ => trivial) start group [] with
        ⟨same, held, -⟩ | ⟨admission, admits, -, outcome, held⟩
      · refine .idle ?_ held.1 nofun
        exact (congrArg (estate.pools.set index) same).trans (set_of_found found)
      · obtain ⟨new, issued⟩ := held.2 admission.owned.descriptor admission.owned.group rfl
        refine .admits found admits ?_ new issued
        exact congrArg (estate.pools.set index ·.2) outcome

theorem Numbered.releases (numbered : estate.Numbered) (index : Nat) (handle : GroupHandle) :
    Turnover estate (.release index handle) (estate.meet (.release index handle)) := by
  change Turnover estate _ (estate.apply index (·.release estate.platform handle))
  cases found : estate.pools[index]? with
  | none =>
      rw [apply_of_missing found]
      refine .idle rfl (Int.le_refl _) ?_
      rintro _ _ pool ⟨⟩ there
      rw [found] at there
      cases there
  | some pool =>
      rw [apply_of_found found]
      cases held : pool.held? handle with
      | none =>
          obtain ⟨outcome, world⟩ :=
            Pool.release_unheld estate.platform held estate.machine []
          refine .idle ?_ ?_ ?_
          · exact (congrArg (estate.pools.set index ·.2) outcome).trans (set_of_found found)
          · exact Int.le_of_eq (congrArg Simulator.lastDescriptor world).symm
          · rintro _ _ other ⟨⟩ there
            rw [found] at there
            cases there
            exact held
      | some owned =>
          have there := (Pool.at?_of_held? held).1
          obtain ⟨host, live, -⟩ :=
            (numbered.sound pool (List.mem_of_getElem? found)).housed there
          have bound := numbered.issued index handle.slot owned ⟨pool, found, there⟩
          have kept := Tenure.Numbered.kept estate.files
            (show owned.descriptor.number - 1 ≤ estate.lastDescriptor by omega)
          have start : (owned.tenure handle.slot host).Numbered (owned.descriptor.number - 1)
              estate.lastDescriptor estate.machine := by
            refine ⟨Int.le_refl _, ?_⟩
            rintro _ _ ⟨⟩
            exact ⟨Int.sub_one_lt_of_le (Int.le_refl _), bound⟩
          obtain ⟨outcome, kept⟩ := kept.release held live start []
          exact .evicts found ⟨held, live⟩ (congrArg (estate.pools.set index) outcome) kept.1

theorem Numbered.turnover (numbered : estate.Numbered) (occurrence : Occurrence) :
    Turnover estate occurrence (estate.meet occurrence) := by
  cases occurrence with
  | acquire index group => exact numbered.acquires index group
  | release index handle => exact numbered.releases index handle
  | machine stimulus =>
      exact .idle rfl (estate.machine.lastDescriptor_le_react stimulus) nofun

/-! ### What stands in the slots -/

theorem lists_iff_of_pools (pools : after.pools = estate.pools) {slot : Nat} {owned : GroupSlot} :
    after.Lists index slot owned ↔ estate.Lists index slot owned := by
  unfold Lists
  rw [pools]

theorem lists_of_set {left : Pool} {other slot : Nat} {owned : GroupSlot}
    (pools : after.pools = estate.pools.set index left) (listed : after.Lists other slot owned) :
    other = index ∧ at? left.groups slot = some owned ∨
      other ≠ index ∧ estate.Lists other slot owned := by
  obtain ⟨pool, there, found⟩ := listed
  rw [pools, List.getElem?_set] at there
  split at there
  · next same =>
      split at there
      · cases there
        exact Or.inl ⟨same.symm, found⟩
      · cases there
  · next apart => exact Or.inr ⟨Ne.symm apart, pool, there, found⟩

theorem lists_of_admitting {admission : Pool.Admission} {other slot : Nat} {owned : GroupSlot}
    (found : estate.pools[index]? = some pool) (admits : pool.Admits admission)
    (pools : after.pools = estate.pools.set index (pool.admitting admission))
    (listed : after.Lists other slot owned) :
    other = index ∧ slot = admission.slot ∧ owned = admission.owned ∨
      estate.Lists other slot owned := by
  rcases lists_of_set pools listed with ⟨here, standing⟩ | ⟨-, old⟩
  · rw [admits.at?_groups] at standing
    split at standing
    · next same => exact Or.inl ⟨here, same.symm, (Option.some.inj standing).symm⟩
    · exact Or.inr ⟨pool, here ▸ found, standing⟩
  · exact Or.inr old

theorem lists_of_evict {host : ContainerSlot} {leaving owned : GroupSlot} {gone other slot : Nat}
    (found : estate.pools[index]? = some pool)
    (pools : after.pools = estate.pools.set index (pool.evict gone leaving host))
    (listed : after.Lists other slot owned) :
    ¬ (other = index ∧ slot = gone) ∧ estate.Lists other slot owned := by
  rcases lists_of_set pools listed with ⟨here, standing⟩ | ⟨elsewhere, old⟩
  · rw [Pool.at?_evict_groups] at standing
    split at standing
    · cases standing
    · next apart => exact ⟨fun same => apart same.2.symm, pool, here ▸ found, standing⟩
  · exact ⟨fun same => elsewhere same.1, old⟩

private theorem sound_of_set {left : Pool} (sound : ∀ pool ∈ estate.pools, pool.Sound)
    (pools : after.pools = estate.pools.set index left) (kept : left.Sound) :
    ∀ pool ∈ after.pools, pool.Sound := by
  intro pool member
  rw [pools] at member
  rcases List.mem_or_eq_of_mem_set member with old | same
  · exact sound pool old
  · rwa [same]

theorem Numbered.step (numbered : estate.Numbered) (turnover : Turnover estate occurrence after) :
    after.Numbered := by
  cases turnover with
  | idle pools last unheld =>
      constructor
      · rw [pools]
        exact numbered.sound
      · intro index slot owned listed
        have bound := numbered.issued index slot owned ((lists_iff_of_pools pools).mp listed)
        exact Int.le_trans bound last
      · intro index slot owned other place twin one two
        exact numbered.distinct index slot owned other place twin
          ((lists_iff_of_pools pools).mp one) ((lists_iff_of_pools pools).mp two)
  | @admits index group _ pool admission found admits pools new issued =>
      have entry {other slot : Nat} {owned : GroupSlot} (listed : after.Lists other slot owned) :=
        lists_of_admitting found admits pools listed
      have older {other slot : Nat} {owned : GroupSlot} (old : estate.Lists other slot owned) :
          owned.descriptor ≠ admission.owned.descriptor := by
        intro same
        have bound := numbered.issued other slot owned old
        rw [same] at bound
        omega
      constructor
      · exact sound_of_set numbered.sound pools
          ((numbered.sound pool (List.mem_of_getElem? found)).admitting admits)
      · intro other slot owned listed
        rcases entry listed with ⟨-, -, same⟩ | old
        · rw [same]
          exact issued
        · have bound := numbered.issued other slot owned old
          omega
      · intro first slot owned second place twin one two same
        rcases entry one with ⟨here, slotted, fresh⟩ | old
        · rcases entry two with ⟨there, placed, -⟩ | known
          · exact ⟨here.trans there.symm, slotted.trans placed.symm⟩
          · exact absurd (same.symm.trans (congrArg GroupSlot.descriptor fresh)) (older known)
        · rcases entry two with ⟨-, -, fresh⟩ | known
          · exact absurd (same.trans (congrArg GroupSlot.descriptor fresh)) (older old)
          · exact numbered.distinct first slot owned second place twin old known same
  | @evicts index handle _ pool owned host found houses pools last =>
      have entry {other slot : Nat} {owned : GroupSlot} (listed : after.Lists other slot owned) :=
        (lists_of_evict found pools listed).2
      constructor
      · exact sound_of_set numbered.sound pools
          ((numbered.sound pool (List.mem_of_getElem? found)).evict
            (Pool.at?_of_held? houses.held).1 houses.live)
      · intro other slot standing listed
        exact Int.le_trans (numbered.issued other slot standing (entry listed)) last
      · intro first slot standing second place twin one two
        exact numbered.distinct first slot standing second place twin (entry one) (entry two)

/-! ### What becomes of a handle -/

/-- A pool holds what the handle was issued for. -/
def Live (estate : Estate) (index : Nat) (handle : GroupHandle) : Prop :=
  ∃ pool, estate.pools[index]? = some pool ∧ pool.HasHandle handle

/-- The descriptor of the handle is in no slot, and is not one to come. -/
structure Gone (estate : Estate) (handle : GroupHandle) : Prop where
  issued : handle.descriptor.number ≤ estate.lastDescriptor
  nowhere : ∀ index slot owned, estate.Lists index slot owned →
    owned.descriptor ≠ handle.descriptor

def Occurrence.Ends (occurrence : Occurrence) (index : Nat) (handle : GroupHandle) : Prop :=
  ∃ other, occurrence = .release index other ∧ other.Names handle

theorem Gone.step (gone : estate.Gone handle) (turnover : Turnover estate occurrence after) :
    after.Gone handle := by
  have issued := gone.issued
  cases turnover with
  | idle pools last unheld =>
      refine ⟨Int.le_trans issued last, ?_⟩
      intro index slot owned listed
      exact gone.nowhere index slot owned ((lists_iff_of_pools pools).mp listed)
  | @admits index group _ pool admission found admits pools new upper =>
      refine ⟨by omega, ?_⟩
      intro other slot owned listed
      rcases lists_of_admitting found admits pools listed with ⟨-, -, fresh⟩ | old
      · rw [fresh]
        intro same
        rw [same] at new
        omega
      · exact gone.nowhere other slot owned old
  | evicts found houses pools last =>
      refine ⟨Int.le_trans issued last, ?_⟩
      intro other slot owned listed
      exact gone.nowhere other slot owned (lists_of_evict found pools listed).2

private theorem live_of_other {left other : Pool} {changed : Nat} (live : estate.Live index handle)
    (found : estate.pools[changed]? = some other)
    (pools : after.pools = estate.pools.set changed left)
    (kept : changed = index → other.HasHandle handle → left.HasHandle handle) :
    after.Live index handle := by
  obtain ⟨pool, there, has⟩ := live
  unfold Live
  rw [pools, List.getElem?_set]
  by_cases same : changed = index
  · have bound := (List.getElem?_eq_some_iff.mp found).1
    rw [← same, found] at there
    cases there
    rw [if_pos same, if_pos bound]
    exact ⟨left, rfl, kept same has⟩
  · rw [if_neg same]
    exact ⟨pool, there, has⟩

/-- Only a release of the handle ends what it was issued for, and this for good. -/
theorem Live.step (numbered : estate.Numbered) (live : estate.Live index handle)
    (turnover : Turnover estate occurrence after) :
    (occurrence.Ends index handle → after.Gone handle) ∧
      (¬ occurrence.Ends index handle → after.Live index handle) := by
  obtain ⟨pool, there, has⟩ := id live
  obtain ⟨owned, host, houses, -⟩ := id has
  have listed : estate.Lists index handle.slot owned :=
    ⟨pool, there, (Pool.at?_of_held? houses.held).1⟩
  cases turnover with
  | idle pools last unheld =>
      constructor
      · rintro ⟨other, asked, names⟩
        have free := unheld index other pool asked there
        rw [Pool.held?_of_names names, houses.held] at free
        cases free
      · intro _
        unfold Live
        rw [pools]
        exact live
  | admits found admits pools new issued =>
      constructor
      · rintro ⟨other, impossible, -⟩
        cases impossible
      · intro _
        exact live_of_other live found pools fun _ has => has.admitting admits
  | @evicts changed leaving _ yard standing container found evicted pools last =>
      by_cases ends : (Occurrence.release changed leaving).Ends index handle
      · refine ⟨fun _ => ?_, fun kept => absurd ends kept⟩
        obtain ⟨other, asked, names⟩ := ends
        cases asked
        have descriptor := (Pool.at?_of_held? houses.held).2.2
        refine ⟨Int.le_trans ?_ last, ?_⟩
        · rw [← descriptor]
          exact numbered.issued index handle.slot owned listed
        · intro place slot other among same
          obtain ⟨apart, old⟩ := lists_of_evict found pools among
          obtain ⟨here, slotted⟩ := numbered.distinct place slot other index handle.slot owned old
            listed (same.trans descriptor.symm)
          exact apart ⟨here, slotted.trans names.1.symm⟩
      · refine ⟨fun other => absurd other ends, fun _ => ?_⟩
        refine live_of_other live found pools ?_
        intro same has
        rw [same, there] at found
        cases found
        have sound := numbered.sound pool (List.mem_of_getElem? there)
        refine has.evict sound evicted.live ?_
        intro slotted
        have twin := evicted.held
        have group := (Pool.at?_of_held? evicted.held).1
        rw [slotted, (Pool.at?_of_held? houses.held).1] at group
        cases group
        exact ends ⟨leaving, by rw [same], Pool.names_of_held? houses.held twin slotted⟩

theorem Gone.disowns (gone : estate.Gone handle) (found : estate.pools[index]? = some pool) :
    pool.Disowns handle := by
  refine Pool.disowns_of_unheld (Pool.held?_eq_none_iff.mpr ?_)
  intro owned standing _
  exact gone.nowhere index handle.slot owned ⟨pool, found, standing⟩

theorem Live.disowns (live : estate.Live index handle) (numbered : estate.Numbered)
    {other : Nat} (found : estate.pools[other]? = some pool) (apart : other ≠ index) :
    pool.Disowns handle := by
  obtain ⟨holder, there, owned, host, houses, -⟩ := live
  obtain ⟨held, -, descriptor⟩ := Pool.at?_of_held? houses.held
  refine Pool.disowns_of_unheld (Pool.held?_eq_none_iff.mpr ?_)
  intro standing known _ same
  exact apart (numbered.distinct other handle.slot standing index handle.slot owned
    ⟨pool, found, known⟩ ⟨holder, there, held⟩ (same.trans descriptor.symm)).1

/-! ### Over a history -/

theorem Numbered.pass (numbered : estate.Numbered) (occurrences : List Occurrence) :
    (estate.pass occurrences).Numbered := by
  induction occurrences generalizing estate with
  | nil => exact numbered
  | cons occurrence rest ih => exact ih (numbered.step (numbered.turnover occurrence))

theorem Gone.pass (gone : estate.Gone handle) (numbered : estate.Numbered)
    (occurrences : List Occurrence) : (estate.pass occurrences).Gone handle := by
  induction occurrences generalizing estate with
  | nil => exact gone
  | cons occurrence rest ih =>
      have turnover := numbered.turnover occurrence
      exact ih (gone.step turnover) (numbered.step turnover)

theorem Live.pass (live : estate.Live index handle) (numbered : estate.Numbered)
    (occurrences : List Occurrence) :
    ((∃ occurrence ∈ occurrences, occurrence.Ends index handle) →
        (estate.pass occurrences).Gone handle) ∧
      ((∀ occurrence ∈ occurrences, ¬ occurrence.Ends index handle) →
        (estate.pass occurrences).Live index handle) := by
  induction occurrences generalizing estate with
  | nil => exact ⟨nofun, fun _ => live⟩
  | cons occurrence rest ih =>
      have turnover := numbered.turnover occurrence
      have next := numbered.step turnover
      obtain ⟨ended, kept⟩ := Live.step numbered live turnover
      by_cases ends : occurrence.Ends index handle
      · refine ⟨fun _ => (ended ends).pass next rest, fun none => ?_⟩
        exact absurd ends (none occurrence List.mem_cons_self)
      · obtain ⟨given, held⟩ := ih (kept ends) next
        constructor
        · rintro ⟨other, among, other_ends⟩
          rcases List.mem_cons.mp among with same | later
          · exact absurd (same ▸ other_ends) ends
          · exact given ⟨other, later, other_ends⟩
        · intro none
          exact held fun other later => none other (List.mem_cons_of_mem _ later)

theorem Numbered.opened (machine : Simulator) (files : FileTree) (limits : List PoolLimits) :
    (Estate.opened machine files limits).Numbered := by
  have nothing {index slot : Nat} {owned : GroupSlot} :
      ¬ (Estate.opened machine files limits).Lists index slot owned := by
    rintro ⟨pool, there, found⟩
    obtain ⟨first, -, rfl⟩ := List.mem_map.mp (List.mem_of_getElem? there)
    cases found
  constructor
  · intro pool member
    obtain ⟨first, -, rfl⟩ := List.mem_map.mp member
    exact Pool.sound_empty first
  · exact fun _ _ _ listed => absurd listed nothing
  · exact fun _ _ _ _ _ _ listed => absurd listed nothing

theorem pass_length (estate : Estate) (occurrences : List Occurrence) :
    (estate.pass occurrences).pools.length = estate.pools.length := by
  have applied {α : Type} (estate : Estate) (index : Nat)
      (operation : Pool → Logged Simulator (Result α × Pool)) :
      (estate.apply index operation).pools.length = estate.pools.length := by
    unfold Estate.apply
    split
    · rfl
    · exact List.length_set
  induction occurrences generalizing estate with
  | nil => rfl
  | cons occurrence rest ih =>
      refine (ih (estate.meet occurrence)).trans ?_
      cases occurrence with
      | acquire index group => exact applied estate index _
      | release index handle => exact applied estate index _
      | machine stimulus => rfl

theorem Numbered.live_of_acquired (numbered : estate.Numbered) {group : GroupId}
    (found : estate.pools[index]? = some pool)
    (acquired : (pool.acquire estate.platform group ⟨estate.machine, []⟩).1.1 = .ok handle) :
    handle.group = group ∧ (estate.meet (.acquire index group)).Live index handle := by
  have sound := numbered.sound pool (List.mem_of_getElem? found)
  have bound := (List.getElem?_eq_some_iff.mp found).1
  have given : handle.group = group ∧
      (pool.acquire estate.platform group ⟨estate.machine, []⟩).1.2.HasHandle handle := by
    rcases (Tenure.Kept.unaccounted estate.platform).acquire sound (fun _ _ => trivial) trivial
      group [] with ⟨same, -, known⟩ | ⟨admission, admits, taken, outcome, -⟩
    · have before := known handle acquired
      rw [same]
      exact ⟨Pool.group_of_handleOf? before, Pool.hasHandle_of_handleOf? before⟩
    · rw [outcome] at acquired ⊢
      cases acquired
      exact ⟨taken, admits.hasHandle⟩
  refine ⟨given.1, ?_⟩
  change (estate.apply index (·.acquire estate.platform group)).Live index handle
  rw [apply_of_found found]
  exact ⟨_, List.getElem?_set_self bound, given.2⟩

/-- Whatever was done before with any number of pools on a machine, and whatever is done after: a
handle that a pool gave out is honoured by that pool until it is given up there, and disowned
by it for ever after; every other pool disowns it all along. And what a pool does not know it
disowns. -/
theorem handle_stays_valid_until_released (machine : Simulator) (files : FileTree)
    (limits : List PoolLimits) (before after : List Occurrence) (index : Nat) (pool : Pool)
    (group : GroupId) (handle : GroupHandle) :
    let estate := (opened machine files limits).pass before
    let later := estate.pass (.acquire index group :: after)
    estate.pools[index]? = some pool →
    (pool.acquire estate.platform group ⟨estate.machine, []⟩).1.1 = .ok handle →
      handle.group = group ∧ later.pools.length = limits.length ∧
      ∀ number now, later.pools[number]? = some now →
        (number = index → (∀ occurrence ∈ after, ¬ occurrence.Ends index handle) →
          now.Honours handle) ∧
        (number = index → (∃ occurrence ∈ after, occurrence.Ends index handle) →
          now.Disowns handle) ∧
        (number ≠ index → now.Disowns handle) ∧
        ∀ unknown, now.groupFd? unknown = none → now.Disowns unknown := by
  intro estate later found acquired
  have numbered : estate.Numbered := (Numbered.opened machine files limits).pass before
  obtain ⟨same, live⟩ := numbered.live_of_acquired found acquired
  have next := numbered.step (numbered.turnover (.acquire index group))
  have kept : later.Numbered := next.pass after
  obtain ⟨ended, held⟩ := live.pass next after
  refine ⟨same, ?_, ?_⟩
  · refine (pass_length estate _).trans ((pass_length _ before).trans ?_)
    exact List.length_map _
  intro number now there
  refine ⟨?_, ?_, ?_, fun unknown none => Pool.disowns_of_unheld (Pool.unheld_of_groupFd? none)⟩
  · rintro rfl unended
    obtain ⟨holder, known, has⟩ := held unended
    cases known.symm.trans there
    exact (kept.sound now (List.mem_of_getElem? there)).honours has
  · rintro - given
    exact (ended given).disowns there
  · intro other
    by_cases given : ∃ occurrence ∈ after, occurrence.Ends index handle
    · exact (ended given).disowns there
    · exact (held fun occurrence among ends => given ⟨occurrence, among, ends⟩).disowns kept there
        other

theorem handle_stays_invalid_in_reused_slot :
    let limits : List PoolLimits := [.standard, .standard]
    let handle : GroupHandle := { slot := 0, group := ⟨0⟩, descriptor := ⟨3⟩, container := ⟨4⟩ }
    let after : List Occurrence :=
      [.machine (.inject .groupStatus), .release 0 handle, .machine .clearFaults, .acquire 0 ⟨0⟩]
    let later := (opened (Tool.demonstration .standard) ⟨[], []⟩ limits).pass
      (.acquire 0 ⟨0⟩ :: after)
    later.pools[0]?.map Pool.groupCount = some 1 ∧
      ∀ now, later.pools[0]? = some now → now.Disowns handle := by
  intro limits handle after later
  obtain ⟨-, -, known⟩ := handle_stays_valid_until_released (Tool.demonstration .standard)
    ⟨[], []⟩ limits [] after 0 (Pool.empty .standard) ⟨0⟩ handle rfl (by decide +kernel)
  refine ⟨by decide +kernel, fun now there => ?_⟩
  have names : handle.Names handle := ⟨rfl, rfl, rfl⟩
  exact (known 0 now there).2.1 rfl
    ⟨.release 0 handle, by simp [after], handle, rfl, names⟩

end Estate

end Passthrough
