import Passthrough.Platform.Gate
import Passthrough.Proofs.Pool.Course
import Passthrough.Tool.Report

set_option autoImplicit false

/-! Pools over any history. A pool starts empty and is used by acquisitions and releases,
each on a platform of its own choosing that may fail or lie at every call. Its tables
stay sound throughout; an acquisition that fails leaves them as they are, and a release takes
exactly one group out, with its container if that was the last group in it. -/

namespace Passthrough

open Pool.SlotTable (at?)

variable {World Portal : Type}

theorem Tenure.Kept.unaccounted (platform : Platform World Portal) :
    Tenure.Kept (fun _ => True) (fun _ _ => True) platform where
  openGroup _ _ _ := Result.either_of_forall (fun _ => trivial) trivial
  groupViable _ _ _ _ _ := trivial
  apiVersion _ _ _ _ _ := trivial
  hasType1Iommu _ _ _ _ _ := trivial
  setContainer _ _ _ _ _ _ _ _ := Result.either_of_forall (fun _ => trivial) trivial
  unsetContainer _ _ _ _ _ _ _ := ⟨none, trivial⟩
  openContainer _ _ _ := Result.either_of_forall (fun _ => trivial) trivial
  setIommu _ _ _ _ _ := Result.either_of_forall (fun _ => trivial) trivial
  closeContainer _ _ _ _ _ := trivial
  closeGroup _ _ _ _ _ _ := trivial

namespace Pool

/-- The pools that come of an empty one. -/
inductive Attained (limits : PoolLimits) : Pool → Prop where
  | empty : Attained limits (empty limits)
  | acquire {World Portal : Type} {pool : Pool} (earlier : Attained limits pool)
      (platform : Platform World Portal) (group : GroupId) (start : Traced World) :
      Attained limits (pool.acquire platform group start).1.2
  | release {World Portal : Type} {pool : Pool} (earlier : Attained limits pool)
      (platform : Platform World Portal) (handle : GroupHandle) (start : Traced World) :
      Attained limits (pool.release platform handle start).1.2

/-- A pool within its limits whose tables fit together. -/
structure Coherent (limits : PoolLimits) (pool : Pool) : Prop where
  bounds : pool.limits = limits
  groupCount : pool.groupCount ≤ limits.groups
  containerCount : pool.containerCount ≤ limits.containers
  sound : pool.Sound
  housed : ∀ slot owned, at? pool.groups slot = some owned →
    ∃ container, at? pool.containers owned.container = some container ∧ slot ∈ container.members

/-- The pool lost the group of a slot and nothing else, but for the container that it was the last
group of. -/
structure Loses (pool : Pool) (slot : Nat) (owned : GroupSlot) (after : Pool) : Prop where
  bounds : after.limits = pool.limits
  vacated : at? after.groups slot = none
  otherSlots : ∀ other, other ≠ slot → at? after.groups other = at? pool.groups other
  emptied : ∀ container, at? pool.containers owned.container = some container →
    container.members = [slot] → at? after.containers owned.container = none
  shared : ∀ container, at? pool.containers owned.container = some container →
    container.members ≠ [slot] →
      at? after.containers owned.container = some (container.without slot)
  otherContainers : ∀ index, index ≠ owned.container →
    at? after.containers index = at? pool.containers index

theorem at?_of_held? {pool : Pool} {handle : GroupHandle} {owned : GroupSlot}
    (held : pool.held? handle = some owned) :
    at? pool.groups handle.slot = some owned ∧ owned.group = handle.group ∧
      owned.descriptor = handle.descriptor := by
  unfold held? at held
  split at held
  · next slot found =>
      split at held
      · next same =>
          cases held
          exact ⟨found, same⟩
      · cases held
  · cases held

namespace Sound

variable {pool : Pool} {slot : Nat} {owned : GroupSlot} {container : ContainerSlot}

theorem coherent (sound : pool.Sound) : pool.Coherent pool.limits where
  bounds := rfl
  groupCount := Nat.le_trans (SlotTable.count_le_length _) sound.groupsFit
  containerCount := Nat.le_trans (SlotTable.count_le_length _) sound.containersFit
  sound := sound
  housed _ _ found := sound.housed found

theorem without_eq_nil_iff (sound : pool.Sound) (found : at? pool.groups slot = some owned)
    (live : at? pool.containers owned.container = some container) :
    (container.without slot).members = [] ↔ container.members = [slot] := by
  obtain ⟨listing, same, listed⟩ := sound.housed found
  rw [live] at same
  cases same
  constructor
  · intro alone
    have only : ∀ member ∈ container.members, member = slot := by
      intro member among
      by_contra other
      have kept := ContainerSlot.mem_without.mpr ⟨among, other⟩
      rw [alone] at kept
      cases kept
    have distinct := sound.distinct live
    cases members : container.members with
    | nil => exact absurd members (sound.inhabited live)
    | cons first rest =>
        rw [members] at only distinct
        cases only first List.mem_cons_self
        cases rest with
        | nil => rfl
        | cons second rest =>
            cases only second (List.mem_cons_of_mem _ List.mem_cons_self)
            exact absurd List.mem_cons_self (List.nodup_cons.mp distinct).1
  · intro alone
    simp [ContainerSlot.without, alone]

theorem loses_evict (sound : pool.Sound) (found : at? pool.groups slot = some owned)
    (live : at? pool.containers owned.container = some container) :
    pool.Loses slot owned (pool.evict slot owned container) where
  bounds := rfl
  vacated := by rw [at?_evict_groups, if_pos rfl]
  otherSlots other apart := by rw [at?_evict_groups, if_neg (Ne.symm apart)]
  emptied listing known alone := by
    rw [live] at known
    cases known
    rw [at?_evict_containers live, if_pos rfl,
      if_pos ((sound.without_eq_nil_iff found live).mpr alone)]
  shared listing known others := by
    rw [live] at known
    cases known
    rw [at?_evict_containers live, if_pos rfl,
      if_neg fun empty => others ((sound.without_eq_nil_iff found live).mp empty)]
  otherContainers index apart := by
    rw [at?_evict_containers live, if_neg (Ne.symm apart)]

/-- Whatever the platform answers, a group is taken in as an admission or not at all. -/
theorem acquire_cases (sound : pool.Sound) (platform : Platform World Portal) (group : GroupId)
    (start : Traced World) :
    (pool.acquire platform group start).1.2 = pool ∨
      ∃ admission : Admission, pool.Admits admission ∧
        (pool.acquire platform group start).1 =
          (.ok admission.handle, pool.admitting admission) := by
  have course : (pool.acquire platform group).Yields start.world fun outcome _ =>
      outcome.2 = pool ∨ ∃ admission : Admission, pool.Admits admission ∧
        outcome = (.ok admission.handle, pool.admitting admission) := by
    refine ((Tenure.Kept.unaccounted platform).acquire sound (fun _ _ => trivial) trivial
      group).mono ?_
    rintro outcome _ (⟨same, -⟩ | ⟨admission, admits, -, taken, -⟩)
    · exact Or.inl same
    · exact Or.inr ⟨admission, admits, taken⟩
  exact course start.log

theorem acquire_fails (sound : pool.Sound) (platform : Platform World Portal) {group : GroupId}
    {start : Traced World} {failure : DriverError}
    (failed : (pool.acquire platform group start).1.1 = .error failure) :
    (pool.acquire platform group start).1.2 = pool := by
  rcases sound.acquire_cases platform group start with same | ⟨admission, -, outcome⟩
  · exact same
  · rw [outcome] at failed
    cases failed

/-- A release evicts the group that the handle was issued for, whatever fails on the way. -/
theorem release_evicts (sound : pool.Sound) (platform : Platform World Portal)
    {handle : GroupHandle} (held : pool.held? handle = some owned) (start : Traced World) :
    ∃ container, at? pool.containers owned.container = some container ∧
      (pool.release platform handle start).1.2 = pool.evict handle.slot owned container := by
  obtain ⟨container, live, -⟩ := sound.housed (at?_of_held? held).1
  have course : (pool.release platform handle).Yields start.world fun outcome _ =>
      outcome.2 = pool.evict handle.slot owned container :=
    ((Tenure.Kept.unaccounted platform).release held live trivial).mono fun _ _ known => known.1
  exact ⟨container, live, course start.log⟩

theorem acquire (sound : pool.Sound) (platform : Platform World Portal) (group : GroupId)
    (start : Traced World) :
    (pool.acquire platform group start).1.2.Sound ∧
      (pool.acquire platform group start).1.2.limits = pool.limits := by
  rcases sound.acquire_cases platform group start with same | ⟨admission, admits, outcome⟩
  · rw [same]
    exact ⟨sound, rfl⟩
  · rw [outcome]
    exact ⟨sound.admitting admits, rfl⟩

theorem release (sound : pool.Sound) (platform : Platform World Portal) (handle : GroupHandle)
    (start : Traced World) :
    (pool.release platform handle start).1.2.Sound ∧
      (pool.release platform handle start).1.2.limits = pool.limits := by
  cases held : pool.held? handle with
  | none =>
      have same := (release_unheld platform held start.world start.log).1
      rw [same]
      exact ⟨sound, rfl⟩
  | some owned =>
      obtain ⟨container, live, outcome⟩ := sound.release_evicts platform held start
      rw [outcome]
      exact ⟨sound.evict (at?_of_held? held).1 live, rfl⟩

end Sound

namespace Attained

variable {limits : PoolLimits} {pool : Pool}

theorem sound (attained : Attained limits pool) : pool.Sound ∧ pool.limits = limits := by
  induction attained with
  | empty => exact ⟨sound_empty limits, rfl⟩
  | acquire _ platform group start known =>
      obtain ⟨sound, same⟩ := known.1.acquire platform group start
      exact ⟨sound, same.trans known.2⟩
  | release _ platform handle start known =>
      obtain ⟨sound, same⟩ := known.1.release platform handle start
      exact ⟨sound, same.trans known.2⟩

/-- What a pool is at any point of its history, and what may become of it at the next call. -/
theorem stays_coherent (attained : Attained limits pool) :
    pool.Coherent limits ∧
      ∀ {World Portal : Type} (platform : Platform World Portal) (start : Traced World),
        (∀ group failure, (pool.acquire platform group start).1.1 = .error failure →
          (pool.acquire platform group start).1.2 = pool) ∧
        (∀ handle owned, pool.held? handle = some owned →
          pool.Loses handle.slot owned (pool.release platform handle start).1.2) ∧
        ∀ handle, pool.held? handle = none →
          (pool.release platform handle start).1.2 = pool := by
  obtain ⟨sound, same⟩ := attained.sound
  refine ⟨same ▸ sound.coherent, ?_⟩
  intro World Portal platform start
  refine ⟨?_, ?_, ?_⟩
  · intro group failure failed
    exact sound.acquire_fails platform failed
  · intro handle owned held
    obtain ⟨container, live, outcome⟩ := sound.release_evicts platform held start
    rw [outcome]
    exact sound.loses_evict (at?_of_held? held).1 live
  · intro handle unheld
    exact congrArg Prod.snd (release_unheld platform unheld start.world start.log).1

theorem stays_coherent_of_refused_close :
    let limits : PoolLimits := { groups := 2, containers := 1, groupsPerContainer := 2 }
    let owned : GroupSlot := { descriptor := ⟨3⟩, group := ⟨0⟩, container := 0 }
    let shared : Pool :=
      { limits := limits
        groups := [some owned, some { descriptor := ⟨5⟩, group := ⟨1⟩, container := 0 }]
        containers := [some { descriptor := ⟨4⟩, members := [0, 1] }] }
    let handle : GroupHandle := { slot := 0, group := ⟨0⟩, descriptor := ⟨3⟩, container := ⟨4⟩ }
    let platform := (Gate.allow.refuse .close).inFront (Simulator.platform ⟨[], []⟩)
    let left := shared.release platform handle ⟨Tool.demonstration .standard, []⟩
    Attained limits shared ∧ left.1.1.toBool = false ∧ shared.Loses 0 owned left.1.2 := by
  intro limits owned shared handle platform left
  let machine := (Tool.demonstration .standard).withContainer "dprc.3" ⟨1⟩ []
  let first := (Pool.empty limits).acquire (Simulator.platform ⟨[], []⟩) ⟨0⟩ ⟨machine, []⟩
  have alone : Attained limits first.1.2 := .acquire .empty _ _ _
  have attained : Attained limits shared := by
    have both := alone.acquire (Simulator.platform ⟨[], []⟩) ⟨1⟩ first.2
    have same : (first.1.2.acquire (Simulator.platform ⟨[], []⟩) ⟨1⟩ first.2).1.2 = shared := by
      decide +kernel
    rwa [same] at both
  refine ⟨attained, by decide +kernel, ?_⟩
  exact (attained.stays_coherent.2 platform ⟨Tool.demonstration .standard, []⟩).2.1 handle owned rfl

end Attained

end Pool

end Passthrough
