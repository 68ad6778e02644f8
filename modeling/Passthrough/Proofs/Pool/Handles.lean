import Passthrough.Proofs.Stock.PoolCourse

set_option autoImplicit false

/-! What a pool makes of a handle. A pool that holds what the handle was issued for honours it: it
tells the descriptors and hands the same handle out again. Any other pool disowns it, and to
give it up there changes nothing. In neither case is a platform asked. -/

namespace Passthrough

open Pool.SlotTable (at? put items)

/-- Whether a pool takes one handle for the other: the container's descriptor is not compared. -/
def GroupHandle.Names (other handle : GroupHandle) : Prop :=
  other.slot = handle.slot ∧ other.group = handle.group ∧ other.descriptor = handle.descriptor

namespace Pool

/-- The handle is valid. Whatever the platform is like, taking its group again comes to the same
handle, and neither the pool nor the platform's world notices. -/
structure Honours (pool : Pool) (handle : GroupHandle) : Prop where
  groupFd : pool.groupFd? handle = some handle.descriptor
  containerFd : pool.containerFd? handle = some handle.container
  again : ∀ {World Portal : Type} (platform : Platform World Portal) (start : Traced World),
    pool.acquire platform handle.group start = ((.ok handle, pool), start)

/-- The handle is not valid. Giving it up is reported as done and noticed nowhere but in the log. -/
structure Disowns (pool : Pool) (handle : GroupHandle) : Prop where
  groupFd : pool.groupFd? handle = none
  containerFd : pool.containerFd? handle = none
  release : ∀ {World Portal : Type} (platform : Platform World Portal) (start : Traced World),
    (pool.release platform handle start).1 = (.ok (), pool) ∧
      (pool.release platform handle start).2.world = start.world

variable {pool : Pool} {handle other : GroupHandle} {owned : GroupSlot} {host : ContainerSlot}
  {slot : Nat}

theorem held?_eq_none_iff :
    pool.held? handle = none ↔ ∀ owned, at? pool.groups handle.slot = some owned →
      owned.group = handle.group → owned.descriptor ≠ handle.descriptor := by
  unfold held?
  constructor
  · intro unheld owned found group descriptor
    rw [found] at unheld
    dsimp only at unheld
    rw [if_pos ⟨group, descriptor⟩] at unheld
    cases unheld
  · intro apart
    cases found : at? pool.groups handle.slot with
    | none => rfl
    | some owned =>
        dsimp only
        exact if_neg fun same => apart owned found same.1 same.2

theorem held?_of_names (names : other.Names handle) : pool.held? other = pool.held? handle := by
  obtain ⟨slot, group, descriptor⟩ := names
  unfold held?
  rw [slot, group, descriptor]

theorem names_of_held? (held : pool.held? handle = some owned)
    (also : pool.held? other = some owned) (slot : other.slot = handle.slot) :
    other.Names handle := by
  obtain ⟨-, group, descriptor⟩ := at?_of_held? held
  obtain ⟨-, otherGroup, otherDescriptor⟩ := at?_of_held? also
  exact ⟨slot, otherGroup.symm.trans group, otherDescriptor.symm.trans descriptor⟩

theorem disowns_of_unheld (unheld : pool.held? handle = none) : pool.Disowns handle where
  groupFd := by
    unfold groupFd?
    rw [unheld]
    rfl
  containerFd := by
    unfold containerFd?
    rw [unheld]
  release platform start := release_unheld platform unheld start.world start.log

theorem unheld_of_groupFd? (unknown : pool.groupFd? handle = none) :
    pool.held? handle = none := by
  unfold groupFd? at unknown
  exact Option.map_eq_none_iff.mp unknown

theorem Sound.handleOf?_of_hasHandle (sound : pool.Sound) (has : pool.HasHandle handle) :
    pool.handleOf? handle.group = some handle := by
  obtain ⟨owned, host, ⟨held, live⟩, same⟩ := has
  obtain ⟨found, group, descriptor⟩ := at?_of_held? held
  unfold handleOf?
  split
  · next place standing searched =>
      have listed := SlotTable.mem_items.mp (List.mem_of_find?_eq_some searched)
      have twin : standing.group = handle.group := by simpa using List.find?_some searched
      cases sound.unique listed found (twin.trans group.symm)
      rw [found] at listed
      cases listed
      rw [live, descriptor]
      exact congrArg (fun container => some { handle with container := container }) same.symm
  · next searched =>
      have absent := List.find?_eq_none.mp searched _ (SlotTable.mem_items.mpr found)
      exact absurd group (by simpa using absent)

theorem Sound.honours (sound : pool.Sound) (has : pool.HasHandle handle) :
    pool.Honours handle := by
  have known := sound.handleOf?_of_hasHandle has
  obtain ⟨owned, host, ⟨held, live⟩, same⟩ := has
  obtain ⟨found, group, descriptor⟩ := at?_of_held? held
  constructor
  · unfold groupFd?
    rw [held, ← descriptor]
    rfl
  · unfold containerFd?
    rw [held, same]
    dsimp only
    rw [live]
    rfl
  · intro World Portal platform start
    unfold Pool.acquire
    rw [known]
    rfl

theorem HasHandle.admitting {admission : Admission} (has : pool.HasHandle handle)
    (admits : pool.Admits admission) : (pool.admitting admission).HasHandle handle := by
  obtain ⟨owned, host, ⟨held, live⟩, same⟩ := has
  obtain ⟨found, group, descriptor⟩ := at?_of_held? held
  have elsewhere : admission.slot ≠ handle.slot := by
    intro here
    have vacant := admits.vacant
    rw [here, found] at vacant
    cases vacant
  have still : (pool.admitting admission).held? handle = some owned := by
    unfold held?
    rw [admits.at?_groups, if_neg elsewhere, found]
    exact if_pos ⟨group, descriptor⟩
  by_cases shared : admission.owned.container = owned.container
  · have before : admission.host = host := by
      rcases admits.host with roomy | ⟨free, -⟩
      · have known := (mem_roomy.mp roomy).1
        rw [shared, live] at known
        exact (Option.some.inj known).symm
      · have vacant := (SlotTable.vacant?_spec free).1
        rw [shared, live] at vacant
        cases vacant
    refine ⟨owned, admission.host.adding admission.slot, ⟨still, ?_⟩, ?_⟩
    · rw [admits.at?_containers, if_pos shared]
    · rw [same, ← before]
      rfl
  · refine ⟨owned, host, ⟨still, ?_⟩, same⟩
    rw [admits.at?_containers, if_neg shared]
    exact live

theorem HasHandle.evict {leaving : GroupSlot} {container : ContainerSlot}
    (has : pool.HasHandle handle) (sound : pool.Sound)
    (lodges : at? pool.containers leaving.container = some container)
    (apart : slot ≠ handle.slot) : (pool.evict slot leaving container).HasHandle handle := by
  obtain ⟨owned, host, ⟨held, live⟩, same⟩ := has
  obtain ⟨found, group, descriptor⟩ := at?_of_held? held
  have still : (pool.evict slot leaving container).held? handle = some owned := by
    unfold held?
    rw [at?_evict_groups, if_neg apart, found]
    exact if_pos ⟨group, descriptor⟩
  by_cases shared : leaving.container = owned.container
  · rw [shared, live] at lodges
    obtain rfl := Option.some.inj lodges
    have remaining : (host.without slot).members ≠ [] := by
      obtain ⟨listing, known, listed⟩ := sound.housed found
      rw [live] at known
      cases known
      have kept := ContainerSlot.mem_without.mpr ⟨listed, Ne.symm apart⟩
      exact List.ne_nil_of_mem kept
    refine ⟨owned, host.without slot, ⟨still, ?_⟩, same⟩
    rw [at?_evict_containers (shared ▸ live), if_pos shared, if_neg remaining]
  · refine ⟨owned, host, ⟨still, ?_⟩, same⟩
    rw [at?_evict_containers lodges, if_neg shared]
    exact live

end Pool

end Passthrough
