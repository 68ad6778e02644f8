import Passthrough.Pool.Acquire
import Passthrough.Pool.Release
import Passthrough.Proofs.Pool.SlotLaws

set_option autoImplicit false

/-! Pools whose two tables refer to each other as they should: every group stands in a slot
of its own and in a live container, and a live container lists the slots of its groups and
no others. A group comes in by an admission and goes out by an eviction; both are
changes of the tables alone, and both keep the tables sound. -/

namespace Passthrough

def ContainerSlot.adding (container : ContainerSlot) (slot : Nat) : ContainerSlot :=
  { container with members := container.members ++ [slot] }

def ContainerSlot.without (container : ContainerSlot) (slot : Nat) : ContainerSlot :=
  { container with members := container.members.filter fun member => member != slot }

theorem ContainerSlot.mem_without {container : ContainerSlot} {slot member : Nat} :
    member ∈ (container.without slot).members ↔ member ∈ container.members ∧ member ≠ slot := by
  simp [without]

theorem ContainerSlot.without_adding {container : ContainerSlot} {slot : Nat}
    (absent : slot ∉ container.members) : (container.adding slot).without slot = container := by
  have kept : container.members.filter (fun member => member != slot) = container.members := by
    rw [List.filter_eq_self]
    intro member listed
    exact bne_iff_ne.mpr fun same => absent (same ▸ listed)
  simp [without, adding, kept]

namespace Pool

open SlotTable (at? put clear vacant? items)

structure Sound (pool : Pool) : Prop where
  groupsFit : pool.groups.length ≤ pool.limits.groups
  containersFit : pool.containers.length ≤ pool.limits.containers
  /-- No group stands in two slots. -/
  unique : ∀ {first second : Nat} {one other : GroupSlot}, at? pool.groups first = some one →
    at? pool.groups second = some other → one.group = other.group → first = second
  inhabited : ∀ {index : Nat} {container : ContainerSlot},
    at? pool.containers index = some container → container.members ≠ []
  bounded : ∀ {index : Nat} {container : ContainerSlot},
    at? pool.containers index = some container →
      container.members.length ≤ pool.limits.groupsPerContainer
  distinct : ∀ {index : Nat} {container : ContainerSlot},
    at? pool.containers index = some container → container.members.Nodup
  /-- A group's slot records the container that lists it. -/
  linked : ∀ slot index : Nat,
    (∃ owned, at? pool.groups slot = some owned ∧ owned.container = index) ↔
      ∃ container, at? pool.containers index = some container ∧ slot ∈ container.members

/-- Where a group goes: its slot with what it will hold, and the container that takes it, as it
is before. A container without members is a fresh one. -/
structure Admission where
  slot : Nat
  owned : GroupSlot
  host : ContainerSlot

def Admission.handle (admission : Admission) : GroupHandle :=
  { slot := admission.slot
    group := admission.owned.group
    descriptor := admission.owned.descriptor
    container := admission.host.descriptor }

/-- A container that can take another group: a live one with room, or a fresh one where the
table has room for it. -/
def Hosts (pool : Pool) (index : Nat) (host : ContainerSlot) : Prop :=
  (index, host) ∈ pool.roomy ∨
    vacant? pool.containers pool.limits.containers = some index ∧ host.members = [] ∧
      pool.limits.groupsPerContainer ≠ 0

structure Admits (pool : Pool) (admission : Admission) : Prop where
  slot : vacant? pool.groups pool.limits.groups = some admission.slot
  unknown : pool.handleOf? admission.owned.group = none
  host : pool.Hosts admission.owned.container admission.host

def admitting (pool : Pool) (admission : Admission) : Pool :=
  { pool with
    groups := put pool.groups admission.slot admission.owned
    containers := put pool.containers admission.owned.container
      (admission.host.adding admission.slot) }

def evict (pool : Pool) (slot : Nat) (owned : GroupSlot) (container : ContainerSlot) : Pool :=
  { pool with
    groups := clear pool.groups slot
    containers :=
      if (container.without slot).members = [] then clear pool.containers owned.container
      else put pool.containers owned.container (container.without slot) }

theorem mem_roomy {pool : Pool} {index : Nat} {container : ContainerSlot} :
    (index, container) ∈ pool.roomy ↔ at? pool.containers index = some container ∧
      container.members.length < pool.limits.groupsPerContainer := by
  rw [roomy, List.mem_filter, SlotTable.mem_items, decide_eq_true_iff]

namespace Admits

variable {pool : Pool} {admission : Admission}

theorem vacant (admits : pool.Admits admission) : at? pool.groups admission.slot = none :=
  (SlotTable.vacant?_spec admits.slot).1

theorem reachable (admits : pool.Admits admission) :
    admission.owned.container ≤ pool.containers.length := by
  rcases admits.host with roomy | ⟨free, -⟩
  · exact Nat.le_of_lt (SlotTable.length_of_at? (mem_roomy.mp roomy).1)
  · exact (SlotTable.vacant?_spec free).2

theorem at?_groups (admits : pool.Admits admission) (slot : Nat) :
    at? (pool.admitting admission).groups slot =
      if admission.slot = slot then some admission.owned else at? pool.groups slot :=
  SlotTable.at?_put _ _ _ _ (SlotTable.vacant?_spec admits.slot).2

theorem at?_containers (admits : pool.Admits admission) (index : Nat) :
    at? (pool.admitting admission).containers index =
      if admission.owned.container = index then some (admission.host.adding admission.slot)
      else at? pool.containers index :=
  SlotTable.at?_put _ _ _ _ admits.reachable

end Admits

theorem at?_evict_groups (pool : Pool) (slot : Nat) (owned : GroupSlot)
    (container : ContainerSlot) (other : Nat) :
    at? (pool.evict slot owned container).groups other =
      if slot = other then none else at? pool.groups other :=
  SlotTable.at?_clear _ _ _

theorem at?_evict_containers {pool : Pool} {owned : GroupSlot} {container : ContainerSlot}
    (live : at? pool.containers owned.container = some container) (slot index : Nat) :
    at? (pool.evict slot owned container).containers index =
      if owned.container = index then
        if (container.without slot).members = [] then none else some (container.without slot)
      else at? pool.containers index := by
  unfold evict
  dsimp only
  split
  · exact SlotTable.at?_clear _ _ _
  · exact SlotTable.at?_put _ _ _ _ (Nat.le_of_lt (SlotTable.length_of_at? live))

theorem sound_empty (limits : PoolLimits) : (empty limits).Sound where
  groupsFit := Nat.zero_le _
  containersFit := Nat.zero_le _
  unique := nofun
  inhabited := nofun
  bounded := nofun
  distinct := nofun
  linked _ _ := ⟨nofun, nofun⟩

namespace Sound

variable {pool : Pool} {slot : Nat} {owned : GroupSlot}

/-- Every group is in a live container, which lists it. -/
theorem housed (sound : pool.Sound) (found : at? pool.groups slot = some owned) :
    ∃ container, at? pool.containers owned.container = some container ∧
      slot ∈ container.members :=
  (sound.linked slot owned.container).mp ⟨owned, found, rfl⟩

theorem handleOf?_eq_none_iff (sound : pool.Sound) {group : GroupId} :
    pool.handleOf? group = none ↔
      ∀ slot owned, at? pool.groups slot = some owned → owned.group ≠ group := by
  unfold handleOf?
  split
  · next slot owned searched =>
      have found := SlotTable.mem_items.mp (List.mem_of_find?_eq_some searched)
      have same : owned.group = group := by simpa using List.find?_some searched
      obtain ⟨container, live, -⟩ := sound.housed found
      rw [live]
      constructor
      · exact nofun
      · intro absent
        exact absurd same (absent slot owned found)
  · next searched =>
      refine ⟨fun _ slot owned found => ?_, fun _ => rfl⟩
      have absent := List.find?_eq_none.mp searched (slot, owned) (SlotTable.mem_items.mpr found)
      simpa using absent

variable {admission : Admission}

theorem unlisted (sound : pool.Sound) (empty : at? pool.groups slot = none) {index : Nat}
    {container : ContainerSlot} (live : at? pool.containers index = some container) :
    slot ∉ container.members := by
  intro listed
  obtain ⟨owned, found, -⟩ := (sound.linked slot index).mpr ⟨container, live, listed⟩
  rw [empty] at found
  cases found

theorem host_unlisted (sound : pool.Sound) (admits : pool.Admits admission) :
    admission.slot ∉ admission.host.members := by
  rcases admits.host with roomy | ⟨-, fresh, -⟩
  · exact sound.unlisted admits.vacant (mem_roomy.mp roomy).1
  · rw [fresh]
    exact List.not_mem_nil

theorem host_members (sound : pool.Sound) (admits : pool.Admits admission) (slot : Nat) :
    slot ∈ admission.host.members ↔
      ∃ owned, at? pool.groups slot = some owned ∧
        owned.container = admission.owned.container := by
  rw [sound.linked]
  rcases admits.host with roomy | ⟨free, fresh, -⟩
  · rw [(mem_roomy.mp roomy).1]
    simp
  · rw [fresh, (SlotTable.vacant?_spec free).1]
    simp

theorem admitting (sound : pool.Sound) (admits : pool.Admits admission) :
    (pool.admitting admission).Sound := by
  have unknown := sound.handleOf?_eq_none_iff.mp admits.unknown
  have groups := admits.at?_groups
  have containers := admits.at?_containers
  have unlisted := sound.host_unlisted admits
  refine {
    groupsFit := SlotTable.length_put_vacant? admits.slot sound.groupsFit _
    containersFit := ?_
    unique := ?_
    inhabited := ?_
    bounded := ?_
    distinct := ?_
    linked := ?_ }
  · rcases admits.host with roomy | ⟨free, -⟩
    · have kept := SlotTable.length_put_of_at? (mem_roomy.mp roomy).1
        (admission.host.adding admission.slot)
      exact Nat.le_trans (Nat.le_of_eq kept) sound.containersFit
    · exact SlotTable.length_put_vacant? free sound.containersFit _
  · intro first second one other found known same
    rw [groups] at found known
    split at found
    · next here =>
        cases found
        split at known
        · next there => exact here.symm.trans there
        · exact absurd same.symm (unknown second other known)
    · split at known
      · cases known
        exact absurd same (unknown first one found)
      · exact sound.unique found known same
  · intro index container live
    rw [containers] at live
    split at live
    · cases live
      simp [ContainerSlot.adding]
    · exact sound.inhabited live
  · intro index container live
    rw [containers] at live
    split at live
    · cases live
      rw [ContainerSlot.adding, List.length_append, List.length_singleton]
      rcases admits.host with roomy | ⟨-, fresh, allowed⟩
      · exact (mem_roomy.mp roomy).2
      · rw [fresh]
        exact Nat.pos_of_ne_zero allowed
    · exact sound.bounded live
  · intro index container live
    rw [containers] at live
    split at live
    · cases live
      refine List.nodup_append.mpr ⟨?_, List.nodup_singleton _, ?_⟩
      · rcases admits.host with roomy | ⟨-, fresh, -⟩
        · exact sound.distinct (mem_roomy.mp roomy).1
        · rw [fresh]
          exact List.nodup_nil
      · intro member listed last single same
        rw [List.mem_singleton.mp single] at same
        exact unlisted (same ▸ listed)
    · exact sound.distinct live
  · intro slot index
    rw [groups, containers]
    by_cases newGroup : admission.slot = slot
    · subst newGroup
      rw [if_pos rfl]
      by_cases newHost : admission.owned.container = index
      · rw [if_pos newHost]
        simp [newHost, ContainerSlot.adding]
      · rw [if_neg newHost, ← sound.linked, admits.vacant]
        simp [newHost]
    · rw [if_neg newGroup]
      by_cases newHost : admission.owned.container = index
      · rw [if_pos newHost, ← newHost, ← sound.host_members admits]
        simp [ContainerSlot.adding, Ne.symm newGroup]
      · rw [if_neg newHost]
        exact sound.linked slot index

variable {container : ContainerSlot}

theorem evict (sound : pool.Sound) (found : at? pool.groups slot = some owned)
    (live : at? pool.containers owned.container = some container) :
    (pool.evict slot owned container).Sound := by
  have groups := at?_evict_groups pool slot owned container
  have containers := at?_evict_containers live slot
  refine {
    groupsFit := ?_
    containersFit := ?_
    unique := ?_
    inhabited := ?_
    bounded := ?_
    distinct := ?_
    linked := ?_ }
  · exact Nat.le_trans (Nat.le_of_eq List.length_set) sound.groupsFit
  · refine Nat.le_trans (Nat.le_of_eq ?_) sound.containersFit
    unfold Pool.evict
    dsimp only
    split
    · exact List.length_set
    · exact SlotTable.length_put_of_at? live _
  · intro first second one other here there same
    rw [groups] at here there
    split at here
    · cases here
    · split at there
      · cases there
      · exact sound.unique here there same
  · intro index left known
    rw [containers] at known
    split at known
    · split at known
      · cases known
      · next remaining =>
          cases known
          exact remaining
    · exact sound.inhabited known
  · intro index left known
    rw [containers] at known
    split at known
    · split at known
      · cases known
      · cases known
        exact Nat.le_trans (List.length_filter_le _ _) (sound.bounded live)
    · exact sound.bounded known
  · intro index left known
    rw [containers] at known
    split at known
    · split at known
      · cases known
      · cases known
        exact (sound.distinct live).filter _
    · exact sound.distinct known
  · intro other index
    rw [groups, containers]
    have here := sound.linked other owned.container
    have elsewhere := sound.linked other index
    by_cases gone : slot = other
    · subst gone
      rw [if_pos rfl]
      by_cases same : owned.container = index
      · rw [if_pos same]
        by_cases alone : (container.without slot).members = []
        · simp [alone]
        · simp [alone, ContainerSlot.mem_without]
      · rw [if_neg same, ← elsewhere, found]
        simp [same]
    · rw [if_neg gone]
      by_cases same : owned.container = index
      · rw [if_pos same, ← same, here, live]
        by_cases alone : (container.without slot).members = []
        · have unlisted : other ∉ container.members := by
            intro listed
            have kept := ContainerSlot.mem_without.mpr ⟨listed, Ne.symm gone⟩
            rw [alone] at kept
            cases kept
          simp [alone, unlisted]
        · simp [alone, ContainerSlot.mem_without, Ne.symm gone]
      · rw [if_neg same]
        exact elsewhere

end Sound

end Pool

end Passthrough
