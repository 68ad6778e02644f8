import Passthrough.Proofs.Stock.PoolCourse
import Passthrough.Simulator.State

set_option autoImplicit false

/-! How full a pool is. A table has a slot to give exactly while fewer are filled than it may
have, whatever holes were left in it and in which order. A pool has room for another group while
its table has and a container can host the group, be it a live one or a new one; otherwise
one of its three limits is what is short. -/

namespace Passthrough.Pool

open SlotTable (at? put clear vacant? items count)

namespace SlotTable

variable {α : Type} {table : SlotTable α} {capacity index : Nat} {item : α}

theorem count_eq_length_items (table : SlotTable α) : count table = (items table).length := by
  have kept (entry : Option α × Nat) :
      (entry.1.map fun item => (entry.2, item)).isSome = entry.1.isSome := Option.isSome_map
  have slots : count (table.zipIdx.map Prod.fst) = (items table).length := by
    rw [items, List.length_filterMap_eq_countP, count, List.countP_map]
    simp only [kept]
    rfl
  rwa [List.zipIdx_map_fst] at slots

/-- Holes do not matter: there is a slot to fill as long as the capacity is not used up. -/
theorem vacant?_isSome_iff (fits : table.length ≤ capacity) :
    (vacant? table capacity).isSome = true ↔ count table < capacity := by
  have filled : count table = table.length ↔ ∀ slot ∈ table, slot.isSome = true :=
    List.countP_eq_length
  have most := count_le_length table
  unfold vacant?
  cases searched : table.findIdx? Option.isNone with
  | some index =>
      obtain ⟨inside, empty, -⟩ := List.findIdx?_eq_some_iff_getElem.mp searched
      have short : count table ≠ table.length := by
        intro full
        have held := filled.mp full _ (List.getElem_mem inside)
        rw [Option.isNone_iff_eq_none.mp empty] at held
        cases held
      simp only [Option.isSome_some, true_iff]
      omega
  | none =>
      have full : count table = table.length := by
        refine filled.mpr fun slot among => ?_
        simpa using List.findIdx?_eq_none_iff.mp searched slot among
      by_cases room : table.length < capacity
      · simp [room, full]
      · simp [room, full]

theorem count_put_of_vacant (vacant : at? table index = none) (reachable : index ≤ table.length) :
    count (put table index item) = count table + 1 := by
  have filled : at? (put table index item) index = some item := by
    rw [at?_put _ _ _ _ reachable, if_pos rfl]
  have emptied : (items (clear (put table index item) index)).Perm (items table) := by
    refine items_perm_of_at? fun other => ?_
    rw [at?_clear, at?_put _ _ _ _ reachable]
    split
    · next same => rw [← same, vacant]
    · rfl
  have parts := (items_clear_perm filled).length_eq
  rw [List.length_cons, emptied.length_eq] at parts
  rw [count_eq_length_items, count_eq_length_items, parts]

theorem count_put_of_filled {old : α} (found : at? table index = some old) :
    count (put table index item) = count table := by
  have before := (items_clear_perm found).length_eq
  have after : (items (put table index item)).length =
      ((index, item) :: items (clear table index)).length :=
    (items_replace_perm found).length_eq
  rw [count_eq_length_items, count_eq_length_items, before, after]
  rfl

theorem items_ordered (table : SlotTable α) :
    (items table).Pairwise fun one other => one.1 < other.1 := by
  have places : (table.zipIdx.map Prod.snd).Pairwise (· < ·) := by
    rw [List.zipIdx_map_snd]
    exact List.pairwise_lt_range'
  refine (List.pairwise_map.mp places).filterMap _ ?_
  rintro ⟨first, place⟩ ⟨second, other⟩ before one there two here
  cases first with
  | none => cases there
  | some held =>
      cases second with
      | none => cases here
      | some kept =>
          cases there
          cases here
          exact before

end SlotTable

variable {pool : Pool} {index : Nat} {host : ContainerSlot}

def HasRoom (pool : Pool) (index : Nat) (host : ContainerSlot) : Prop :=
  at? pool.containers index = some host ∧ host.members.length < pool.limits.groupsPerContainer

structure FirstRoom (pool : Pool) (index : Nat) (host : ContainerSlot) : Prop where
  room : pool.HasRoom index host
  lowest : ∀ other later, pool.HasRoom other later → index ≤ other

def Crowded (pool : Pool) : Prop :=
  ∀ index host, ¬ pool.HasRoom index host

structure HasCapacity (pool : Pool) : Prop where
  groups : pool.groupCount < pool.limits.groups
  sharing : 0 < pool.limits.groupsPerContainer
  containers : (∃ index host, pool.HasRoom index host) ∨
    pool.containerCount < pool.limits.containers

/-- What is short when a pool has no capacity. -/
def shortage (pool : Pool) : DriverError :=
  if pool.groupCount = pool.limits.groups then .capacityExceeded "group" pool.limits.groups
  else if pool.limits.groupsPerContainer = 0 then .capacityExceeded "container group" 0
  else .capacityExceeded "container" pool.limits.containers

theorem roomy_ordered (pool : Pool) : pool.roomy.Pairwise fun one other => one.1 < other.1 :=
  (SlotTable.items_ordered pool.containers).filter _

theorem firstRoom_of_roomy {rest : List (Nat × ContainerSlot)}
    (roomy : pool.roomy = (index, host) :: rest) : pool.FirstRoom index host := by
  have ordered := pool.roomy_ordered
  rw [roomy, List.pairwise_cons] at ordered
  constructor
  · exact mem_roomy.mp (roomy ▸ List.mem_cons_self)
  · intro other later room
    have among : (other, later) ∈ pool.roomy := mem_roomy.mpr room
    rw [roomy] at among
    rcases List.mem_cons.mp among with same | behind
    · exact Nat.le_of_eq (congrArg Prod.fst same).symm
    · exact Nat.le_of_lt (ordered.1 _ behind)

theorem crowded_of_roomy (none : pool.roomy = []) : pool.Crowded := by
  intro index host room
  have among : (index, host) ∈ pool.roomy := mem_roomy.mpr room
  rw [none] at among
  cases among

theorem FirstRoom.unique {other : Nat} {later : ContainerSlot} (first : pool.FirstRoom index host)
    (second : pool.FirstRoom other later) : index = other ∧ host = later := by
  have same : index = other :=
    Nat.le_antisymm (first.lowest _ _ second.room) (second.lowest _ _ first.room)
  refine ⟨same, Option.some.inj (first.room.1.symm.trans ?_)⟩
  rw [same]
  exact second.room.1

theorem short_of_sharing (room : pool.groupCount < pool.limits.groups)
    (unshared : pool.limits.groupsPerContainer = 0) :
    ¬ pool.HasCapacity ∧ pool.shortage = .capacityExceeded "container group" 0 := by
  constructor
  · intro capacity
    have sharing := capacity.sharing
    omega
  · rw [shortage, if_neg (Nat.ne_of_lt room), if_pos unshared]

namespace Sound

theorem vacant_groups_iff (sound : pool.Sound) :
    (vacant? pool.groups pool.limits.groups).isSome = true ↔
      pool.groupCount < pool.limits.groups :=
  SlotTable.vacant?_isSome_iff sound.groupsFit

theorem vacant_containers_iff (sound : pool.Sound) :
    (vacant? pool.containers pool.limits.containers).isSome = true ↔
      pool.containerCount < pool.limits.containers :=
  SlotTable.vacant?_isSome_iff sound.containersFit

theorem groups_full_iff (sound : pool.Sound) :
    vacant? pool.groups pool.limits.groups = none ↔ pool.groupCount = pool.limits.groups := by
  have most := sound.coherent.groupCount
  rw [← Option.not_isSome_iff_eq_none, sound.vacant_groups_iff]
  omega

theorem short_of_groups (sound : pool.Sound)
    (full : vacant? pool.groups pool.limits.groups = none) :
    ¬ pool.HasCapacity ∧ pool.shortage = .capacityExceeded "group" pool.limits.groups := by
  have reached := sound.groups_full_iff.mp full
  constructor
  · intro capacity
    have room := capacity.groups
    omega
  · rw [shortage, if_pos reached]

theorem short_of_containers (sound : pool.Sound) (room : pool.groupCount < pool.limits.groups)
    (shared : pool.limits.groupsPerContainer ≠ 0) (crowded : pool.Crowded)
    (full : vacant? pool.containers pool.limits.containers = none) :
    ¬ pool.HasCapacity ∧
      pool.shortage = .capacityExceeded "container" pool.limits.containers := by
  constructor
  · intro capacity
    rcases capacity.containers with ⟨index, host, free⟩ | fewer
    · exact crowded index host free
    · have vacant := sound.vacant_containers_iff.mpr fewer
      rw [full] at vacant
      cases vacant
  · rw [shortage, if_neg (Nat.ne_of_lt room), if_neg shared]

end Sound

/-- Where the next group goes, and what is opened for it there. -/
inductive Berth (pool : Pool) (index : Nat) : ContainerSlot → List Event → Prop where
  | joins {host : ContainerSlot} (first : pool.FirstRoom index host) : Berth pool index host []
  | opens {container : ContainerFd} (crowded : pool.Crowded)
      (vacant : vacant? pool.containers pool.limits.containers = some index)
      (shared : pool.limits.groupsPerContainer ≠ 0) :
      Berth pool index { descriptor := container, members := [] } [.openContainer]

namespace Berth

variable {news : List Event}

theorem hosts (berth : pool.Berth index host news) : pool.Hosts index host := by
  cases berth with
  | joins first => exact Or.inl (mem_roomy.mpr first.room)
  | opens crowded vacant shared => exact Or.inr ⟨vacant, rfl, shared⟩

theorem hasCapacity (berth : pool.Berth index host news) (sound : pool.Sound)
    (room : pool.groupCount < pool.limits.groups) : pool.HasCapacity where
  groups := room
  sharing := by
    cases berth with
    | joins first => exact Nat.zero_lt_of_lt first.room.2
    | opens crowded vacant shared => exact Nat.pos_of_ne_zero shared
  containers := by
    cases berth with
    | joins first => exact Or.inl ⟨index, host, first.room⟩
    | opens crowded vacant shared =>
        exact Or.inr (sound.vacant_containers_iff.mp (by rw [vacant]; rfl))

end Berth

/-- A pool that took a group. The group is in the first container that had room, or else in one
that was opened for it; `news` is what was opened. -/
structure Lodges (pool : Pool) (group : GroupId) (handle : GroupHandle) (left : Pool)
    (news : List Event) : Prop where
  holds : left.HasHandle handle
  named : handle.group = group
  groupCount : left.groupCount = pool.groupCount + 1
  opens : .openContainer ∈ news ↔ pool.Crowded
  joined : ∀ index host, pool.FirstRoom index host →
    news = [.openGroup group] ∧ left.containerCount = pool.containerCount ∧
      handle.container = host.descriptor ∧
      at? left.containers index = some (host.adding handle.slot)
  alone : pool.Crowded →
    news = [.openGroup group, .openContainer] ∧
      left.containerCount = pool.containerCount + 1 ∧
      ∃ index, at? pool.containers index = none ∧
        at? left.containers index =
          some { descriptor := handle.container, members := [handle.slot] }

theorem Admits.lodges {admission : Admission} {news : List Event}
    (admits : pool.Admits admission)
    (berth : pool.Berth admission.owned.container admission.host news) :
    pool.Lodges admission.owned.group admission.handle (pool.admitting admission)
      (.openGroup admission.owned.group :: news) := by
  have live := admits.live
  obtain ⟨slot, ⟨descriptor, group, index⟩, host⟩ := admission
  have counted : (pool.admitting ⟨slot, ⟨descriptor, group, index⟩, host⟩).groupCount =
      pool.groupCount + 1 :=
    SlotTable.count_put_of_vacant admits.vacant (SlotTable.vacant?_spec admits.slot).2
  dsimp only at berth live
  cases berth with
  | joins first =>
      refine {
        holds := admits.hasHandle
        named := rfl
        groupCount := counted
        opens := ?_
        joined := ?_
        alone := fun crowded => absurd first.room (crowded index host) }
      · simp only [List.mem_singleton, reduceCtorEq, false_iff]
        exact fun crowded => crowded index host first.room
      · intro place other second
        obtain ⟨rfl, rfl⟩ := first.unique second
        exact ⟨rfl, SlotTable.count_put_of_filled first.room.1, rfl, live⟩
  | @opens container crowded vacant shared =>
      obtain ⟨absent, reachable⟩ := SlotTable.vacant?_spec vacant
      refine {
        holds := admits.hasHandle
        named := rfl
        groupCount := counted
        opens := ?_
        joined := fun place other first => absurd first.room (crowded place other)
        alone := fun _ => ?_ }
      · simp [crowded]
      · exact ⟨rfl, SlotTable.count_put_of_vacant absent reachable, index, absent, live⟩

end Passthrough.Pool
