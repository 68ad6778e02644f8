import Mathlib.Data.List.Basic
import Passthrough.Proofs.Stock.Tenancy

set_option autoImplicit false

/-! What a pool says it holds: the descriptors of its groups and containers, and the attachment
of each group to the container that its slot records. An eviction takes exactly the tenure
of its group out of this stock, and an admission brings one in. -/

namespace Passthrough

open Pool.SlotTable (at? put clear items)
open Simulator (OpenObject)

theorem Pool.SlotTable.items_perm_of_at? {α : Type} {table other : Pool.SlotTable α}
    (same : ∀ index, at? table index = at? other index) : (items table).Perm (items other) := by
  refine (List.perm_ext_iff_of_nodup (nodup_items _) (nodup_items _)).mpr ?_
  rintro ⟨index, item⟩
  rw [mem_items, mem_items, same]

namespace Pool

def containerEntry (entry : Nat × ContainerSlot) : Int × OpenObject :=
  (entry.2.descriptor.number, .container true)

def groupEntry (entry : Nat × GroupSlot) : Int × OpenObject :=
  (entry.2.descriptor.number, .group entry.2.group)

def descriptors (pool : Pool) : List (Int × OpenObject) :=
  (items pool.containers).map containerEntry ++ (items pool.groups).map groupEntry

def attachment? (pool : Pool) (entry : Nat × GroupSlot) : Option (Int × Int) :=
  (at? pool.containers entry.2.container).map fun container =>
    (entry.2.descriptor.number, container.descriptor.number)

def attachments (pool : Pool) : List (Int × Int) :=
  (items pool.groups).filterMap pool.attachment?

def stock (pool : Pool) : Inventory :=
  { descriptors := pool.descriptors, attachments := pool.attachments, mappings := [] }

variable {pool other : Pool} {slot : Nat} {owned : GroupSlot} {container : ContainerSlot}

theorem stock_perm_of_at? (groups : ∀ index, at? pool.groups index = at? other.groups index)
    (containers : ∀ index, at? pool.containers index = at? other.containers index) :
    pool.stock.Perm other.stock := by
  have recorded : pool.attachment? = other.attachment? := by
    funext entry
    unfold attachment?
    rw [containers]
  refine ⟨?_, ?_, .refl _⟩
  · exact ((SlotTable.items_perm_of_at? containers).map _).append
      ((SlotTable.items_perm_of_at? groups).map _)
  · change ((items pool.groups).filterMap pool.attachment?).Perm
      ((items other.groups).filterMap other.attachment?)
    rw [recorded]
    exact (SlotTable.items_perm_of_at? groups).filterMap _

theorem Sound.attachment?_evict (sound : pool.Sound)
    (live : at? pool.containers owned.container = some container) {entry : Nat × GroupSlot}
    (kept : entry ∈ items (clear pool.groups slot)) :
    (pool.evict slot owned container).attachment? entry = pool.attachment? entry := by
  obtain ⟨place, held⟩ := entry
  have there := SlotTable.mem_items.mp kept
  rw [SlotTable.at?_clear] at there
  split at there
  · cases there
  next apart =>
  unfold attachment?
  rw [at?_evict_containers live]
  split
  · next same =>
      obtain ⟨listing, known, listed⟩ := sound.housed there
      dsimp only at same
      rw [← same, live] at known
      cases known
      have remaining : (container.without slot).members ≠ [] := by
        intro empty
        have kept := ContainerSlot.mem_without.mpr ⟨listed, Ne.symm apart⟩
        rw [empty] at kept
        cases kept
      rw [if_neg remaining, ← same, live]
      rfl
  · rfl

theorem Sound.stock_evict (sound : pool.Sound) (found : at? pool.groups slot = some owned)
    (live : at? pool.containers owned.container = some container) :
    pool.stock.Perm ((pool.evict slot owned container).stock.withTenure
      (owned.tenure slot container)) := by
  have groups := SlotTable.items_clear_perm found
  refine ⟨?_, ?_, .refl _⟩
  · unfold GroupSlot.tenure stock descriptors Pool.evict
    dsimp only
    by_cases alone : (container.without slot).members = []
    · rw [if_pos alone, if_pos alone]
      have both := ((SlotTable.items_clear_perm live).map containerEntry).append
        (groups.map groupEntry)
      exact both.trans (List.perm_middle.cons _)
    · rw [if_neg alone, if_neg alone]
      -- The container stays under its descriptor, with fewer members.
      have replaced : ((items (put pool.containers owned.container
          (container.without slot))).map containerEntry).Perm
            (containerEntry (owned.container, container) ::
              (items (clear pool.containers owned.container)).map containerEntry) :=
        (SlotTable.items_replace_perm live).map containerEntry
      have renewed := ((SlotTable.items_clear_perm live).map containerEntry).trans replaced.symm
      exact (renewed.append (groups.map groupEntry)).trans List.perm_middle
  · have recorded : pool.attachment? (slot, owned) =
        some (owned.descriptor.number, container.descriptor.number) := by
      unfold attachment?
      rw [live]
      rfl
    have others : (items (clear pool.groups slot)).filterMap
        (pool.evict slot owned container).attachment? =
          (items (clear pool.groups slot)).filterMap pool.attachment? :=
      List.filterMap_congr fun entry kept => sound.attachment?_evict live kept
    have split := groups.filterMap pool.attachment?
    rw [List.filterMap_cons_some recorded, ← others] at split
    exact split

theorem Sound.stock_admitting (sound : pool.Sound) {admission : Admission}
    (admits : pool.Admits admission) :
    (pool.admitting admission).stock.Perm (pool.stock.withTenure admission.tenure) := by
  have found : at? (pool.admitting admission).groups admission.slot = some admission.owned := by
    rw [admits.at?_groups, if_pos rfl]
  have unlisted := ContainerSlot.without_adding (sound.host_unlisted admits)
  -- Once the group has left again, the pool is what it was.
  have restored : ((pool.admitting admission).evict admission.slot admission.owned
      (admission.host.adding admission.slot)).stock.Perm pool.stock := by
    refine stock_perm_of_at? (fun index => ?_) fun index => ?_
    · rw [at?_evict_groups, admits.at?_groups]
      split
      · next same => rw [← same, admits.vacant]
      · rfl
    · rw [at?_evict_containers admits.live, admits.at?_containers, unlisted]
      split
      · next same =>
          rcases admits.host with roomy | ⟨free, fresh, -⟩
          · have known := (mem_roomy.mp roomy).1
            rw [if_neg (sound.inhabited known), ← same, known]
          · rw [if_pos fresh, ← same, (SlotTable.vacant?_spec free).1]
      · rfl
  have taken := (sound.admitting admits).stock_evict found admits.live
  rw [admits.tenure_eq sound] at taken
  exact taken.trans (restored.withTenure admission.tenure)

end Pool

end Passthrough
