import Mathlib.Data.List.Nodup
import Mathlib.Data.List.Perm.Basic
import Passthrough.Pool.Basic

set_option autoImplicit false

/-! Tables of slots by their contents. The items of a table are its filled slots; filling a
vacant slot adds one of them and clearing a slot takes one away. A vacant slot that
was found is one that can be filled without passing the capacity. -/

namespace Passthrough.Pool.SlotTable

variable {α : Type} {table : SlotTable α} {capacity index : Nat} {item : α}

theorem mem_items : (index, item) ∈ items table ↔ at? table index = some item := by
  simp only [items, at?, List.mem_filterMap, Prod.exists, List.mem_zipIdx_iff_getElem?]
  constructor
  · rintro ⟨slot, place, found, shown⟩
    cases slot with
    | none => cases shown
    | some held =>
        cases shown
        rw [found]
        rfl
  · intro found
    refine ⟨some item, index, ?_, rfl⟩
    exact Option.join_eq_some_iff.mp found

theorem nodup_items (table : SlotTable α) : (items table).Nodup := by
  have places : (table.zipIdx.map Prod.snd).Nodup := by
    rw [List.zipIdx_map_snd]
    exact List.nodup_range'
  refine (List.Nodup.of_map Prod.snd places).filterMap ?_
  rintro ⟨first, place⟩ ⟨second, other⟩ entry one same
  cases first with
  | none => cases one
  | some held =>
      cases second with
      | none => cases same
      | some kept =>
          cases one
          cases same
          rfl

theorem length_of_at? (found : at? table index = some item) : index < table.length := by
  by_cases inside : index < table.length
  · exact inside
  · rw [at?, List.getElem?_eq_none (Nat.le_of_not_lt inside)] at found
    cases found

theorem vacant?_spec (found : vacant? table capacity = some index) :
    at? table index = none ∧ index ≤ table.length := by
  unfold vacant? at found
  cases searched : table.findIdx? Option.isNone with
  | some place =>
      rw [searched] at found
      cases found
      obtain ⟨inside, empty, -⟩ := List.findIdx?_eq_some_iff_getElem.mp searched
      refine ⟨?_, Nat.le_of_lt inside⟩
      rw [at?, List.getElem?_eq_getElem inside, Option.isNone_iff_eq_none.mp empty]
      rfl
  | none =>
      rw [searched] at found
      dsimp only at found
      split at found
      · cases found
        refine ⟨?_, Nat.le_refl _⟩
        rw [at?, List.getElem?_eq_none (Nat.le_refl _)]
        rfl
      · cases found

theorem length_put (reachable : index ≤ table.length) (item : α) :
    (put table index item).length = max table.length (index + 1) := by
  unfold put
  split
  · rw [List.length_append, List.length_singleton]
    omega
  · rw [List.length_set]
    omega

theorem length_put_vacant? (found : vacant? table capacity = some index)
    (fits : table.length ≤ capacity) (item : α) : (put table index item).length ≤ capacity := by
  have inside : index < capacity := by
    unfold vacant? at found
    cases searched : table.findIdx? Option.isNone with
    | some place =>
        rw [searched] at found
        cases found
        obtain ⟨inside, -⟩ := List.findIdx?_eq_some_iff_getElem.mp searched
        omega
    | none =>
        rw [searched] at found
        dsimp only at found
        split at found
        · cases found
          assumption
        · cases found
  rw [length_put (vacant?_spec found).2]
  omega

theorem length_put_of_at? {old : α} (found : at? table index = some old) (item : α) :
    (put table index item).length = table.length := by
  have inside := length_of_at? found
  rw [length_put (Nat.le_of_lt inside)]
  omega

theorem count_le_length (table : SlotTable α) : count table ≤ table.length :=
  List.countP_le_length

theorem items_clear_perm (found : at? table index = some item) :
    (items table).Perm ((index, item) :: items (clear table index)) := by
  have absent : (index, item) ∉ items (clear table index) := by
    rw [mem_items, at?_clear, if_pos rfl]
    exact nofun
  refine (List.perm_ext_iff_of_nodup (nodup_items _)
    (List.nodup_cons.mpr ⟨absent, nodup_items _⟩)).mpr ?_
  rintro ⟨place, held⟩
  rw [mem_items, List.mem_cons, mem_items, at?_clear]
  by_cases same : index = place
  · subst same
    rw [if_pos rfl, found]
    simp [eq_comm]
  · rw [if_neg same]
    simp [Ne.symm same]

theorem items_replace_perm {old : α} (found : at? table index = some old) :
    (items (put table index item)).Perm ((index, item) :: items (clear table index)) := by
  have inside := length_of_at? found
  have cleared : clear (put table index item) index = clear table index := by
    rw [put, if_neg (Nat.ne_of_lt inside), clear, clear, List.set_set]
  have filled : at? (put table index item) index = some item := by
    rw [at?_put table index index item (Nat.le_of_lt inside), if_pos rfl]
  rw [← cleared]
  exact items_clear_perm filled

end Passthrough.Pool.SlotTable
