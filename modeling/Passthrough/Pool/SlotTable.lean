set_option autoImplicit false

/-! Tables of numbered slots. A slot is vacant or holds an item; vacant slots are
used again before a table grows, and a table grows only below its capacity. -/

namespace Passthrough.Pool

abbrev SlotTable (α : Type) := List (Option α)

namespace SlotTable

variable {α : Type}

/-- What a slot holds; slots past the end are vacant. -/
def at? (table : SlotTable α) (index : Nat) : Option α :=
  (table[index]?).join

def vacant? (table : SlotTable α) (capacity : Nat) : Option Nat :=
  match table.findIdx? Option.isNone with
  | some index => some index
  | none => if table.length < capacity then some table.length else none

/-- Fills a slot of the table, or the one just behind it. -/
def put (table : SlotTable α) (index : Nat) (item : α) : SlotTable α :=
  if index = table.length then table ++ [some item] else table.set index (some item)

def clear (table : SlotTable α) (index : Nat) : SlotTable α :=
  table.set index none

def items (table : SlotTable α) : List (Nat × α) :=
  table.zipIdx.filterMap fun (slot, index) => slot.map fun item => (index, item)

def count (table : SlotTable α) : Nat :=
  table.countP Option.isSome

theorem at?_clear (table : SlotTable α) (index other : Nat) :
    at? (clear table index) other = if index = other then none else at? table other := by
  simp only [at?, clear, List.getElem?_set]
  by_cases same : index = other
  · subst same
    by_cases inside : index < table.length
    · simp [inside]
    · simp [inside]
  · simp [same]

theorem at?_put (table : SlotTable α) (index other : Nat) (item : α)
    (reachable : index ≤ table.length) :
    at? (put table index item) other = if index = other then some item else at? table other := by
  unfold put
  by_cases behind : index = table.length
  · rw [if_pos behind]
    subst behind
    by_cases same : table.length = other
    · subst same
      simp [at?]
    · rw [if_neg same]
      simp only [at?]
      by_cases inside : other < table.length
      · rw [List.getElem?_append_left inside]
      · have beyond : (table ++ [some item]).length ≤ other := by
          simp only [List.length_append, List.length_singleton]
          omega
        rw [List.getElem?_eq_none beyond, List.getElem?_eq_none (by omega)]
  · rw [if_neg behind]
    have inside : index < table.length := by omega
    simp only [at?, List.getElem?_set]
    by_cases same : index = other
    · subst same
      simp [inside]
    · simp [same]

end SlotTable

end Passthrough.Pool
