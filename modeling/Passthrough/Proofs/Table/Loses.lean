import Std.Data.ExtTreeMap

set_option autoImplicit false

/-! Tables that only lose entries. The keys that are lost are named by a property, and all other
entries stay as they are. -/

namespace Passthrough

variable {κ ν : Type} {cmp : κ → κ → Ordering} [Std.TransCmp cmp]

structure Loses (lost : κ → Prop) (before after : Std.ExtTreeMap κ ν cmp) : Prop where
  gone : ∀ key, lost key → after[key]? = none
  kept : ∀ key, ¬ lost key → after[key]? = before[key]?

namespace Loses

variable {lost more : κ → Prop} {before middle after : Std.ExtTreeMap κ ν cmp}

theorem of_absent (absent : ∀ key, lost key → before[key]? = none) : Loses lost before before where
  gone := absent
  kept _ _ := rfl

theorem trans (first : Loses lost before middle) (second : Loses more middle after) :
    Loses (fun key => lost key ∨ more key) before after where
  gone key either := by
    by_cases later : more key
    · exact second.gone key later
    · rw [second.kept key later]
      exact first.gone key (either.resolve_right later)
  kept key neither := by
    rw [second.kept key fun later => neither (Or.inr later)]
    exact first.kept key fun earlier => neither (Or.inl earlier)

theorem congr (loses : Loses lost before after) (same : ∀ key, lost key ↔ more key) :
    Loses more before after where
  gone key found := loses.gone key ((same key).mpr found)
  kept key absent := loses.kept key (mt (same key).mp absent)

theorem erase [Std.LawfulEqCmp cmp] (table : Std.ExtTreeMap κ ν cmp) (key : κ) :
    Loses (· = key) table (table.erase key) where
  gone other same := by
    cases same
    rw [Std.ExtTreeMap.getElem?_erase, if_pos Std.ReflCmp.compare_self]
  kept other apart := by
    rw [Std.ExtTreeMap.getElem?_erase, if_neg]
    exact fun same => apart (Std.LawfulEqCmp.compare_eq_iff_eq.mp same).symm

theorem filter [Std.LawfulEqCmp cmp] (table : Std.ExtTreeMap κ ν cmp) (keep : κ → Bool) :
    Loses (fun key => keep key = false) table (table.filter fun key _ => keep key) where
  gone key dropped := by
    rw [Std.ExtTreeMap.getElem?_filter']
    cases table[key]? with
    | none => rfl
    | some value => exact if_neg (ne_true_of_eq_false dropped)
  kept key stays := by
    rw [Std.ExtTreeMap.getElem?_filter']
    cases table[key]? with
    | none => rfl
    | some value => exact if_pos (Bool.not_eq_false _ ▸ stays)

end Loses

end Passthrough
