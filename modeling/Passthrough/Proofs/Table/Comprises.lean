import Mathlib.Data.List.Nodup
import Std.Data.ExtTreeMap

set_option autoImplicit false

/-! A table that comprises a base and some entries beside it. The entries are a list in
any order, under keys of their own. A lenient account allows the table to hold more than
that, which is how entries are treated whose removal may be refused; an account that
is not lenient determines the table. -/

namespace Passthrough

variable {κ ν : Type} {cmp : κ → κ → Ordering} [Std.TransCmp cmp]

structure Comprises (lenient : Prop) (base : Std.ExtTreeMap κ ν cmp) (entries : List (κ × ν))
    (table : Std.ExtTreeMap κ ν cmp) : Prop where
  distinct : (entries.map Prod.fst).Nodup
  beside : ∀ entry ∈ entries, base[entry.1]? = none
  has : ∀ entry ∈ entries, table[entry.1]? = some entry.2
  keeps : ∀ (key : κ) (value : ν), base[key]? = some value → table[key]? = some value
  only : ¬ lenient → ∀ (key : κ) (value : ν), table[key]? = some value →
    (key, value) ∈ entries ∨ base[key]? = some value

namespace Comprises

variable {lenient : Prop} {base table : Std.ExtTreeMap κ ν cmp} {entries : List (κ × ν)}

theorem refl (lenient : Prop) (base : Std.ExtTreeMap κ ν cmp) :
    Comprises lenient base [] base where
  distinct := List.nodup_nil
  beside := nofun
  has := nofun
  keeps _ _ found := found
  only _ _ _ found := Or.inr found

theorem perm {others : List (κ × ν)} (comprises : Comprises lenient base entries table)
    (reordered : entries.Perm others) : Comprises lenient base others table where
  distinct := (reordered.map Prod.fst).nodup_iff.mp comprises.distinct
  beside entry member := comprises.beside entry (reordered.mem_iff.mpr member)
  has entry member := comprises.has entry (reordered.mem_iff.mpr member)
  keeps := comprises.keeps
  only strict key value found :=
    (comprises.only strict key value found).imp_left reordered.mem_iff.mp

theorem sublist {others : List (κ × ν)} (comprises : Comprises lenient base entries table)
    (allowed : lenient) (fewer : others.Sublist entries) :
    Comprises lenient base others table where
  distinct := comprises.distinct.sublist (fewer.map _)
  beside entry among := comprises.beside entry (fewer.mem among)
  has entry among := comprises.has entry (fewer.mem among)
  keeps := comprises.keeps
  only strict := absurd allowed strict

theorem forget {entry : κ × ν} (comprises : Comprises lenient base (entry :: entries) table)
    (allowed : lenient) : Comprises lenient base entries table :=
  comprises.sublist allowed (List.sublist_cons_self entry entries)

theorem grown {larger : Std.ExtTreeMap κ ν cmp} (comprises : Comprises lenient base entries table)
    (allowed : lenient)
    (more : ∀ (key : κ) (value : ν), table[key]? = some value → larger[key]? = some value) :
    Comprises lenient base entries larger where
  distinct := comprises.distinct
  beside := comprises.beside
  has entry among := more entry.1 entry.2 (comprises.has entry among)
  keeps key value found := more key value (comprises.keeps key value found)
  only strict := absurd allowed strict

/-- A table with nothing in its base is determined by its entries. -/
theorem getElem?_iff (comprises : Comprises False ∅ entries table) {key : κ} {value : ν} :
    table[key]? = some value ↔ (key, value) ∈ entries := by
  constructor
  · intro found
    rcases comprises.only id key value found with listed | based
    · exact listed
    · rw [Std.ExtTreeMap.getElem?_empty] at based
      cases based
  · exact comprises.has (key, value)

variable [Std.LawfulEqCmp cmp]

theorem toList (table : Std.ExtTreeMap κ ν cmp) : Comprises lenient ∅ table.toList table where
  distinct := by
    rw [Std.ExtTreeMap.map_fst_toList_eq_keys]
    exact Std.ExtTreeMap.nodup_keys
  beside _ _ := Std.ExtTreeMap.getElem?_empty
  has _ member := Std.ExtTreeMap.mem_toList_iff_getElem?_eq_some.mp member
  keeps key value found := by
    rw [Std.ExtTreeMap.getElem?_empty] at found
    cases found
  only _ _ _ found := Or.inl (Std.ExtTreeMap.mem_toList_iff_getElem?_eq_some.mpr found)

theorem getElem?_erase_of_ne (table : Std.ExtTreeMap κ ν cmp) {key other : κ}
    (different : other ≠ key) : (table.erase key)[other]? = table[other]? := by
  rw [Std.ExtTreeMap.getElem?_erase, if_neg]
  intro same
  exact different (Std.LawfulEqCmp.compare_eq_iff_eq.mp same).symm

theorem insert {key : κ} (value : ν) (comprises : Comprises lenient base entries table)
    (vacant : table[key]? = none) :
    Comprises lenient base ((key, value) :: entries) (table.insert key value) := by
  have apart (other : κ) (known : table[other]? ≠ none) :
      (table.insert key value)[other]? = table[other]? := by
    rw [Std.ExtTreeMap.getElem?_insert, if_neg]
    intro same
    rw [Std.LawfulEqCmp.compare_eq_iff_eq.mp same] at vacant
    exact known vacant
  refine ⟨?_, ?_, ?_, ?_, ?_⟩
  · refine List.nodup_cons.mpr ⟨fun member => ?_, comprises.distinct⟩
    obtain ⟨entry, among, rfl⟩ := List.mem_map.mp member
    rw [comprises.has entry among] at vacant
    cases vacant
  · intro entry member
    rcases List.mem_cons.mp member with rfl | among
    · cases known : base[key]? with
      | none => rfl
      | some old =>
          rw [comprises.keeps key old known] at vacant
          cases vacant
    · exact comprises.beside entry among
  · intro entry member
    rcases List.mem_cons.mp member with rfl | among
    · exact Std.ExtTreeMap.getElem?_insert_self
    · have found := comprises.has entry among
      rw [apart entry.1 (by rw [found]; exact Option.some_ne_none _), found]
  · intro other old known
    have found := comprises.keeps other old known
    rw [apart other (by rw [found]; exact Option.some_ne_none _), found]
  · intro strict other held found
    rw [Std.ExtTreeMap.getElem?_insert] at found
    by_cases same : cmp key other = .eq
    · rw [if_pos same] at found
      cases found
      cases Std.LawfulEqCmp.compare_eq_iff_eq.mp same
      exact Or.inl List.mem_cons_self
    · rw [if_neg same] at found
      exact (comprises.only strict other held found).imp_left (List.mem_cons_of_mem _)

theorem erase {key : κ} {value : ν}
    (comprises : Comprises lenient base ((key, value) :: entries) table) :
    Comprises lenient base entries (table.erase key) := by
  obtain ⟨alone, distinct⟩ := List.nodup_cons.mp comprises.distinct
  have apart (other : κ) (different : other ≠ key) := getElem?_erase_of_ne table different
  refine ⟨distinct, ?_, ?_, ?_, ?_⟩
  · intro entry among
    exact comprises.beside entry (List.mem_cons_of_mem _ among)
  · intro entry among
    rw [apart entry.1 fun same => alone (List.mem_map.mpr ⟨entry, among, same⟩)]
    exact comprises.has entry (List.mem_cons_of_mem _ among)
  · intro other old known
    have vacant := comprises.beside (key, value) List.mem_cons_self
    rw [apart other fun same => by rw [same, vacant] at known; cases known]
    exact comprises.keeps other old known
  · intro strict other held found
    by_cases same : other = key
    · subst same
      rw [Std.ExtTreeMap.getElem?_erase_self] at found
      cases found
    · rw [apart other same] at found
      rcases comprises.only strict other held found with member | known
      · rcases List.mem_cons.mp member with pair | among
        · exact absurd (congrArg Prod.fst pair) same
        · exact Or.inl among
      · exact Or.inr known

theorem erase_filter [DecidableEq κ] (comprises : Comprises lenient base entries table) {key : κ}
    (based : base[key]? = none) :
    Comprises lenient base (entries.filter fun entry => entry.1 != key) (table.erase key) := by
  have member_iff (entry : κ × ν) : entry ∈ entries.filter (fun entry => entry.1 != key) ↔
      entry ∈ entries ∧ entry.1 ≠ key := by
    rw [List.mem_filter, bne_iff_ne]
  have apart (other : κ) (different : other ≠ key) := getElem?_erase_of_ne table different
  refine ⟨?_, ?_, ?_, ?_, ?_⟩
  · exact comprises.distinct.sublist (List.filter_sublist.map _)
  · intro entry member
    exact comprises.beside entry ((member_iff entry).mp member).1
  · intro entry member
    obtain ⟨among, different⟩ := (member_iff entry).mp member
    rw [apart entry.1 different]
    exact comprises.has entry among
  · intro other old known
    rw [apart other fun same => by rw [same, based] at known; cases known]
    exact comprises.keeps other old known
  · intro strict other held found
    by_cases same : other = key
    · subst same
      rw [Std.ExtTreeMap.getElem?_erase_self] at found
      cases found
    · rw [apart other same] at found
      refine (comprises.only strict other held found).imp_left fun among => ?_
      exact (member_iff (other, held)).mpr ⟨among, same⟩

theorem replace {key : κ} {old : ν} (value : ν)
    (comprises : Comprises lenient base ((key, old) :: entries) table) :
    Comprises lenient base ((key, value) :: entries) (table.insert key value) := by
  have vacant : (table.erase key)[key]? = none := Std.ExtTreeMap.getElem?_erase_self
  have renewed := comprises.erase.insert value vacant
  have same : (table.erase key).insert key value = table.insert key value := by
    refine Std.ExtTreeMap.ext_getElem? fun other => ?_
    rw [Std.ExtTreeMap.getElem?_insert, Std.ExtTreeMap.getElem?_insert,
      Std.ExtTreeMap.getElem?_erase]
    split <;> rfl
  rw [← same]
  exact renewed

theorem eq_base (comprises : Comprises lenient base [] table) (strict : ¬ lenient) :
    table = base := by
  refine Std.ExtTreeMap.ext_getElem? fun key => ?_
  cases found : table[key]? with
  | some value =>
      rcases comprises.only strict key value found with member | known
      · cases member
      · exact known.symm
  | none =>
      cases known : base[key]? with
      | none => rfl
      | some value =>
          rw [comprises.keeps key value known] at found
          cases found

theorem unique {other : Std.ExtTreeMap κ ν cmp} (comprises : Comprises lenient base entries table)
    (same : Comprises lenient base entries other) (strict : ¬ lenient) : table = other := by
  have included {first second : Std.ExtTreeMap κ ν cmp} (one : Comprises lenient base entries first)
      (two : Comprises lenient base entries second) (key : κ) (value : ν)
      (found : first[key]? = some value) : second[key]? = some value := by
    rcases one.only strict key value found with listed | based
    · exact two.has (key, value) listed
    · exact two.keeps key value based
  refine Std.ExtTreeMap.ext_getElem? fun key => Option.ext fun value => ?_
  exact ⟨included comprises same key value, included same comprises key value⟩

end Comprises

end Passthrough
