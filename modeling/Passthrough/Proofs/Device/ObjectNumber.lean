import Passthrough.ObjectName
import Passthrough.Proofs.Text.Numeral

set_option autoImplicit false

/-! Names with a number in them. A name has the number that the text behind its first point
spells, if that is a numeral of 32 bits. Of all the texts that may stand there for a number,
one is plain: the decimal text that the number is written as. -/

namespace Passthrough.ObjectName

open Text.Decimal

theorem suffix?_eq_some_iff {name suffix : List Char} :
    suffix? name = some suffix ↔ ∃ front, name = front ++ '.' :: suffix ∧ '.' ∉ front := by
  induction name with
  | nil => simp [suffix?]
  | cons first rest ih =>
      unfold suffix?
      by_cases point : first = '.'
      · subst point
        rw [if_pos rfl]
        constructor
        · intro found
          cases found
          exact ⟨[], rfl, List.not_mem_nil⟩
        · intro split
          rcases split with ⟨front, whole, pointless⟩
          cases front with
          | nil =>
              cases whole
              rfl
          | cons other others =>
              cases whole
              exact absurd List.mem_cons_self pointless
      · rw [if_neg point, ih]
        constructor
        · intro split
          rcases split with ⟨front, rfl, pointless⟩
          refine ⟨first :: front, rfl, ?_⟩
          simp [pointless, Ne.symm point]
        · intro split
          rcases split with ⟨front, whole, pointless⟩
          cases front with
          | nil =>
              cases whole
              exact absurd rfl point
          | cons other others =>
              cases whole
              exact ⟨others, rfl, fun member => pointless (List.mem_cons_of_mem _ member)⟩

structure Parts (name objectClass suffix : String) : Prop where
  whole : name = objectClass ++ "." ++ suffix
  pointless : '.' ∉ objectClass.toList

theorem Parts.suffix? {name objectClass suffix : String} (parts : Parts name objectClass suffix) :
    suffix? name.toList = some suffix.toList := by
  rw [suffix?_eq_some_iff]
  refine ⟨objectClass.toList, ?_, parts.pointless⟩
  rw [parts.whole]
  simp

theorem exists_parts {name : String} {suffix : List Char}
    (found : suffix? name.toList = some suffix) :
    ∃ objectClass, Parts name objectClass (String.ofList suffix) := by
  rcases suffix?_eq_some_iff.mp found with ⟨front, whole, pointless⟩
  refine ⟨String.ofList front, ?_, by simpa using pointless⟩
  apply String.toList_injective
  simp [whole]

theorem number?_of_parts {name objectClass suffix : String}
    (parts : Parts name objectClass suffix) :
    (number? name).map UInt32.toNat = parse? UInt32.size suffix.toList := by
  unfold number?
  rw [parts.suffix?]
  cases parsed : parse? UInt32.size suffix.toList with
  | none => simp [parsed]
  | some value =>
      have small : value < UInt32.size := lt_of_parse? parsed
      simp [parsed, UInt32.toNat_ofNat_of_lt' small]

theorem number?_eq_iff {name : String} {value : Nat} :
    (number? name).map UInt32.toNat = some value ↔
      (∃ objectClass suffix, Parts name objectClass suffix ∧ Spells suffix.toList value) ∧
        value < UInt32.size := by
  constructor
  · intro read
    cases found : suffix? name.toList with
    | none =>
        unfold number? at read
        simp [found] at read
    | some suffix =>
        obtain ⟨objectClass, parts⟩ := exists_parts found
        rw [number?_of_parts parts, parse?_eq_some_iff] at read
        exact ⟨⟨objectClass, _, parts, read.1⟩, read.2⟩
  · intro spelled
    rcases spelled with ⟨⟨objectClass, suffix, parts, spells⟩, small⟩
    rw [number?_of_parts parts, parse?_eq_some_iff]
    exact ⟨spells, small⟩

/-- Names have exactly the numbers that they spell. Behind a class without a point, the decimal
text of a number is read back, and is its only plain spelling. -/
theorem numbers_are_those_spelled (name : String) (value : Nat) :
    ((number? name).map UInt32.toNat = some value ↔
      (∃ objectClass suffix, Parts name objectClass suffix ∧ Spells suffix.toList value) ∧
        value < UInt32.size) ∧
    ∀ objectClass : String, '.' ∉ objectClass.toList → ∀ number : UInt32,
      number? (objectClass ++ "." ++ toString number.toNat) = some number ∧
      Plain (toString number.toNat).toList ∧
      ∀ suffix : String, number? (objectClass ++ "." ++ suffix) = some number →
        Plain suffix.toList → suffix = toString number.toNat := by
  refine ⟨number?_eq_iff, ?_⟩
  intro objectClass pointless number
  have written : (toString number.toNat).toList = Nat.toDigits 10 number.toNat := by
    rw [Nat.toString_eq_ofList_toDigits, String.toList_ofList]
  have injective : Function.Injective (Option.map UInt32.toNat) :=
    Option.map_injective fun _ _ => UInt32.toNat_inj.mp
  have parts (suffix : String) : Parts (objectClass ++ "." ++ suffix) objectClass suffix :=
    ⟨rfl, pointless⟩
  refine ⟨?_, ?_, ?_⟩
  · apply injective
    rw [number?_of_parts (parts _), written]
    exact parse?_eq_some_iff.mpr ⟨.plain (digits_toDigits _), number.toNat_lt⟩
  · rw [written]
    exact plain_toDigits number.toNat
  · intro suffix read plain
    have parsed := number?_of_parts (parts suffix)
    rw [read] at parsed
    have spelled := (parse?_eq_some_iff.mp parsed.symm).1
    apply String.toList_injective
    rw [written]
    exact spelled.eq_toDigits plain

/-- Padded and signed, the largest number of 32 bits behind an empty class has one plain
spelling. -/
theorem numbers_are_those_spelled_of_largest :
    (number? ".+004294967295").map UInt32.toNat = some 4294967295 ∧
      (∃ objectClass suffix, Parts ".+004294967295" objectClass suffix ∧
        Spells suffix.toList 4294967295) ∧
      '.' ∉ "".toList ∧ number? (("" ++ ".") ++ "4294967295") = some 4294967295 ∧
      Plain "4294967295".toList ∧ "4294967295" = toString (4294967295 : UInt32).toNat := by
  have known := numbers_are_those_spelled ".+004294967295" 4294967295
  have read : (number? ".+004294967295").map UInt32.toNat = some 4294967295 := by decide +kernel
  have pointless : '.' ∉ "".toList := by decide
  have plain : Plain "4294967295".toList := by
    constructor
    · decide
    · intro rest padded
      cases padded
  have short : number? (("" ++ ".") ++ "4294967295") = some 4294967295 := by decide +kernel
  have only := (known.2 "" pointless 4294967295).2.2 "4294967295" short plain
  exact ⟨read, (known.1.mp read).1, pointless, short, plain, only⟩

end Passthrough.ObjectName
