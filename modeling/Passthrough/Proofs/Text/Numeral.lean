import Mathlib.Data.List.Induction
import Passthrough.Text.Decimal

set_option autoImplicit false

/-! The grammar of unsigned decimal numerals: ASCII digits, one at least, with or without a
plus sign in front. Reading accepts exactly what the grammar spells, as long as the value
is below the bound. The shortest spelling of a value is its decimal text. -/

namespace Passthrough.Text.Decimal

/-- One or more ASCII digits and the value they have together. -/
structure Digits (text : List Char) (value : Nat) : Prop where
  nonempty : text ≠ []
  digits : ∀ character ∈ text, character.isDigit = true
  value_eq : Nat.ofDigitChars 10 text 0 = value

/-- The texts that spell a value. -/
inductive Spells : List Char → Nat → Prop where
  | plain {text : List Char} {value : Nat} (digits : Digits text value) : Spells text value
  | signed {text : List Char} {value : Nat} (digits : Digits text value) :
      Spells ('+' :: text) value

/-- Neither a sign nor a zero in front of further digits. -/
structure Plain (text : List Char) : Prop where
  unsigned : text.head? ≠ some '+'
  unpadded : ∀ rest, text = '0' :: rest → rest = []

theorem digit?_of_isDigit {character : Char} (digit : character.isDigit = true) :
    digit? character = some (character.toNat - '0'.toNat) := by
  have range : '0' ≤ character ∧ character ≤ '9' := by
    simpa [Char.isDigit, Char.le_def] using digit
  unfold digit?
  rw [if_pos range]

theorem digit?_of_not_isDigit {character : Char} (other : character.isDigit = false) :
    digit? character = none := by
  have outside : ¬('0' ≤ character ∧ character ≤ '9') := by
    simpa [Char.isDigit, Char.le_def] using other
  unfold digit?
  rw [if_neg outside]

theorem extend?_eq (text : List Char) (value : Nat) :
    extend? value text =
      if text.all Char.isDigit then some (Nat.ofDigitChars 10 text value) else none := by
  induction text generalizing value with
  | nil => rfl
  | cons character rest ih =>
      unfold extend?
      cases digit : character.isDigit with
      | true =>
          rw [digit?_of_isDigit digit]
          simp only [ih, List.all_cons, digit, Bool.true_and, Nat.ofDigitChars_cons]
      | false =>
          rw [digit?_of_not_isDigit digit]
          simp [digit]

theorem digits?_eq_some_iff {text : List Char} {value : Nat} :
    digits? text = some value ↔ Digits text value := by
  cases text with
  | nil =>
      constructor
      · intro read
        cases read
      · intro digits
        exact absurd rfl digits.nonempty
  | cons character rest =>
      change extend? 0 (character :: rest) = some value ↔ _
      rw [extend?_eq]
      constructor
      · intro read
        split at read
        · next all =>
            refine ⟨by simp, ?_, Option.some.inj read⟩
            simpa using all
        · cases read
      · intro digits
        have all : (character :: rest).all Char.isDigit = true :=
          List.all_eq_true.mpr digits.digits
        rw [if_pos all, digits.value_eq]

theorem Digits.head_ne_sign {text : List Char} {value : Nat} (digits : Digits text value) :
    text.head? ≠ some '+' := by
  intro signed
  have digit := digits.digits '+' (List.mem_of_mem_head? signed)
  cases digit

theorem parse?_signed (bound : Nat) (text : List Char) :
    parse? bound ('+' :: text) = (digits? text).filter fun value => value < bound := by
  simp only [parse?]
  cases digits? text with
  | none => rfl
  | some value => simp [Option.filter]

theorem parse?_unsigned (bound : Nat) {text : List Char} (unsigned : text.head? ≠ some '+') :
    parse? bound text = (digits? text).filter fun value => value < bound := by
  unfold parse?
  split
  · exact absurd rfl unsigned
  · dsimp only
    cases digits? _ with
    | none => rfl
    | some value => simp [Option.filter]

/-- Reading accepts exactly the spellings of the values below the bound. -/
theorem parse?_eq_some_iff {bound value : Nat} {text : List Char} :
    parse? bound text = some value ↔ Spells text value ∧ value < bound := by
  by_cases signed : text.head? = some '+'
  · obtain ⟨rest, rfl⟩ := List.head?_eq_some_iff.mp signed
    rw [parse?_signed, Option.filter_eq_some_iff, digits?_eq_some_iff, decide_eq_true_iff]
    constructor
    · rintro ⟨digits, small⟩
      exact ⟨.signed digits, small⟩
    · rintro ⟨spelled, small⟩
      cases spelled with
      | plain digits => exact absurd signed digits.head_ne_sign
      | signed digits => exact ⟨digits, small⟩
  · rw [parse?_unsigned bound signed, Option.filter_eq_some_iff, digits?_eq_some_iff,
      decide_eq_true_iff]
    constructor
    · rintro ⟨digits, small⟩
      exact ⟨.plain digits, small⟩
    · rintro ⟨spelled, small⟩
      cases spelled with
      | plain digits => exact ⟨digits, small⟩
      | signed digits => exact absurd rfl signed

theorem digits_toDigits (value : Nat) : Digits (Nat.toDigits 10 value) value where
  nonempty := Nat.toDigits_ne_nil
  digits _ member := Nat.isDigit_of_mem_toDigits (by decide) (by decide) member
  value_eq := Nat.ofDigitChars_ten_toDigits

theorem digitChar_of_isDigit {character : Char} (digit : character.isDigit = true) :
    (character.toNat - '0'.toNat).digitChar = character := by
  have range := Char.isDigit_iff_toNat.mp digit
  have small : character.toNat - '0'.toNat < 10 := by
    have upper : '9'.toNat = '0'.toNat + 9 := rfl
    omega
  apply Char.toNat_inj.mp
  rw [Nat.toNat_digitChar_of_lt_ten small]
  have zero : '0'.toNat = 48 := rfl
  omega

/-- Digits without a padding zero are the decimal text of their value. The induction takes the
digits off the end, as writing puts them there. -/
theorem toDigits_of_plain (text : List Char) (digits : ∀ character ∈ text, character.isDigit = true)
    (nonempty : text ≠ []) (unpadded : ∀ rest, text = '0' :: rest → rest = []) :
    Nat.toDigits 10 (Nat.ofDigitChars 10 text 0) = text := by
  induction text using List.reverseRecOn with
  | nil => exact absurd rfl nonempty
  | append_singleton front last ih =>
      have lastDigit : last.isDigit = true := digits last (by simp)
      have small : last.toNat - '0'.toNat < 10 := by
        have range := Char.isDigit_iff_toNat.mp lastDigit
        have upper : '9'.toNat = '0'.toNat + 9 := rfl
        omega
      have written : (last.toNat - '0'.toNat).digitChar = last := digitChar_of_isDigit lastDigit
      rw [Nat.ofDigitChars_append, Nat.ofDigitChars_cons, Nat.ofDigitChars_nil]
      cases front with
      | nil =>
          rw [Nat.ofDigitChars_nil, Nat.mul_zero, Nat.zero_add, Nat.toDigits_of_lt_base small,
            written]
          rfl
      | cons first others =>
          have frontDigits : ∀ character ∈ first :: others, character.isDigit = true :=
            fun character member => digits character (List.mem_append_left _ member)
          have nonzero : first ≠ '0' := by
            rintro rfl
            have nothing := unpadded (others ++ [last]) rfl
            simp at nothing
          have front := ih frontDigits (by simp) (by
            rintro rest same
            exact absurd (List.cons.inj same).1 nonzero)
          have positive : 0 < Nat.ofDigitChars 10 (first :: others) 0 := by
            apply Nat.pos_of_ne_zero
            intro zero
            rw [zero, Nat.toDigits_zero] at front
            exact nonzero (List.cons.inj front).1.symm
          rw [← Nat.toDigits_append_toDigits (by decide) positive small, front,
            Nat.toDigits_of_lt_base small, written]

theorem Spells.eq_toDigits {text : List Char} {value : Nat} (spelled : Spells text value)
    (plain : Plain text) : text = Nat.toDigits 10 value := by
  cases spelled with
  | plain digits =>
      rw [← digits.value_eq]
      exact (toDigits_of_plain text digits.digits digits.nonempty plain.unpadded).symm
  | signed digits => exact absurd rfl plain.unsigned

theorem plain_toDigits (value : Nat) : Plain (Nat.toDigits 10 value) where
  unsigned := (digits_toDigits value).head_ne_sign
  unpadded := by
    induction value using Nat.strongRecOn with
    | _ value ih =>
        intro rest padded
        rw [Nat.toDigits_eq_if (by decide)] at padded
        split at padded
        · exact (List.cons.inj padded).2.symm
        · next large =>
            cases front : Nat.toDigits 10 (value / 10) with
            | nil => exact absurd front Nat.toDigits_ne_nil
            | cons first others =>
                rw [front] at padded
                obtain ⟨rfl, -⟩ := List.cons.inj padded
                have short := ih (value / 10) (by omega) others front
                subst short
                have zero : value / 10 = 0 := by
                  rw [← Nat.ofDigitChars_ten_toDigits (n := value / 10), front]
                  rfl
                omega

end Passthrough.Text.Decimal
