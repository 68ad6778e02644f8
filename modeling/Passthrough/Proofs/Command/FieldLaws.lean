import Mathlib.Algebra.Group.Nat.Defs
import Passthrough.Command.Word

set_option autoImplicit false

/-! Laws of one field against another. What was written is read back, cut to the
field; a field that lies apart is not touched. The command words of the library
are built of such fields, so each of their parts can be read back on its own. -/

namespace Passthrough.Command.Field

private theorem ext_bits {left right : UInt64}
    (same : ∀ index, index < 64 → left.toBitVec.getLsbD index = right.toBitVec.getLsbD index) :
    left = right := by
  apply UInt64.eq_of_toBitVec_eq
  exact BitVec.eq_of_getLsbD_eq fun index inside => same index inside

theorem read_write (offset width : Nat) (value word : UInt64) (fits : offset + width ≤ 64) :
    read offset width (write offset width value word) = read 0 width value := by
  apply ext_bits
  intro index inside
  rw [getLsbD_read _ _ _ _ (by omega), getLsbD_read _ _ _ _ (by omega)]
  by_cases within : index < width
  · rw [getLsbD_write _ _ _ _ _ (by omega) (by omega)]
    have covered : offset ≤ offset + index ∧ offset + index < offset + width := by omega
    rw [if_pos covered, Nat.add_sub_cancel_left, Nat.zero_add]
  · simp [within]

theorem read_write_of_disjoint (offset width other otherWidth : Nat) (value word : UInt64)
    (fits : offset + width ≤ 64) (otherFits : other + otherWidth ≤ 64)
    (apart : offset + width ≤ other ∨ other + otherWidth ≤ offset) :
    read other otherWidth (write offset width value word) = read other otherWidth word := by
  apply ext_bits
  intro index inside
  rw [getLsbD_read _ _ _ _ (by omega), getLsbD_read _ _ _ _ (by omega)]
  by_cases within : index < otherWidth
  · rw [getLsbD_write _ _ _ _ _ (by omega) (by omega)]
    have outside : ¬ (offset ≤ other + index ∧ other + index < offset + width) := by omega
    rw [if_neg outside]
  · simp [within]

theorem write_read (offset width : Nat) (word : UInt64) (fits : offset + width ≤ 64) :
    write offset width (read offset width word) word = word := by
  apply ext_bits
  intro index inside
  rw [getLsbD_write _ _ _ _ _ (by omega) inside, getLsbD_read _ _ _ _ (by omega)]
  split
  · next within =>
      have relative : index - offset < width := by omega
      rw [Nat.add_sub_cancel' within.1, decide_eq_true relative, Bool.true_and]
  · rfl

theorem write_comm_of_disjoint (offset width other otherWidth : Nat)
    (value otherValue word : UInt64) (fits : offset + width ≤ 64)
    (otherFits : other + otherWidth ≤ 64)
    (apart : offset + width ≤ other ∨ other + otherWidth ≤ offset) :
    write offset width value (write other otherWidth otherValue word) =
      write other otherWidth otherValue (write offset width value word) := by
  apply ext_bits
  intro index inside
  simp only [getLsbD_write _ _ _ _ _ (show width ≤ 64 by omega) inside,
    getLsbD_write _ _ _ _ _ (show otherWidth ≤ 64 by omega) inside]
  by_cases here : offset ≤ index ∧ index < offset + width
  · have elsewhere : ¬ (other ≤ index ∧ index < other + otherWidth) := by omega
    rw [if_pos here, if_neg elsewhere, if_pos here]
  · rw [if_neg here, if_neg here]

/-- As a number, a field is what its word leaves without the bits below, cut to the width. -/
theorem toNat_read (offset width : Nat) (word : UInt64) (fits : width ≤ 64) :
    (read offset width word).toNat = word.toNat / 2 ^ offset % 2 ^ width := by
  apply Nat.eq_of_testBit_eq
  intro index
  have bit := getLsbD_read offset width index word fits
  simp only [BitVec.getLsbD, UInt64.toNat_toBitVec] at bit
  rw [bit, Nat.testBit_mod_two_pow, Nat.testBit_div_two_pow, Nat.add_comm]

theorem toUInt8_read (value : UInt8) : (read 0 8 value.toUInt64).toUInt8 = value := by
  apply UInt8.eq_of_toBitVec_eq
  apply BitVec.eq_of_getLsbD_eq
  intro index inside
  have bit := getLsbD_read 0 8 index value.toUInt64 (by omega)
  simp only [UInt64.toBitVec_toUInt8, BitVec.getLsbD_setWidth, bit, UInt8.toBitVec_toUInt64,
    Nat.zero_add]
  simp [inside, show index < 64 by omega]

theorem toUInt16_read (value : UInt16) : (read 0 16 value.toUInt64).toUInt16 = value := by
  apply UInt16.eq_of_toBitVec_eq
  apply BitVec.eq_of_getLsbD_eq
  intro index inside
  have bit := getLsbD_read 0 16 index value.toUInt64 (by omega)
  simp only [UInt64.toBitVec_toUInt16, BitVec.getLsbD_setWidth, bit, UInt16.toBitVec_toUInt64,
    Nat.zero_add]
  simp [inside, show index < 64 by omega]

theorem toUInt32_read (value : UInt32) : (read 0 32 value.toUInt64).toUInt32 = value := by
  apply UInt32.eq_of_toBitVec_eq
  apply BitVec.eq_of_getLsbD_eq
  intro index inside
  have bit := getLsbD_read 0 32 index value.toUInt64 (by omega)
  simp only [UInt64.toBitVec_toUInt32, BitVec.getLsbD_setWidth, bit, UInt32.toBitVec_toUInt64,
    Nat.zero_add]
  simp [inside, show index < 64 by omega]

theorem read_whole (value : UInt64) : read 0 64 value = value := by
  apply ext_bits
  intro index inside
  rw [getLsbD_read _ _ _ _ (by omega), Nat.zero_add]
  simp [inside]

end Passthrough.Command.Field
