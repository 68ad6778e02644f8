set_option autoImplicit false

/-! Bit fields of a 64-bit word. A field is given by the position of its lowest
bit and by its width. The two statements below describe reading and writing bit
by bit; laws about several fields follow from them. -/

namespace Passthrough.Command.Field

def mask (width : Nat) : BitVec 64 :=
  BitVec.allOnes 64 >>> (64 - width)

def read (offset width : Nat) (word : UInt64) : UInt64 :=
  UInt64.ofBitVec ((word.toBitVec >>> offset) &&& mask width)

def write (offset width : Nat) (value word : UInt64) : UInt64 :=
  UInt64.ofBitVec
    ((word.toBitVec &&& ~~~(mask width <<< offset)) |||
      ((value.toBitVec &&& mask width) <<< offset))

theorem getLsbD_mask (width index : Nat) (fits : width ≤ 64) :
    (mask width).getLsbD index = decide (index < width) := by
  simp only [mask, BitVec.getLsbD_ushiftRight, BitVec.getLsbD_allOnes]
  congr 1
  simp only [eq_iff_iff]
  omega

theorem getLsbD_read (offset width index : Nat) (word : UInt64) (fits : width ≤ 64) :
    (read offset width word).toBitVec.getLsbD index =
      (decide (index < width) && word.toBitVec.getLsbD (offset + index)) := by
  simp [read, getLsbD_mask width index fits, Bool.and_comm]

theorem getLsbD_write (offset width index : Nat) (value word : UInt64)
    (fits : width ≤ 64) (inside : index < 64) :
    (write offset width value word).toBitVec.getLsbD index =
      if offset ≤ index ∧ index < offset + width then value.toBitVec.getLsbD (index - offset)
      else word.toBitVec.getLsbD index := by
  simp only [write, BitVec.getLsbD_or, BitVec.getLsbD_and, BitVec.getLsbD_not,
    BitVec.getLsbD_shiftLeft, getLsbD_mask _ _ fits, inside, decide_true, Bool.true_and]
  by_cases low : index < offset
  · have outside : ¬ (offset ≤ index ∧ index < offset + width) := by omega
    simp [low, outside]
  · by_cases within : index < offset + width
    · have relative : index - offset < width := by omega
      have both : offset ≤ index ∧ index < offset + width := by omega
      simp [low, relative, both]
    · have relative : ¬ index - offset < width := by omega
      have outside : ¬ (offset ≤ index ∧ index < offset + width) := by omega
      simp [low, relative, outside]

end Passthrough.Command.Field
