import Mathlib.Data.Nat.Bitwise

/-!
# 64-bit words

Packing a field above another one by a shift and an or, and reading it back by a shift or a mask, as arithmetic on the
numbers the words stand for; and the order of positive signed words.
-/

namespace Actr.Library.Words

variable {word high low shift mask : UInt64} {width : Nat}

theorem toNat_pack (inside : shift.toNat < 64) (fits : high.toNat * 2 ^ shift.toNat < 2 ^ 64)
    (below : low.toNat < 2 ^ shift.toNat) :
    ((high <<< shift) ||| low).toNat = high.toNat * 2 ^ shift.toNat + low.toNat := by
  rw [UInt64.toNat_or, UInt64.toNat_shiftLeft, Nat.mod_eq_of_lt inside, Nat.shiftLeft_eq, Nat.mod_eq_of_lt fits,
    ← Nat.shiftLeft_eq, Nat.shiftLeft_add_eq_or_of_lt below]

theorem toNat_mask (ones : mask.toNat = 2 ^ width - 1) : (word &&& mask).toNat = word.toNat % 2 ^ width := by
  rw [UInt64.toNat_and, ones, Nat.and_two_pow_sub_one_eq_mod]

theorem toNat_field (inside : shift.toNat < 64) : (word >>> shift).toNat = word.toNat / 2 ^ shift.toNat := by
  rw [UInt64.toNat_shiftRight, Nat.mod_eq_of_lt inside, Nat.shiftRight_eq_div_pow]

theorem toUInt64_le_of_lt_toInt64 {signed : Int64} (positive : 0 < signed) (before : signed < word.toInt64) :
    signed.toUInt64 ≤ word := by
  have first : signed.toInt = _ := signed.toBitVec.toInt_eq_toNat_cond
  have second : word.toInt64.toInt = _ := word.toInt64.toBitVec.toInt_eq_toNat_cond
  have bits : word.toInt64.toBitVec.toNat = word.toNat := rfl
  have unsigned : signed.toUInt64.toNat = signed.toBitVec.toNat := rfl
  have zero : (0 : Int64).toInt = 0 := rfl
  rw [Int64.lt_iff_toInt_lt, first, zero] at positive
  rw [Int64.lt_iff_toInt_lt, first, second, bits] at before
  rw [UInt64.le_iff_toNat_le, unsigned]
  split at before <;> split at before <;> split at positive <;> omega

end Actr.Library.Words
