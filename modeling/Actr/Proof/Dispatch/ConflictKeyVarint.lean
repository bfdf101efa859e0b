import Actr.Hyper.Dispatch.ConflictKey

/-! # Reading and writing varints -/

namespace Actr.Proof.Dispatch
open Hyper.Dispatch Library.Varint

variable {n result k v : Nat}

theorem payload_bits (byte : UInt8) : (byte &&& 0x7f).toNat = byte.toNat % 128 := by
  exact Nat.and_two_pow_sub_one_eq_mod byte.toNat 7

theorem high_bit_clear (byte : UInt8) : byte &&& 0x80 = 0 ↔ byte.toNat < 128 := by
  have all : ∀ n : Fin 256, UInt8.ofNat n.val &&& 0x80 = 0 ↔ n.val < 128 := by decide +kernel
  simpa using all ⟨byte.toNat, byte.toNat_lt⟩

theorem high_bit_set (small : n < 128) : (UInt8.ofNat n ||| 0x80).toNat = 128 + n := by
  have all : ∀ n : Fin 128, (UInt8.ofNat n.val ||| 0x80).toNat = 128 + n.val := by decide +kernel
  exact all ⟨n, small⟩

theorem accumulate {digit : Nat} (below : result < 128 ^ k) (fits : 128 ^ k * (digit + 1) ≤ 2 ^ 64) :
    result ||| (digit <<< (k * 7)) % 2 ^ 64 = result + 128 ^ k * digit := by
  have base : (128 : Nat) ^ k = 2 ^ (k * 7) := by
    rw [mul_comm, pow_mul]
    norm_num
  rw [base, mul_add_one] at fits
  rw [base] at below ⊢
  rw [Nat.shiftLeft_eq, mul_comm digit, Nat.mod_eq_of_lt (by omega), Nat.or_comm,
    ← Nat.two_pow_add_eq_or_of_lt below, add_comm]

theorem accumulate_lt {digit : Nat} (below : result < 128 ^ k) (small : digit < 128) :
    result + 128 ^ k * digit < 128 ^ (k + 1) := by
  have room := Nat.mul_le_mul_left (128 ^ k) (Nat.succ_le_of_lt small)
  rw [Nat.succ_eq_add_one, mul_add_one] at room
  omega

theorem digit_fits {byte : UInt8} (index : k ≤ 9) (accepted : ¬(k = 9 ∧ byte > 1)) :
    128 ^ k * (byte.toNat % 128 + 1) ≤ 2 ^ 64 := by
  by_cases last : k = 9
  · have small : byte.toNat ≤ 1 := by
      have bound : ¬byte > 1 := fun large => accepted ⟨last, large⟩
      simpa [UInt8.lt_iff_toNat_lt] using bound
    rw [last]
    omega
  · have power : (128 : Nat) ^ k ≤ 128 ^ 8 := Nat.pow_le_pow_right (by decide) (by omega)
    calc 128 ^ k * (byte.toNat % 128 + 1) ≤ 128 ^ 8 * 128 := Nat.mul_le_mul power (by omega)
      _ ≤ 2 ^ 64 := by decide

theorem readVarintLoop_ok {buf : List UInt8} {off left : Nat} (ten : k + left = 10) (below : result < 128 ^ k) :
    readVarintLoop buf off left k result = .ok (v, n) ↔
      ∃ bytes rest, buf.drop (off + k) = bytes ++ rest ∧ Terminated bytes ∧ bytes.length ≤ left ∧
        k + bytes.length = n ∧ result + 128 ^ k * value bytes = v ∧ v < 2 ^ 64 := by
  -- `result` holds the bits of the first `k` bytes; the tenth byte may only add one more bit.
  induction left generalizing k result with
  | zero =>
    simp only [readVarintLoop, reduceCtorEq, Nat.le_zero_eq, List.length_eq_zero_iff, false_iff]
    rintro ⟨bytes, rest, -, terminated, rfl, -⟩
    exact terminated
  | succ left ih =>
    rw [readVarintLoop, ← List.head?_drop]
    cases suffix : buf.drop (off + k) with
    | nil =>
      simp only [List.head?_nil, reduceCtorEq, List.nil_eq, List.append_eq_nil_iff, false_iff]
      rintro ⟨bytes, rest, ⟨rfl, -⟩, terminated, -⟩
      exact terminated
    | cons byte tail =>
      rw [terminated_start]
      simp only [List.head?_cons, List.length_cons, List.length_nil, value_cons, value_nil]
      by_cases rejected : k = 9 ∧ byte > 1
      · -- The tenth byte of a numeral of 64 bits is at most one.
        obtain ⟨rfl, large⟩ := rejected
        have large : 1 < byte.toNat := by simpa [UInt8.lt_iff_toNat_lt] using large
        simp only [gt_iff_lt, true_and, UInt8.lt_iff_toNat_lt, UInt8.reduceToNat, large, ↓reduceIte,
          reduceCtorEq, false_iff]
        rintro (⟨small, -, -, rfl, bound⟩ | ⟨-, bytes, rest, -, terminated, short, -⟩)
        · omega
        · have := terminated_length_pos terminated
          omega
      · have fits := digit_fits (by omega) rejected
        rw [if_neg rejected, payload_bits, accumulate below fits]
        rw [mul_add_one] at fits
        by_cases last : byte.toNat < 128
        · simp only [(high_bit_clear byte).mpr last, ↓reduceIte, Except.ok.injEq, Prod.mk.injEq, last,
            Nat.not_le.mpr last, false_and, or_false, true_and, mul_zero, add_zero]
          constructor
          · rintro ⟨rfl, rfl⟩
            exact ⟨by omega, rfl, rfl, by omega⟩
          · rintro ⟨-, rfl, rfl, -⟩
            exact ⟨rfl, rfl⟩
        · have next : buf.drop (off + (k + 1)) = tail := by
            rw [← add_assoc, ← List.drop_drop, suffix, List.drop_one, List.tail_cons]
          have higher (rest : Nat) : result + 128 ^ k * (byte.toNat % 128) + 128 ^ (k + 1) * rest =
              result + 128 ^ k * (byte.toNat % 128 + 128 * rest) := by ring
          have count (length : Nat) : k + 1 + length = k + (length + 1) := by omega
          simp only [mt (high_bit_clear byte).mp last, ↓reduceIte, last, false_and, false_or,
            Nat.not_lt.mp last, true_and]
          rw [ih (by omega) (accumulate_lt below (Nat.mod_lt _ (by decide))), next]
          simp only [higher, count, Nat.add_le_add_iff_right]

theorem readVarint_ok {buf : List UInt8} {off : Nat} : readVarint buf off = .ok (v, n) ↔
      ∃ bytes rest, buf.drop off = bytes ++ rest ∧ Terminated bytes ∧ bytes.length ≤ 10 ∧
        bytes.length = n ∧ value bytes = v ∧ v < 2 ^ 64 := by
  rw [readVarint, readVarintLoop_ok rfl (by decide)]
  simp

theorem canonicalVarintLoop_succ (room v : Nat) : canonicalVarintLoop (room + 1) v =
    if v / 128 = 0 then [UInt8.ofNat (v % 128)]
    else (UInt8.ofNat (v % 128) ||| 0x80) :: canonicalVarintLoop room (v / 128) := by
  rw [canonicalVarintLoop, Nat.and_two_pow_sub_one_eq_mod v 7, Nat.shiftRight_eq_div_pow]

theorem canonicalVarintLoop_value {room : Nat} (fits : v < 128 ^ room) : value (canonicalVarintLoop room v) = v := by
  induction room generalizing v with
  | zero => simp_all [canonicalVarintLoop]
  | succ room ih =>
    rw [canonicalVarintLoop_succ]
    split
    · simp only [value_cons, value_nil, UInt8.toNat_ofNat']
      omega
    · have rest : v / 128 < 128 ^ room := by
        omega
      rw [value_cons, ih rest, high_bit_set (Nat.mod_lt _ (by decide))]
      omega

theorem canonicalVarint_value (fits : v < 2 ^ 64) : value (canonicalVarint v) = v :=
  canonicalVarintLoop_value (fits.trans (by decide))

theorem canonicalVarint_inj {w : Nat} (first : v < 2 ^ 64) (second : w < 2 ^ 64) :
    canonicalVarint v = canonicalVarint w ↔ v = w := by
  constructor
  · intro equal
    rw [← canonicalVarint_value first, equal, canonicalVarint_value second]
  · rintro rfl
    rfl

end Actr.Proof.Dispatch
