import Mathlib.Data.Nat.Digits.Lemmas

/-!
# Base-128 numerals

Little-endian numerals of seven payload bits per byte, with the high bit set on every byte but the last.
-/

namespace Actr.Library.Varint

def value (bytes : List UInt8) : Nat := Nat.ofDigits 128 (bytes.map fun byte => byte.toNat % 128)

def Terminated : List UInt8 → Prop
  | [] => False
  | [byte] => byte.toNat < 128
  | byte :: rest => 128 ≤ byte.toNat ∧ Terminated rest

instance decidableTerminated : (bytes : List UInt8) → Decidable (Terminated bytes)
  | [] => .isFalse id
  | [byte] => inferInstanceAs (Decidable (byte.toNat < 128))
  | byte :: next :: rest =>
    have := decidableTerminated (next :: rest)
    inferInstanceAs (Decidable (128 ≤ byte.toNat ∧ Terminated (next :: rest)))

@[simp] theorem value_nil : value [] = 0 := rfl

@[simp] theorem value_cons (byte : UInt8) (rest : List UInt8) :
    value (byte :: rest) = byte.toNat % 128 + 128 * value rest := by
  simp [value, Nat.ofDigits_cons]

theorem terminated_cons {byte : UInt8} {rest : List UInt8} :
    Terminated (byte :: rest) ↔
      (byte.toNat < 128 ∧ rest = []) ∨ (128 ≤ byte.toNat ∧ Terminated rest) := by
  cases rest with
  | nil | cons => simp [Terminated]

theorem terminated_length_pos {bytes : List UInt8} (terminated : Terminated bytes) : 0 < bytes.length := by
  cases bytes with
  | nil => exact terminated.elim
  | cons => simp

theorem terminated_unique {a b x y : List UInt8} (first : Terminated a) (second : Terminated b)
    (same : a ++ x = b ++ y) : a = b ∧ x = y := by
  induction a generalizing b with
  | nil => exact first.elim
  | cons byte rest ih =>
    cases b with
    | nil => exact second.elim
    | cons =>
      simp only [List.cons_append, List.cons.injEq] at same
      obtain ⟨rfl, same⟩ := same
      rcases terminated_cons.mp first with ⟨small, rfl⟩ | ⟨large, first⟩
      · rcases terminated_cons.mp second with ⟨-, rfl⟩ | ⟨large, -⟩
        · exact ⟨rfl, same⟩
        · omega
      · rcases terminated_cons.mp second with ⟨small, -⟩ | ⟨-, second⟩
        · omega
        · obtain ⟨rfl, rest⟩ := ih first second same
          exact ⟨rfl, rest⟩

theorem terminated_start {byte : UInt8} {tail : List UInt8} (P : List UInt8 → Prop) :
    (∃ bytes rest, byte :: tail = bytes ++ rest ∧ Terminated bytes ∧ P bytes) ↔
      (byte.toNat < 128 ∧ P [byte]) ∨
      (128 ≤ byte.toNat ∧ ∃ bytes rest, tail = bytes ++ rest ∧ Terminated bytes ∧ P (byte :: bytes)) := by
  constructor
  · rintro ⟨bytes, rest, same, terminated, holds⟩
    cases bytes with
    | nil => exact terminated.elim
    | cons first bytes =>
      obtain ⟨rfl, rfl⟩ := same
      rcases terminated_cons.mp terminated with ⟨small, rfl⟩ | ⟨large, terminated⟩
      · exact .inl ⟨small, holds⟩
      · exact .inr ⟨large, bytes, rest, rfl, terminated, holds⟩
  · rintro (⟨small, holds⟩ | ⟨large, bytes, rest, rfl, terminated, holds⟩)
    · exact ⟨[byte], tail, rfl, small, holds⟩
    · exact ⟨byte :: bytes, rest, rfl, terminated_cons.mpr (.inr ⟨large, terminated⟩), holds⟩

end Actr.Library.Varint
