import Mathlib.Algebra.Order.Ring.Nat
import Mathlib.Data.List.Basic

/-!
# Bytes

Big-endian numerals of a fixed width, and the division of a list into chunks of a fixed size.
-/

namespace Actr.Library.Bytes

def beBytes : Nat → Nat → List UInt8
  | 0, _ => []
  | width + 1, n => UInt8.ofNat (n / 256 ^ width) :: beBytes width n

def beValue : List UInt8 → Nat
  | [] => 0
  | byte :: rest => byte.toNat * 256 ^ rest.length + beValue rest

@[simp] theorem beBytes_length (width n : Nat) : (beBytes width n).length = width := by
  induction width with
  | zero => rfl
  | succ width ih => simp [beBytes, ih]

theorem beValue_beBytes_mod (width n : Nat) : beValue (beBytes width n) = n % 256 ^ width := by
  induction width with
  | zero => simp [beBytes, beValue, Nat.mod_one]
  | succ width ih =>
    have split : n % 256 ^ (width + 1) = n % 256 ^ width + 256 ^ width * (n / 256 ^ width % 256) := by
      rw [pow_succ, Nat.mod_mul]
    rw [beBytes, beValue, beBytes_length, ih, UInt8.toNat_ofNat', split, mul_comm, add_comm]

theorem beValue_beBytes (width : Nat) {n : Nat} (fits : n < 256 ^ width) : beValue (beBytes width n) = n := by
  rw [beValue_beBytes_mod, Nat.mod_eq_of_lt fits]

section Chunks

variable {α : Type*}

def divCeil (n size : Nat) : Nat := (n + size - 1) / size

def chunk (size : Nat) (data : List α) (k : Nat) : List α := (data.drop (k * size)).take size

def chunks (size : Nat) (data : List α) : List (List α) :=
  (List.range (divCeil data.length size)).map (chunk size data)

theorem chunk_length_le (size : Nat) (data : List α) (k : Nat) : (chunk size data k).length ≤ size :=
  List.length_take_le _ _

theorem flatten_chunk (size : Nat) (data : List α) (count : Nat) :
    ((List.range count).map (chunk size data)).flatten = data.take (count * size) := by
  induction count with
  | zero => simp
  | succ count ih =>
    rw [List.range_succ, List.map_append, List.flatten_append, ih, Nat.succ_mul, List.take_add]
    simp [chunk]

theorem le_divCeil_mul {n size : Nat} (positive : 0 < size) : n ≤ divCeil n size * size := by
  have division := Nat.div_add_mod (n + size - 1) size
  have remainder := Nat.mod_lt (n + size - 1) positive
  rw [mul_comm] at division
  unfold divCeil
  omega

theorem divCeil_le {n size count : Nat} (positive : 0 < size) : divCeil n size ≤ count ↔ n ≤ count * size := by
  constructor
  · intro bound
    exact (le_divCeil_mul positive).trans (Nat.mul_le_mul_right size bound)
  · intro bound
    rw [divCeil, ← Nat.lt_succ_iff, Nat.div_lt_iff_lt_mul positive, Nat.succ_mul]
    omega

end Chunks

end Actr.Library.Bytes
