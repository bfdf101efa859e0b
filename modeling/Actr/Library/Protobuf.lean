import Actr.Library.Varint

/-!
# The protobuf wire format

Well-formed messages as a relation between bytes and records, and the logical value of a singular scalar field of a
message: the last record of the field's number and wire type wins, a record of another wire type is an unknown field,
and an absent field has its default.
-/

namespace Actr.Library.Protobuf
open Varint

variable {bytes : List UInt8}

def Varint (strict : Bool) (bytes : List UInt8) (n : Nat) : Prop :=
  Terminated bytes ∧ bytes.length ≤ 10 ∧ (strict = true → value bytes < 2 ^ 64) ∧
    value bytes % 2 ^ 64 = n
  deriving Decidable

def Tag (strict : Bool) (bytes : List UInt8) (number wireType : Nat) : Prop :=
  1 ≤ number ∧ number < 2 ^ 29 ∧ Varint strict bytes (8 * number + wireType)
  deriving Decidable

inductive WireValue where
  | varint (n : Nat)
  | i64 (bytes : List UInt8)
  | len (bytes : List UInt8)
  | group
  | i32 (bytes : List UInt8)
  deriving DecidableEq, Repr

def WireValue.wireType : WireValue → Nat
  | .varint _ => 0
  | .i64 _ => 1
  | .len _ => 2
  | .group => 3
  | .i32 _ => 5

structure Record where
  number : Nat
  value : WireValue
  deriving DecidableEq, Repr

def Body (strict : Bool) : WireValue → List UInt8 → Prop
  | .varint n, body => Varint strict body n
  | .i64 bytes, body => bytes.length = 8 ∧ body = bytes
  | .len bytes, body => ∃ size, Varint strict size bytes.length ∧ body = size ++ bytes
  | .group, _ => False
  | .i32 bytes, body => bytes.length = 4 ∧ body = bytes

mutual

inductive WellFormedRecord (strict : Bool) : List UInt8 → Record → Prop
  | flat {key body : List UInt8} {number : Nat} {value : WireValue} :
      Tag strict key number value.wireType → Body strict value body →
      WellFormedRecord strict (key ++ body) ⟨number, value⟩
  | group {opening body closing : List UInt8} {number : Nat} {records : List Record} :
      Tag strict opening number 3 → WellFormed strict body records → Tag strict closing number 4 →
      WellFormedRecord strict (opening ++ (body ++ closing)) ⟨number, .group⟩

inductive WellFormed (strict : Bool) : List UInt8 → List Record → Prop
  | nil : WellFormed strict [] []
  | cons {bytes rest : List UInt8} {record : Record} {records : List Record} :
      WellFormedRecord strict bytes record → WellFormed strict rest records →
      WellFormed strict (bytes ++ rest) (record :: records)

end

inductive Flat (strict : Bool) : List UInt8 → List Record → Prop
  | nil : Flat strict [] []
  | cons {key body rest : List UInt8} {record : Record} {records : List Record} :
      Tag strict key record.number record.value.wireType → Body strict record.value body →
      Flat strict rest records → Flat strict (key ++ (body ++ rest)) (record :: records)

variable {strict strict' : Bool} {a b x y : List UInt8} {n m : Nat} {records : List Record} {record : Record}

theorem varint_unique
    (first : Varint strict a n) (second : Varint strict' b m) (same : a ++ x = b ++ y) : n = m ∧ a = b ∧ x = y := by
  obtain ⟨rfl, rest⟩ := terminated_unique first.1 second.1 same
  exact ⟨first.2.2.2.symm.trans second.2.2.2, rfl, rest⟩

theorem varint_ne_nil (read : Varint strict bytes n) : bytes ≠ [] :=
  List.length_pos_iff.mp (terminated_length_pos read.1)

theorem wireType_lt (value : WireValue) : value.wireType < 8 := by
  cases value <;> simp [WireValue.wireType]

theorem tag_unique {wire wire' : Nat}
    (small : wire < 8) (small' : wire' < 8)
    (first : Tag strict a n wire) (second : Tag strict' b m wire') (same : a ++ x = b ++ y) :
    n = m ∧ wire = wire' ∧ x = y := by
  obtain ⟨equal, -, rest⟩ := varint_unique first.2.2 second.2.2 same
  exact ⟨by omega, by omega, rest⟩

theorem body_unique {v w : WireValue}
    (wire : v.wireType = w.wireType) (first : Body strict v a) (second : Body strict' w b)
    (same : a ++ x = b ++ y) : v = w ∧ x = y := by
  cases v <;> cases w <;> simp only [WireValue.wireType] at wire <;> try omega
  case varint.varint n m =>
    obtain ⟨rfl, -, rest⟩ := varint_unique first second same
    exact ⟨rfl, rest⟩
  case len.len bytes bytes' =>
    obtain ⟨size, read, rfl⟩ := first
    obtain ⟨size', read', rfl⟩ := second
    rw [List.append_assoc, List.append_assoc] at same
    obtain ⟨length, -, same⟩ := varint_unique read read' same
    obtain ⟨rfl, rest⟩ := List.append_inj same length
    exact ⟨rfl, rest⟩
  case group.group => exact first.elim
  all_goals
    obtain ⟨length, rfl⟩ := first
    obtain ⟨length', rfl⟩ := second
    obtain ⟨rfl, rest⟩ := List.append_inj same (length.trans length'.symm)
    exact ⟨rfl, rest⟩

theorem wellFormed_inv (formed : WellFormed strict bytes records) :
    (bytes = [] ∧ records = []) ∨ ∃ head rest record tail, bytes = head ++ rest ∧
      records = record :: tail ∧ WellFormedRecord strict head record ∧ WellFormed strict rest tail := by
  cases formed with
  | nil => exact .inl ⟨rfl, rfl⟩
  | cons head rest => exact .inr ⟨_, _, _, _, rfl, rfl, head, rest⟩

theorem wellFormedRecord_tag (formed : WellFormedRecord strict bytes record) :
    ∃ key body, bytes = key ++ body ∧ Tag strict key record.number record.value.wireType ∧
      (Body strict record.value body ∨ record.value = .group) := by
  cases formed with
  | flat tag body => exact ⟨_, _, rfl, tag, .inl body⟩
  | group opening => exact ⟨_, _, rfl, opening, .inr rfl⟩

/-- A message that reads without groups reads in no other way. -/
theorem flat_unique {records' : List Record}
    (flat : Flat strict bytes records) (formed : WellFormed strict' bytes records') : records' = records := by
  induction flat generalizing records' with
  | nil =>
    rcases wellFormed_inv formed with ⟨-, empty⟩ | ⟨head, rest, record, tail, same, -, read, -⟩
    · exact empty
    · obtain ⟨key, body, rfl, tag, -⟩ := wellFormedRecord_tag read
      simp only [List.nil_eq, List.append_eq_nil_iff] at same
      exact absurd same.1.1 (varint_ne_nil tag.2.2)
  | @cons key body rest record records tag read _ ih =>
    rcases wellFormed_inv formed with
      ⟨same, -⟩ | ⟨head, rest', record', tail, same, rfl, formed', formedTail⟩
    · simp only [List.append_eq_nil_iff] at same
      exact absurd same.1 (varint_ne_nil tag.2.2)
    · obtain ⟨key', body', rfl, tag', read'⟩ := wellFormedRecord_tag formed'
      rw [List.append_assoc] at same
      obtain ⟨number, wire, same⟩ :=
        tag_unique (wireType_lt _) (wireType_lt _) tag tag' same
      rcases read' with read' | group
      · obtain ⟨value, rfl⟩ := body_unique wire read read' same
        have equal : record' = record := by
          cases record
          simp_all
        rw [equal, ih formedTail]
      · -- A group's wire type belongs to no value with a body.
        cases value : record.value <;> simp_all [WireValue.wireType, Body]

theorem flat_wellFormed (flat : Flat strict bytes records) : WellFormed strict bytes records := by
  induction flat with
  | nil => exact .nil
  | cons tag body _ ih =>
    rw [← List.append_assoc]
    exact .cons (.flat tag body) ih

theorem flat_body (flat : Flat strict bytes records) (member : record ∈ records) :
    ∃ body, Body strict record.value body := by
  induction flat with
  | nil => cases member
  | cons _ body _ ih =>
    cases member with
    | head => exact ⟨_, body⟩
    | tail _ member => exact ih member

inductive Scalar where
  | bool | int32 | int64 | uint32 | uint64 | sint32 | sint64
  | fixed32 | fixed64 | sfixed32 | sfixed64 | enum | string | bytes
  deriving DecidableEq, Repr

def Scalar.wireType : Scalar → Nat
  | .bool | .int32 | .int64 | .uint32 | .uint64 | .sint32 | .sint64 | .enum => 0
  | .fixed64 | .sfixed64 => 1
  | .string | .bytes => 2
  | .fixed32 | .sfixed32 => 5

inductive Value where
  | bool (b : Bool)
  | int (z : Int)
  | bytes (bytes : List UInt8)
  deriving DecidableEq, Repr

def Scalar.default : Scalar → Value
  | .bool => .bool false
  | .string | .bytes => .bytes []
  | _ => .int 0

def littleEndian (bytes : List UInt8) : Nat := Nat.ofDigits 256 (bytes.map UInt8.toNat)

def zigzag (n : Nat) : Int := if n % 2 = 0 then (n / 2 : Nat) else -(n / 2 : Nat) - 1

def validUtf8 (bytes : List UInt8) : Bool := (ByteArray.mk bytes.toArray).validateUTF8

/-- What a decoder makes of a record of the scalar's wire type; 32-bit scalars keep the low 32 bits. -/
def interpret : Scalar → WireValue → Option Value
  | .bool, .varint n => some (.bool (n != 0))
  | .int32, .varint n | .enum, .varint n => some (.int (Int.bmod n (2 ^ 32)))
  | .int64, .varint n => some (.int (Int.bmod n (2 ^ 64)))
  | .uint32, .varint n => some (.int (n % 2 ^ 32 : Nat))
  | .uint64, .varint n => some (.int (n % 2 ^ 64 : Nat))
  | .sint32, .varint n => some (.int (zigzag (n % 2 ^ 32)))
  | .sint64, .varint n => some (.int (zigzag (n % 2 ^ 64)))
  | .fixed32, .i32 bytes => some (.int (littleEndian bytes))
  | .sfixed32, .i32 bytes => some (.int (Int.bmod (littleEndian bytes) (2 ^ 32)))
  | .fixed64, .i64 bytes => some (.int (littleEndian bytes))
  | .sfixed64, .i64 bytes => some (.int (Int.bmod (littleEndian bytes) (2 ^ 64)))
  | .string, .len bytes => if validUtf8 bytes then some (.bytes bytes) else none
  | .bytes, .len bytes => some (.bytes bytes)
  | _, _ => none

/-- The value of a singular scalar field of a message, or `none` when its last record has none. -/
def fieldValue (scalar : Scalar) (number : Nat) (records : List Record) : Option Value :=
  match (records.filter fun record =>
      record.number == number && record.value.wireType == scalar.wireType).getLast? with
  | none => some scalar.default
  | some record => interpret scalar record.value

theorem digits_lt (bytes : List UInt8) : ∀ digit ∈ bytes.map UInt8.toNat, digit < 256 := by
  intro digit member
  obtain ⟨byte, -, rfl⟩ := List.mem_map.mp member
  exact byte.toNat_lt

theorem littleEndian_inj (length : a.length = b.length) : littleEndian a = littleEndian b ↔ a = b := by
  constructor
  · intro equal
    have digits : a.map UInt8.toNat = b.map UInt8.toNat :=
      Nat.ofDigits_inj_of_len_eq (by decide) (by simpa using length) (digits_lt a) (digits_lt b) equal
    exact List.map_injective_iff.mpr (fun _ _ same => UInt8.toNat_inj.mp same) digits
  · rintro rfl
    rfl

theorem littleEndian_lt (bytes : List UInt8) : littleEndian bytes < 256 ^ bytes.length := by
  have bound := Nat.ofDigits_lt_base_pow_length (by decide) (digits_lt bytes)
  simpa [littleEndian] using bound

theorem zigzag_inj : zigzag n = zigzag m ↔ n = m := by
  unfold zigzag
  split <;> split <;> omega

theorem bmod_inj {bits : Nat} (first : n < 2 ^ bits) (second : m < 2 ^ bits) :
    Int.bmod n (2 ^ bits) = Int.bmod m (2 ^ bits) ↔ n = m := by
  constructor
  · intro equal
    have residue : (n : Int) % (2 ^ bits : Nat) = (m : Int) % (2 ^ bits : Nat) := by
      rw [← Int.bmod_emod, equal, Int.bmod_emod]
    norm_cast at residue
    rwa [Nat.mod_eq_of_lt first, Nat.mod_eq_of_lt second] at residue
  · rintro rfl
    rfl

theorem littleEndian_bmod_inj {bits : Nat} (first : 8 * a.length = bits) (second : 8 * b.length = bits) :
    Int.bmod (littleEndian a) (2 ^ bits) = Int.bmod (littleEndian b) (2 ^ bits) ↔ a = b := by
  have width (bytes : List UInt8) : littleEndian bytes < 2 ^ (8 * bytes.length) := by
    rw [pow_mul]
    exact littleEndian_lt bytes
  rw [bmod_inj (first ▸ width a) (second ▸ width b), littleEndian_inj (by omega)]

theorem fieldValue_single {scalar : Scalar} {number : Nat}
    (single : records.filter (fun record => record.number == number) = [record])
    (wire : record.value.wireType = scalar.wireType) :
    fieldValue scalar number records = interpret scalar record.value := by
  have filtered : (records.filter fun record =>
      record.number == number && record.value.wireType == scalar.wireType) = [record] := by
    simp only [Bool.and_comm (_ == number)]
    rw [← List.filter_filter, single]
    simp [wire]
  simp [fieldValue, filtered]

end Actr.Library.Protobuf
