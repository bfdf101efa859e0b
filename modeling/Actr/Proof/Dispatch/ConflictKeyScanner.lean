import Actr.Proof.Dispatch.ConflictKeyProjection

/-! # The scanner on any bytes -/

namespace Actr.Proof.Dispatch
open Hyper.Dispatch Library.Varint

variable {payload : List UInt8} {target : Nat} {kind : PayloadFieldKind} {i j : Nat}
  {found found' : Option (List UInt8)} {isTarget : Bool}

theorem slice_inside {width : Nat} (start : i ≤ payload.length) (fits : ¬width > payload.length - i) :
    slice payload i (i + width) = some ((payload.drop i).take width) := by
  rw [slice, if_pos ⟨by omega, by omega⟩, Nat.add_sub_cancel_left]

theorem readVarint_inside {v n : Nat} (read : readVarint payload i = .ok (v, n)) :
    0 < n ∧ i + n ≤ payload.length := by
  obtain ⟨bytes, rest, suffix, terminated, -, rfl, -⟩ := readVarint_ok.mp read
  have positive := terminated_length_pos terminated
  have length := congrArg List.length suffix
  rw [List.length_drop, List.length_append] at length
  omega

theorem scanFixedSliced_eq {width : Nat} {accepted : Bool} (start : i ≤ payload.length) :
    scanFixedSliced width accepted payload i isTarget found =
      some (scanFixed width accepted payload i isTarget found) := by
  unfold scanFixedSliced scanFixed
  by_cases fits : width > payload.length - i
  · simp [fits]
  · rw [slice_inside start fits]
    split_ifs <;> rfl

theorem scanDelimitedSliced_eq :
    scanDelimitedSliced payload kind i isTarget found = some (scanDelimited payload kind i isTarget found) := by
  unfold scanDelimitedSliced scanDelimited
  cases read : readVarint payload i with
  | error => rfl
  | ok pair =>
    obtain ⟨len, m⟩ := pair
    simp only
    by_cases fits : len > payload.length - (i + m)
    · simp [fits]
    · rw [slice_inside (readVarint_inside read).2 fits]
      split_ifs <;> simp_all

theorem scanStepSliced_eq :
    scanStepSliced payload target kind i found = some (scanStep payload target kind i found) := by
  unfold scanStepSliced scanStep
  cases read : readVarint payload i with
  | error => rfl
  | ok =>
    have inside := (readVarint_inside read).2
    simp only [scanFixedSliced_eq inside, scanDelimitedSliced_eq]
    split_ifs
    · rfl
    · split <;> rfl

theorem scanStep_inside (ok : scanStep payload target kind i found = .ok (j, found')) (start : i < payload.length) :
    j ≤ payload.length := by
  obtain ⟨record, key, body, step⟩ := scanStep_ok ok
  have length := congrArg List.length (step.arm.suffix ▸ step.suffix)
  simp only [List.length_drop, List.length_append] at length
  have := step.arm.position
  omega

theorem canonicalVarintLoop_terminated {room v : Nat} (fits : v < 128 ^ (room + 1)) :
    Terminated (canonicalVarintLoop (room + 1) v) ∧ (canonicalVarintLoop (room + 1) v).length ≤ room + 1 := by
  induction room generalizing v with
  | zero =>
    rw [canonicalVarintLoop_succ, if_pos (by omega)]
    simp only [Terminated, UInt8.toNat_ofNat', List.length_singleton]
    omega
  | succ room ih =>
    rw [canonicalVarintLoop_succ]
    split
    · simp only [Terminated, UInt8.toNat_ofNat', List.length_singleton]
      omega
    · obtain ⟨terminated, short⟩ := ih (v := v / 128) (by omega)
      have high := high_bit_set (Nat.mod_lt v (by decide : 128 > 0))
      exact ⟨terminated_cons.mpr (.inr ⟨by omega, terminated⟩), by simpa using short⟩

theorem canonicalVarintLoop_shortest (room : Nat) {bytes : List UInt8} (nonempty : 0 < bytes.length) :
    (canonicalVarintLoop room (value bytes)).length ≤ bytes.length := by
  -- A byte of the numeral divides the value by 128, as a round of the writer does.
  induction bytes generalizing room with
  | nil => simp at nonempty
  | cons byte rest ih =>
    cases room with
    | zero => simp [canonicalVarintLoop]
    | succ room =>
      have high : value (byte :: rest) / 128 = value rest := by
        rw [value_cons]
        omega
      rw [canonicalVarintLoop_succ, high]
      split
      · simp
      · rename_i more
        cases rest with
        | nil => simp at more
        | cons => simpa using ih room (by simp)

/-- A scan ends with every slice inside the payload, and varints are written in their only shortest form. -/
theorem scanner_safe_and_varints_canonical (payload : List UInt8) (target : Nat) (kind : PayloadFieldKind) (v : UInt64)
    (rest : List UInt8) :
    scanLoop payload target kind payload.length 0 none = some (scanTopLevelField payload target kind) ∧
      (∀ i < payload.length, ∀ found,
        scanStepSliced payload target kind i found = some (scanStep payload target kind i found) ∧
        ∀ j found', scanStep payload target kind i found = .ok (j, found') → i < j ∧ j ≤ payload.length) ∧
      readVarint (canonicalVarint v.toNat ++ rest) 0 = .ok (v.toNat, (canonicalVarint v.toNat).length) ∧
      (∀ w : UInt64, canonicalVarint v.toNat = canonicalVarint w.toNat → v = w) ∧
      ∀ bytes n, readVarint bytes 0 = .ok (v.toNat, n) →
        (canonicalVarint v.toNat).length ≤ n ∧ n ≤ bytes.length := by
  refine ⟨scanTopLevelField_run payload target kind, ?_, ?_, ?_, ?_⟩
  · intro i start found
    exact ⟨scanStepSliced_eq, fun j found' ok => ⟨scanStep_advances ok, scanStep_inside ok start⟩⟩
  · obtain ⟨terminated, short⟩ := @canonicalVarintLoop_terminated 9 _ (v.toNat_lt.trans (by decide))
    exact readVarint_ok.mpr ⟨_, rest, rfl, terminated, short, rfl, canonicalVarint_value v.toNat_lt, v.toNat_lt⟩
  · intro w same
    exact UInt64.toNat_inj.mp ((canonicalVarint_inj v.toNat_lt w.toNat_lt).mp same)
  · intro bytes n read
    have inside := (readVarint_inside read).2
    obtain ⟨numeral, _, _, terminated, _, rfl, same, _⟩ := readVarint_ok.mp read
    rw [← same]
    exact ⟨canonicalVarintLoop_shortest 10 (terminated_length_pos terminated), by omega⟩

end Actr.Proof.Dispatch
