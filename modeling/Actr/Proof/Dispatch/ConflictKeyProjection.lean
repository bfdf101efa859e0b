import Actr.Proof.Dispatch.ConflictKeyVarint

/-! # Projection to a conflict key -/

namespace Actr.Proof.Dispatch
open Hyper.Dispatch Library.Varint Library.Protobuf Actr.Protocol

variable {kind : PayloadFieldKind} {key a : List UInt8} {n : Nat} {body : List UInt8} {width : Nat}

def scalarOf : PayloadFieldKind → Scalar
  | .bool => .bool
  | .int32 => .int32
  | .int64 => .int64
  | .uint32 => .uint32
  | .uint64 => .uint64
  | .sint32 => .sint32
  | .sint64 => .sint64
  | .fixed32 => .fixed32
  | .fixed64 => .fixed64
  | .sfixed32 => .sfixed32
  | .sfixed64 => .sfixed64
  | .enum => .enum
  | .string => .string
  | .bytes => .bytes

def projected (kind : PayloadFieldKind) : WireValue → Option (List UInt8)
  | .varint n => (canonicalTypedVarint n kind).toOption
  | .i64 bytes => if kind.isFixed64 then some bytes else none
  | .len bytes =>
    if kind.isDelimited ∧ bytes.length ≤ maxConflictKeyBytes ∧ (kind = .string → validUtf8 bytes) then
      some bytes
    else none
  | .group => none
  | .i32 bytes => if kind.isFixed32 then some bytes else none

theorem projected_wireType {v : WireValue} (found : projected kind v = some key) :
    v.wireType = (scalarOf kind).wireType := by
  cases kind <;> cases v <;>
    simp_all [projected, canonicalTypedVarint, Except.toOption, scalarOf, Scalar.wireType,
      WireValue.wireType, PayloadFieldKind.isFixed64, PayloadFieldKind.isFixed32,
      PayloadFieldKind.isDelimited]

theorem projected_interpret {v : WireValue} (found : projected kind v = some key) :
    (interpret (scalarOf kind) v).isSome := by
  cases kind <;> cases v <;>
    simp_all [projected, canonicalTypedVarint, Except.toOption, scalarOf, interpret,
      PayloadFieldKind.isFixed64, PayloadFieldKind.isFixed32, PayloadFieldKind.isDelimited]
  case string.len bytes => exact found.2 ▸ found.1.2

theorem varint_lt {strict : Bool} {bytes : List UInt8} (read : Actr.Library.Protobuf.Varint strict bytes n) :
    n < 2 ^ 64 := by
  rw [← read.2.2.2]
  exact Nat.mod_lt _ (by decide)

def InRange : PayloadFieldKind → Nat → Prop
  | .bool, n => n ≤ 1
  | .int32, n | .enum, n => n ≤ 2 ^ 31 - 1 ∨ n ≥ 2 ^ 64 - 2 ^ 31
  | .uint32, n | .sint32, n => n ≤ 2 ^ 32 - 1
  | .int64, _ | .uint64, _ | .sint64, _ => True
  | _, _ => False

theorem canonicalTypedVarint_ok :
    canonicalTypedVarint n kind = .ok key ↔ InRange kind n ∧ canonicalVarint n = key := by
  cases kind <;> simp only [canonicalTypedVarint, InRange, true_and, false_and, Except.ok.injEq, reduceCtorEq]
  all_goals split <;> simp_all

theorem interpret_varint_inj {m : Nat} (first : n < 2 ^ 64) (second : m < 2 ^ 64) (range : InRange kind n)
    (range' : InRange kind m) :
    interpret (scalarOf kind) (.varint n) = interpret (scalarOf kind) (.varint m) ↔ n = m := by
  cases kind <;> simp only [InRange] at range range' <;>
    simp only [scalarOf, interpret, Option.some.injEq, Value.bool.injEq, Value.int.injEq]
  case bool => interval_cases n <;> interval_cases m <;> simp
  case int64 => exact bmod_inj first second
  case sint32 | sint64 => rw [zigzag_inj]; omega
  case int32 | enum => simp only [Int.bmod]; split <;> split <;> omega
  all_goals omega

theorem interpret_fixed_inj {scalar : Scalar} {value : List UInt8 → WireValue} {b : List UInt8}
    (first : a.length = width) (second : b.length = width)
    (reads : (∀ bytes, interpret scalar (value bytes) = some (.int (littleEndian bytes))) ∨
      ∀ bytes, interpret scalar (value bytes) = some (.int (Int.bmod (littleEndian bytes) (2 ^ (8 * width))))) :
    interpret scalar (value a) = interpret scalar (value b) ↔ a = b := by
  rcases reads with reads | reads <;> rw [reads, reads, Option.some.injEq, Value.int.injEq]
  · exact Int.natCast_inj.trans (littleEndian_inj (first.trans second.symm))
  · exact littleEndian_bmod_inj (by omega) (by omega)

theorem interpret_len (accepted : kind.isDelimited = true) (valid : kind = .string → validUtf8 a = true) :
    interpret (scalarOf kind) (.len a) = some (.bytes a) := by
  simp only [PayloadFieldKind.isDelimited, Bool.or_eq_true, beq_iff_eq] at accepted
  rcases accepted with rfl | rfl <;> simp [scalarOf, interpret, valid]

theorem projected_varint : projected kind (.varint n) = some key ↔ InRange kind n ∧ canonicalVarint n = key := by
  rw [← canonicalTypedVarint_ok, projected]
  cases canonicalTypedVarint n kind <;> simp [Except.toOption]

theorem projected_faithful {v w : WireValue} {body' key' : List UInt8} (read : Body true v body)
    (read' : Body true w body') (found : projected kind v = some key) (found' : projected kind w = some key') :
    interpret (scalarOf kind) v = interpret (scalarOf kind) w ↔ key = key' := by
  have wire := (projected_wireType found).trans (projected_wireType found').symm
  cases v <;> cases w <;> simp only [WireValue.wireType, reduceCtorEq] at wire <;> try omega
  case varint.varint n m =>
    obtain ⟨range, rfl⟩ := projected_varint.mp found
    obtain ⟨range', rfl⟩ := projected_varint.mp found'
    rw [canonicalVarint_inj (varint_lt read) (varint_lt read')]
    exact interpret_varint_inj (varint_lt read) (varint_lt read') range range'
  case i64.i64 a b =>
    simp only [projected, Option.ite_none_right_eq_some, Option.some.injEq] at found found'
    rw [interpret_fixed_inj read.1 read'.1, found.2, found'.2]
    have accepted := found.1
    simp only [PayloadFieldKind.isFixed64, Bool.or_eq_true, beq_iff_eq] at accepted
    exact accepted.imp (by rintro rfl _; rfl) (by rintro rfl _; rfl)
  case len.len a b =>
    simp only [projected, Option.ite_none_right_eq_some, Option.some.injEq] at found found'
    rw [interpret_len found.1.1 found.1.2.2, interpret_len found'.1.1 found'.1.2.2, ← found.2, ← found'.2]
    simp
  case group.group => exact read.elim
  case i32.i32 a b =>
    simp only [projected, Option.ite_none_right_eq_some, Option.some.injEq] at found found'
    rw [interpret_fixed_inj read.1 read'.1, found.2, found'.2]
    have accepted := found.1
    simp only [PayloadFieldKind.isFixed32, Bool.or_eq_true, beq_iff_eq] at accepted
    exact accepted.imp (by rintro rfl _; rfl) (by rintro rfl _; rfl)

theorem readVarint_varint {buf : List UInt8} {off v : Nat} (read : readVarint buf off = .ok (v, n)) :
    ∃ bytes, buf.drop off = bytes ++ buf.drop (off + n) ∧ Actr.Library.Protobuf.Varint true bytes v ∧
      bytes.length = n := by
  obtain ⟨bytes, rest, suffix, terminated, short, rfl, rfl, bound⟩ := readVarint_ok.mp read
  refine ⟨bytes, ?_, ⟨terminated, short, fun _ => bound, Nat.mod_eq_of_lt bound⟩, rfl⟩
  rw [← List.drop_drop, suffix, List.drop_left]

theorem take_suffix {payload : List UInt8} {i : Nat} (fits : ¬width > payload.length - i) :
    payload.drop i = (payload.drop i).take width ++ payload.drop (i + width) ∧
      ((payload.drop i).take width).length = width := by
  constructor
  · rw [← List.drop_drop, List.take_append_drop]
  · rw [List.length_take, List.length_drop]
    omega

structure ArmRead (payload : List UInt8) (kind : PayloadFieldKind) (i : Nat) (isTarget : Bool)
    (found : Option (List UInt8)) (j : Nat) (found' : Option (List UInt8)) (value : WireValue)
    (body : List UInt8) : Prop where
  suffix : payload.drop i = body ++ payload.drop j
  position : j = i + body.length
  read : Body true value body
  other : isTarget = false → found' = found
  target : isTarget = true → found = none ∧ found'.isSome ∧ found' = projected kind value

section Arms

variable {payload : List UInt8} {kind : PayloadFieldKind} {i j : Nat} {isTarget : Bool}
  {found found' : Option (List UInt8)}

theorem scanVarint_ok (ok : scanVarint payload kind i isTarget found = .ok (j, found')) :
    ∃ n body, ArmRead payload kind i isTarget found j found' (.varint n) body := by
  unfold scanVarint at ok
  cases read : readVarint payload i with
  | error => simp [read] at ok
  | ok pair =>
    obtain ⟨value, m⟩ := pair
    obtain ⟨body, suffix, varint, rfl⟩ := readVarint_varint read
    simp only [read] at ok
    cases isTarget with
    | false =>
      obtain ⟨rfl, rfl⟩ := ok
      exact ⟨value, body, suffix, rfl, varint, by simp, by simp⟩
    | true =>
      cases found with
      | some => simp at ok
      | none =>
        cases typed : canonicalTypedVarint value kind with
        | error => simp [typed] at ok
        | ok =>
          simp only [typed, Option.isSome_none, Bool.false_eq_true, ↓reduceIte,
            Except.ok.injEq, Prod.mk.injEq] at ok
          obtain ⟨rfl, rfl⟩ := ok
          exact ⟨value, body, suffix, rfl, varint, by simp,
            by simp [projected, typed, Except.toOption]⟩

theorem scanFixed_ok (kind : PayloadFieldKind) (value : List UInt8 → WireValue) {accepted : Bool}
    (read : ∀ body : List UInt8, body.length = width → Body true (value body) body)
    (key : ∀ body, accepted = true → projected kind (value body) = some body)
    (ok : scanFixed width accepted payload i isTarget found = .ok (j, found')) :
    ∃ bytes body, ArmRead payload kind i isTarget found j found' (value bytes) body := by
  unfold scanFixed at ok
  by_cases fits : width > payload.length - i
  · simp [fits] at ok
  · obtain ⟨suffix, length⟩ := take_suffix fits
    rw [if_neg fits] at ok
    cases isTarget <;> cases found <;> cases accepted <;> simp at ok
    all_goals
      obtain ⟨rfl, rfl⟩ := ok
      exact ⟨_, _, suffix, by rw [length], read _ length, by simp, by simp [key]⟩

theorem scanDelimited_ok (ok : scanDelimited payload kind i isTarget found = .ok (j, found')) :
    ∃ bytes body, ArmRead payload kind i isTarget found j found' (.len bytes) body := by
  unfold scanDelimited at ok
  cases read : readVarint payload i with
  | error => simp [read] at ok
  | ok pair =>
    obtain ⟨len, m⟩ := pair
    obtain ⟨size, suffix, varint, rfl⟩ := readVarint_varint read
    simp only [read] at ok
    by_cases fits : len > payload.length - (i + size.length)
    · simp [fits] at ok
    · obtain ⟨rest, length⟩ := take_suffix fits
      rw [if_neg fits] at ok
      generalize bytesIs : (payload.drop (i + size.length)).take len = bytes at ok rest length
      have read : Body true (.len bytes) (size ++ bytes) := ⟨size, length.symm ▸ varint, rfl⟩
      have moved : payload.drop i = size ++ bytes ++ payload.drop (i + size.length + len) := by
        rw [suffix, rest, List.append_assoc]
      have position : i + size.length + len = i + (size ++ bytes).length := by
        rw [List.length_append, length, add_assoc]
      cases isTarget with
      | false =>
        obtain ⟨rfl, rfl⟩ := ok
        exact ⟨bytes, size ++ bytes, moved, position, read, by simp, by simp⟩
      | true =>
        cases found with
        | some => simp at ok
        | none =>
          simp only [Option.isSome_none, Bool.false_eq_true, ↓reduceIte] at ok
          by_cases delimited : kind.isDelimited = true
          · by_cases oversized : len > maxConflictKeyBytes
            · simp [delimited, oversized] at ok
            · by_cases invalid : (kind == .string && !validUtf8 bytes) = true
              · simp [delimited, oversized, invalid] at ok
              · rw [if_neg (by simp [delimited]), if_neg oversized, if_neg invalid] at ok
                obtain ⟨rfl, rfl⟩ := ok
                have key : projected kind (.len bytes) = some bytes := by
                  rw [projected, if_pos]
                  exact ⟨delimited, by omega, by simpa using invalid⟩
                exact ⟨bytes, size ++ bytes, moved, position, read, by simp, by simp [key]⟩
          · simp [delimited] at ok

end Arms

structure StepRead (payload : List UInt8) (target : Nat) (kind : PayloadFieldKind) (i : Nat)
    (found : Option (List UInt8)) (j : Nat) (found' : Option (List UInt8)) (record : Record)
    (key body : List UInt8) : Prop where
  suffix : payload.drop i = key ++ payload.drop (i + key.length)
  tag : Tag true key record.number record.value.wireType
  arm : ArmRead payload kind (i + key.length) (record.number == target) found j found' record.value body

section Scan

variable {payload : List UInt8} {target : Nat} {kind : PayloadFieldKind} {i j : Nat}
  {found found' : Option (List UInt8)}
variable {key : List UInt8}

theorem stepRead_of_arm {tag : Nat} {value : WireValue}
    (read : readVarint payload i = .ok (tag, n)) (numbered : ¬(tag >>> 3 = 0 ∨ tag >>> 3 > 0x1fffffff))
    (arm : ArmRead payload kind (i + n) (tag >>> 3 == target) found j found' value body)
    (wire : tag &&& 0x7 = value.wireType) :
    ∃ record key body, StepRead payload target kind i found j found' record key body := by
  obtain ⟨key, suffix, varint, rfl⟩ := readVarint_varint read
  have masked : tag &&& 0x7 = tag % 8 := Nat.and_two_pow_sub_one_eq_mod tag 3
  have whole : tag = 8 * (tag >>> 3) + value.wireType := by omega
  have tagged : Tag true key (tag >>> 3) value.wireType := by
    refine ⟨by omega, by omega, ?_⟩
    rw [← whole]
    exact varint
  exact ⟨⟨tag >>> 3, value⟩, key, body, suffix, tagged, arm⟩

theorem scanStep_ok (ok : scanStep payload target kind i found = .ok (j, found')) :
    ∃ record key body, StepRead payload target kind i found j found' record key body := by
  unfold scanStep at ok
  cases read : readVarint payload i with
  | error => simp [read] at ok
  | ok pair =>
    obtain ⟨tag, n⟩ := pair
    simp only [read] at ok
    by_cases numbered : tag >>> 3 = 0 ∨ tag >>> 3 > 0x1fffffff
    · simp [numbered] at ok
    · rw [if_neg numbered] at ok
      split at ok
      · rename_i wire
        obtain ⟨_, _, arm⟩ := scanVarint_ok ok
        exact stepRead_of_arm read numbered arm wire
      · rename_i wire
        obtain ⟨_, _, arm⟩ := scanFixed_ok kind .i64 (fun _ length => ⟨length, rfl⟩)
          (fun _ accepted => by simp [projected, accepted]) ok
        exact stepRead_of_arm read numbered arm wire
      · rename_i wire
        obtain ⟨_, _, arm⟩ := scanDelimited_ok ok
        exact stepRead_of_arm read numbered arm wire
      · rename_i wire
        obtain ⟨_, _, arm⟩ := scanFixed_ok kind .i32 (fun _ length => ⟨length, rfl⟩)
          (fun _ accepted => by simp [projected, accepted]) ok
        exact stepRead_of_arm read numbered arm wire
      · cases ok

theorem scanStep_advances (ok : scanStep payload target kind i found = .ok (j, found')) : i < j := by
  obtain ⟨record, key, body, step⟩ := scanStep_ok ok
  have := terminated_length_pos step.tag.2.2.1
  have := step.arm.position
  omega

theorem scanStep_exit (key : List UInt8) : scanStep payload target kind i found ≠ .error (.ok (some key)) := by
  have varint (i : Nat) (isTarget : Bool) :
      scanVarint payload kind i isTarget found ≠ .error (.ok (some key)) := by grind [scanVarint]
  have fixed (width : Nat) (accepted : Bool) (i : Nat) (isTarget : Bool) :
      scanFixed width accepted payload i isTarget found ≠ .error (.ok (some key)) := by grind [scanFixed]
  have delimited (i : Nat) (isTarget : Bool) :
      scanDelimited payload kind i isTarget found ≠ .error (.ok (some key)) := by grind [scanDelimited]
  grind [scanStep]

theorem scanLoop_returns {fuel : Nat} (enough : payload.length ≤ i + fuel) :
    (scanLoop payload target kind fuel i found).isSome := by
  -- An iteration that moves on is past at least one byte, so the fuel never runs out first.
  induction fuel generalizing i found with
  | zero =>
    rw [scanLoop, if_neg (by omega)]
    rfl
  | succ fuel ih =>
    rw [scanLoop]
    split
    · cases step : scanStep payload target kind i found with
      | error => rfl
      | ok =>
        have := scanStep_advances step
        exact ih (by omega)
    · rfl

/-- The records read from a position onwards explain the key. -/
def Explains (target : Nat) (kind : PayloadFieldKind) (found : Option (List UInt8)) (key : List UInt8)
    (records : List Record) : Prop :=
  (found = some key ∧ records.filter (fun record => record.number == target) = []) ∨
    (found = none ∧ ∃ record, records.filter (fun record => record.number == target) = [record] ∧
      projected kind record.value = some key)

theorem explains_cons {record : Record} {records : List Record}
    (arm : ArmRead payload kind i (record.number == target) found j found' record.value body)
    (rest : Explains target kind found' key records) : Explains target kind found key (record :: records) := by
  by_cases same : record.number = target
  · obtain ⟨rfl, some, value⟩ := arm.target (by simpa using same)
    rcases rest with ⟨rfl, none⟩ | ⟨rfl, -⟩
    · exact .inr ⟨rfl, record, by simp [same, none], value.symm⟩
    · cases some
  · obtain rfl := arm.other (by simpa using same)
    rcases rest with ⟨before, none⟩ | ⟨before, single, only, value⟩
    · exact .inl ⟨before, by simpa [same] using none⟩
    · exact .inr ⟨before, single, by simpa [same] using only, value⟩

theorem explains_end (outside : ¬i < payload.length)
    (run : (some (.ok found) : Option ScanResult) = some (.ok (some key))) :
    ∃ records, Flat true (payload.drop i) records ∧ Explains target kind found key records := by
  refine ⟨[], ?_, .inl ⟨by simpa using run, rfl⟩⟩
  rw [List.drop_eq_nil_of_le (by omega)]
  exact .nil

theorem scanLoop_found {fuel : Nat} (run : scanLoop payload target kind fuel i found = some (.ok (some key))) :
    ∃ records, Flat true (payload.drop i) records ∧ Explains target kind found key records := by
  -- On the iterations: what is read from here on, with `found` as it is here, explains the key in the end.
  induction fuel generalizing i found with
  | zero =>
    rw [scanLoop] at run
    split at run
    · cases run
    · rename_i outside
      exact explains_end outside run
  | succ fuel ih =>
    rw [scanLoop] at run
    split at run
    · cases action : scanStep payload target kind i found with
      | error =>
        simp only [action, Option.some.injEq] at run
        exact absurd action (run ▸ scanStep_exit key)
      | ok =>
        simp only [action] at run
        obtain ⟨record, key, body, step⟩ := scanStep_ok action
        obtain ⟨records, flat, explained⟩ := ih run
        refine ⟨record :: records, ?_, explains_cons step.arm explained⟩
        rw [step.suffix, step.arm.suffix]
        exact .cons step.tag step.arm.read flat
    · rename_i outside
      exact explains_end outside run

end Scan

section Projection

variable {spec : ConflictKeySpec} {routeKey : String} {domain : Option String} {tag : Nat}
  {kind : PayloadFieldKind} {payload : List UInt8} {key : List UInt8} {records : List Record} {record : Record}

structure Projected (tag : Nat) (kind : PayloadFieldKind) (payload : List UInt8) (key : List UInt8)
    (records : List Record) (record : Record) : Prop where
  flat : Flat true payload records
  single : records.filter (fun record => record.number == tag) = [record]
  key : projected kind record.value = some key

theorem scanTopLevelField_run (payload : List UInt8) (target : Nat) (kind : PayloadFieldKind) :
    scanLoop payload target kind payload.length 0 none = some (scanTopLevelField payload target kind) := by
  have returns := @scanLoop_returns payload target kind 0 none payload.length (Nat.le_add_left _ _)
  obtain ⟨result, run⟩ := Option.isSome_iff_exists.mp returns
  simp [scanTopLevelField, run]

theorem extract_payloadField (declared : spec.rules.lookup routeKey = some ⟨.payloadField tag kind, domain⟩)
    (callerId : Option ActrId) (payload : List UInt8) :
    spec.extract routeKey callerId payload = .serial ∨
      ∃ key records record, spec.extract routeKey callerId payload = .scoped (domain.getD routeKey) key ∧
        Projected tag kind payload key records record := by
  simp only [ConflictKeySpec.extract, declared]
  split
  · rename_i key scanned
    have run := scanTopLevelField_run payload tag kind
    rw [scanned] at run
    obtain ⟨records, flat, explained⟩ := scanLoop_found run
    rcases explained with ⟨before, -⟩ | ⟨-, record, single, value⟩
    · cases before
    · exact .inr ⟨key, records, record, rfl, flat, single, value⟩
  · exact .inl rfl

section

variable (projection : Projected tag kind payload key records record)
include projection

theorem projected_reading {records' : List Record} (formed : WellFormed false payload records') :
    records'.filter (fun record => record.number == tag) = [record] ∧
      fieldValue (scalarOf kind) tag records' = interpret (scalarOf kind) record.value := by
  obtain rfl := flat_unique projection.flat formed
  exact ⟨projection.single, fieldValue_single projection.single (projected_wireType projection.key)⟩

theorem projected_body : ∃ body, Body true record.value body := by
  have member : record ∈ records.filter (fun record => record.number == tag) := by simp [projection.single]
  exact flat_body projection.flat (List.mem_filter.mp member).1

theorem projected_keys {payload' key' : List UInt8} {records' read read' : List Record} {record' : Record}
    (projection' : Projected tag kind payload' key' records' record') (formed : WellFormed false payload read)
    (formed' : WellFormed false payload' read') :
    fieldValue (scalarOf kind) tag read = fieldValue (scalarOf kind) tag read' ↔ key = key' := by
  obtain ⟨body, bodyRead⟩ := projected_body projection
  obtain ⟨body', bodyRead'⟩ := projected_body projection'
  rw [(projected_reading projection formed).2, (projected_reading projection' formed').2]
  exact projected_faithful bodyRead bodyRead' projection.key projection'.key

end

end Projection

section Conservative

variable {spec : ConflictKeySpec} {routeKey : String} {domain : Option String} {tag : Nat}
  {kind : PayloadFieldKind}

theorem extract_conservative (declared : spec.rules.lookup routeKey = some ⟨.payloadField tag kind, domain⟩)
    (callerId callerId' : Option ActrId) (p q : List UInt8) :
    (∀ records records' v, WellFormed false p records → WellFormed false q records' →
      fieldValue (scalarOf kind) tag records = some v → fieldValue (scalarOf kind) tag records' = some v →
      spec.extract routeKey callerId p = spec.extract routeKey callerId' q ∨
        spec.extract routeKey callerId p = .serial ∨ spec.extract routeKey callerId' q = .serial) ∧
    (∀ records records' v w, WellFormed false p records → WellFormed false q records' →
      fieldValue (scalarOf kind) tag records = some v → fieldValue (scalarOf kind) tag records' = some w →
      v ≠ w → spec.extract routeKey callerId p ≠ .serial → spec.extract routeKey callerId' q ≠ .serial →
      spec.extract routeKey callerId p ≠ spec.extract routeKey callerId' q) ∧
    ((¬∃ records, WellFormed true p records) → spec.extract routeKey callerId p = .serial) ∧
    (∀ records, WellFormed false p records →
      2 ≤ records.countP (fun record => record.number == tag) → spec.extract routeKey callerId p = .serial) ∧
    (∀ records, WellFormed false p records → ∀ record ∈ records, record.number = tag →
      record.value.wireType ≠ (scalarOf kind).wireType → spec.extract routeKey callerId p = .serial) ∧
    (∀ records, WellFormed false p records → fieldValue (scalarOf kind) tag records = none →
      spec.extract routeKey callerId p = .serial) := by
  rcases extract_payloadField declared callerId p with
    serial | ⟨key, read, record, scopedP, projection⟩
  · simp [serial]
  refine ⟨?_, ?_, ?_, ?_, ?_, ?_⟩
  · intro records records' v formed formed' value value'
    rcases extract_payloadField declared callerId' q with
      serial | ⟨key', read', record', scopedQ, projection'⟩
    · exact .inr (.inr serial)
    · have equal := (projected_keys projection projection' formed formed').mp (value.trans value'.symm)
      exact .inl (by rw [scopedP, scopedQ, equal])
  · intro records records' v w formed formed' value value' different _ keyedQ same
    rcases extract_payloadField declared callerId' q with
      serial | ⟨key', read', record', scopedQ, projection'⟩
    · exact keyedQ serial
    · rw [scopedP, scopedQ, ConflictKey.scoped.injEq] at same
      have equal := (projected_keys projection projection' formed formed').mpr same.2
      rw [value, value', Option.some.injEq] at equal
      exact different equal
  · intro malformed
    exact absurd ⟨read, flat_wellFormed projection.flat⟩ malformed
  · intro records formed repeated
    have single := (projected_reading projection formed).1
    rw [List.countP_eq_length_filter, single, List.length_singleton] at repeated
    omega
  · intro records formed other member number wire
    have single := (projected_reading projection formed).1
    have listed : other ∈ records.filter (fun record => record.number == tag) := by simp [member, number]
    rw [single, List.mem_singleton] at listed
    rw [listed] at wire
    exact absurd (projected_wireType projection.key) wire
  · intro records formed undecoded
    rw [(projected_reading projection formed).2] at undecoded
    have decoded := projected_interpret projection.key
    rw [undecoded] at decoded
    cases decoded

theorem extract_conservative_overlong :
    let spec : ConflictKeySpec := ⟨[("doc.Docs.Update", ⟨.payloadField 1 .uint64, none⟩)]⟩
    spec.extract "doc.Docs.Update" none [0x08, 0x05] = spec.extract "doc.Docs.Update" none [0x08, 0x85, 0x00] ∧
      spec.extract "doc.Docs.Update" none [0x08, 0x05] ≠ .serial := by
  intro spec
  have minimal : WellFormed false [0x08, 0x05] [⟨1, .varint 5⟩] :=
    @WellFormed.cons false [0x08, 0x05] [] _ _
      (@WellFormedRecord.flat false [0x08] [0x05] 1 (.varint 5) (by decide)
        (by decide : Actr.Library.Protobuf.Varint false [0x05] 5)) .nil
  have overlong : WellFormed false [0x08, 0x85, 0x00] [⟨1, .varint 5⟩] :=
    @WellFormed.cons false [0x08, 0x85, 0x00] [] _ _
      (@WellFormedRecord.flat false [0x08] [0x85, 0x00] 1 (.varint 5) (by decide)
        (by decide : Actr.Library.Protobuf.Varint false [0x85, 0x00] 5)) .nil
  have declared : spec.rules.lookup "doc.Docs.Update" = some ⟨.payloadField 1 .uint64, none⟩ := by decide
  have keyed : spec.extract "doc.Docs.Update" none [0x08, 0x05] ≠ .serial := by decide
  have keyed' : spec.extract "doc.Docs.Update" none [0x08, 0x85, 0x00] ≠ .serial := by decide
  rcases (extract_conservative declared none none [0x08, 0x05] [0x08, 0x85, 0x00]).1 _ _ (.int 5)
    minimal overlong (by decide) (by decide) with same | serial | serial
  · exact ⟨same, keyed⟩
  · exact absurd serial keyed
  · exact absurd serial keyed'

end Conservative

/-- A rule with no domain is declared by `method`, one with a domain by `method_in_domain`. -/
def declareRule (builder : ConflictKeySpecBuilder) : String × KeyRule → ConflictKeySpecBuilder
  | (routeKey, ⟨source, none⟩) => builder.method routeKey source
  | (routeKey, ⟨source, some domain⟩) => builder.methodInDomain routeKey domain source

theorem declareRule_eq_insert (builder : ConflictKeySpecBuilder) (routeKey : String) (rule : KeyRule) :
    declareRule builder (routeKey, rule) = builder.insert routeKey rule.source rule.domain := by
  obtain ⟨source, _ | domain⟩ := rule <;> rfl

theorem build_accepts_distinct_routes (registrations : List (String × KeyRule)) :
    match (registrations.foldl declareRule {}).build with
    | .ok spec => (registrations.map Prod.fst).Nodup ∧
        ∀ routeKey, spec.rules.lookup routeKey = registrations.lookup routeKey
    | .error (.duplicateRoute routeKey) => ∃ before rule after, registrations = before ++ (routeKey, rule) :: after ∧
        (before.map Prod.fst).Nodup ∧ routeKey ∈ before.map Prod.fst := by
  induction registrations using List.reverseRecOn with
  | nil => exact ⟨.nil, fun _ => rfl⟩
  | append_singleton past entry ih =>
    obtain ⟨key, rule⟩ := entry
    rw [List.foldl_append]
    generalize past.foldl _ _ = builder at ih ⊢
    obtain ⟨rules, _ | first⟩ := builder
    all_goals
      simp only [List.foldl, declareRule_eq_insert, ConflictKeySpecBuilder.insert, ConflictKeySpecBuilder.build] at ih ⊢
    · obtain ⟨distinct, same⟩ := ih
      have known : (rules.lookup key).isSome ↔ key ∈ past.map Prod.fst := by
        simp [same, List.lookup_isSome_iff]
      cases found : rules.lookup key with
      | none =>
        rw [found] at known
        refine ⟨?_, fun routeKey => ?_⟩
        · rw [List.map_append, List.nodup_append_comm]
          exact .cons (by simpa using known) distinct
        · rw [List.lookup_append, ← same]
          by_cases own : routeKey = key
          · simp [own, found]
          · simp [List.lookup_cons, beq_false_of_ne own]
      | some => exact ⟨past, rule, [], rfl, distinct, known.mp (by rw [found]; rfl)⟩
    · obtain ⟨before, old, after, all, repeated⟩ := ih
      cases rules.lookup key
      all_goals exact ⟨before, old, after ++ [(key, rule)], by simp [all], repeated⟩

end Actr.Proof.Dispatch
