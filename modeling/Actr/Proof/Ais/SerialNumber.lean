import Actr.Actrix.Ais.SerialNumber
import Actr.Library.Slots
import Actr.Library.Words
import Mathlib.Data.List.Pairwise
import Mathlib.Data.UInt

/-! # Serial numbers are unique and increasing -/

namespace Actr.Proof.Ais
open Actrix.Ais Generator Library Machine

variable {serial : SerialNumber} {currentMillis : UInt64}

section Fields

variable {timestamp sequence workerId state : UInt64}

theorem toNat_decodeState_fst : (decodeState state).1.toNat = state.toNat / 256 :=
  Words.toNat_field (by decide)

theorem toNat_decodeState_snd : (decodeState state).2.toNat = state.toNat % 256 := by
  have ones : (0xFF : UInt64).toNat = 2 ^ 8 - 1 := rfl
  exact Words.toNat_mask ones

theorem toNat_encodeState (small : timestamp.toNat < 2 ^ 41) (byte : sequence.toNat < 256) :
    (encodeState timestamp sequence).toNat = timestamp.toNat * 256 + sequence.toNat := by
  have ones : (0xFF : UInt64).toNat = 2 ^ 8 - 1 := rfl
  have kept : (sequence &&& 0xFF).toNat = sequence.toNat := by
    rw [Words.toNat_mask ones]
    exact Nat.mod_eq_of_lt byte
  have packed : (encodeState timestamp sequence).toNat = timestamp.toNat * 256 + (sequence &&& 0xFF).toNat := by
    apply Words.toNat_pack (by decide)
    · change timestamp.toNat * 2 ^ 8 < 2 ^ 64
      omega
    · rw [kept]
      exact byte
  rw [packed, kept]

theorem decodeState_encodeState (small : timestamp.toNat < 2 ^ 41) (byte : sequence.toNat < 256) :
    decodeState (encodeState timestamp sequence) = (timestamp, sequence) := by
  have encoded := toNat_encodeState small byte
  apply Prod.ext
  · apply UInt64.toNat_inj.mp
    change _ = timestamp.toNat
    rw [toNat_decodeState_fst]
    omega
  · apply UInt64.toNat_inj.mp
    change _ = sequence.toNat
    rw [toNat_decodeState_snd]
    omega

def After (state timestamp sequence : UInt64) : Prop :=
  sequence.toNat < 256 ∧ state.toNat < timestamp.toNat * 256 + sequence.toNat

theorem toNat_succ {number : UInt64} (small : number.toNat < 2 ^ 56) : (number + 1).toNat = number.toNat + 1 := by
  have fits : number.toNat + 1 < 2 ^ 64 := by omega
  exact Nat.mod_eq_of_lt fits

theorem after_sequence (room : (decodeState state).2 < maxSequence) :
    After state (decodeState state).1 ((decodeState state).2 + 1) := by
  have low : (decodeState state).2.toNat < 255 := UInt64.lt_iff_toNat_lt.mp room
  have next : ((decodeState state).2 + 1).toNat = (decodeState state).2.toNat + 1 := toNat_succ (by omega)
  rw [toNat_decodeState_snd] at low next
  unfold After
  rw [next, toNat_decodeState_fst]
  omega

theorem after_timestamp : After state ((decodeState state).1 + 1) 0 := by
  have word := UInt64.toNat_lt state
  have high : (decodeState state).1.toNat = state.toNat / 256 := toNat_decodeState_fst
  have next : ((decodeState state).1 + 1).toNat = (decodeState state).1.toNat + 1 := toNat_succ (by omega)
  have zero : (0 : UInt64).toNat = 0 := rfl
  unfold After
  omega

theorem after_later (later : (decodeState state).1 < timestamp) : After state timestamp 0 := by
  have above := UInt64.lt_iff_toNat_lt.mp later
  have zero : (0 : UInt64).toNat = 0 := rfl
  rw [toNat_decodeState_fst] at above
  unfold After
  omega

theorem after_nextState : After state (nextState timestamp state).1 (nextState timestamp state).2 := by
  simp only [nextState]
  split_ifs with back room same room
  · exact after_sequence room
  · exact after_timestamp
  · rw [same]
    exact after_sequence room
  · rw [same]
    exact after_timestamp
  · exact after_later (UInt64.lt_of_le_of_ne (UInt64.not_lt.mp back) (Ne.symm same))

section

variable (small : timestamp.toNat < 2 ^ 41) (worker : workerId.toNat < 32) (byte : sequence.toNat < 256)
include small worker byte

theorem toNat_packSerial :
    ((timestamp <<< timestampShift) ||| (workerId <<< workerIdShift) ||| sequence).toNat =
      timestamp.toNat * 2 ^ 13 + (workerId.toNat * 2 ^ 8 + sequence.toNat) := by
  have low : ((workerId <<< workerIdShift) ||| sequence).toNat = workerId.toNat * 2 ^ 8 + sequence.toNat := by
    apply Words.toNat_pack (by decide)
    · change workerId.toNat * 2 ^ 8 < 2 ^ 64
      omega
    · exact byte
  rw [UInt64.or_assoc, ← low]
  apply Words.toNat_pack (by decide)
  · change timestamp.toNat * 2 ^ 13 < 2 ^ 64
    omega
  · change _ < 2 ^ 13
    omega

theorem toNat_buildSerial (built : buildSerial timestamp workerId sequence = .ok serial) :
    serial.value.toNat = timestamp.toNat * 2 ^ 13 + (workerId.toNat * 2 ^ 8 + sequence.toNat) := by
  have ones : SerialNumber.maxValue.toNat = 2 ^ 54 - 1 := rfl
  simp only [buildSerial, SerialNumber.new] at built
  split at built
  · cases built
    rw [Words.toNat_mask ones, toNat_packSerial small worker byte]
    exact Nat.mod_eq_of_lt (by omega)
  · cases built

end

theorem buildSerial_ok (timestamp workerId sequence : UInt64) :
    ∃ serial, buildSerial timestamp workerId sequence = .ok serial := by
  unfold buildSerial SerialNumber.new
  rw [dif_pos UInt64.and_le_right]
  exact ⟨_, rfl⟩

theorem initWorkerId_lt (environment : Environment) : (initWorkerId environment).toNat < 32 := by
  have ones : maxWorkerId.toNat = 2 ^ 5 - 1 := rfl
  unfold initWorkerId
  rw [Words.toNat_mask ones]
  exact Nat.mod_lt _ (by decide)

end Fields

def working : SnPhase → Bool
  | .loading _ | .swapping _ _ => true
  | .returned _ | .panicked => false

def swapped (s : Generator) (call : Nat) (timestamp sequence : UInt64) (serial : SerialNumber) : Generator :=
  { s.setPhase call (.returned serial) with
    snowflakeState := encodeState timestamp sequence
    held := s.held ++ [encodeState timestamp sequence]
    issued := s.issued ++ [⟨call, timestamp, sequence, serial⟩] }

inductive Effect (s : Generator) : Action → Generator → Prop
  | start {environment : Environment} {currentMillis : UInt64} :
      Effect s (.sn environment currentMillis) (s.start environment currentMillis)
  | work {action : Action} {call : Nat} {sn : SnCall} {phase : SnPhase} (listed : s.calls[call]? = some sn)
      (before : working sn.phase = true) (after : working phase = true) : Effect s action (s.setPhase call phase)
  | swap {call : Nat} {currentMillis timestamp sequence oldTimestamp : UInt64} {sn : SnCall} {serial : SerialNumber}
      (listed : s.calls[call]? = some sn) (phase : sn.phase = .swapping oldTimestamp s.snowflakeState)
      (after : After s.snowflakeState timestamp sequence)
      (built : buildSerial timestamp sn.workerId sequence = .ok serial) :
      Effect s (.compareExchange call false currentMillis) (swapped s call timestamp sequence serial)

section Steps

variable {s t : Generator} {action : Action}

theorem effect_step (taken : step s action = some t) : Effect s action t := by
  cases action with
  | sn =>
    cases taken
    exact .start
  | load =>
    simp only [step] at taken
    split at taken
    · next listed =>
      obtain ⟨-, rfl⟩ := of_guard taken
      exact .work listed rfl rfl
    · cases taken
  | compareExchange =>
    simp only [step] at taken
    split at taken
    · next workerId timestamp oldState listed =>
      split at taken
      · next current =>
        obtain ⟨rfl, rfl⟩ := current
        cases taken
        obtain ⟨serial, built⟩ := buildSerial_ok (nextState timestamp s.snowflakeState).1 workerId
          (nextState timestamp s.snowflakeState).2
        simp only [swap, built]
        exact .swap listed rfl after_nextState built
      · cases taken
        exact .work listed rfl rfl
    · cases taken

end Steps

def Bounded (s : Generator) : Prop := ∀ issue ∈ s.issued, issue.timestamp.toNat < 2 ^ 41

def Rising (s : Generator) : Prop :=
  s.held.Pairwise (fun first second => first.toNat < second.toNat) ∧
    ∀ value ∈ s.held, value.toNat ≤ s.snowflakeState.toNat

structure Sound (s : Generator) : Prop where
  worker : ∀ (call : Nat) (sn : SnCall), s.calls[call]? = some sn → s.workerId = some sn.workerId
  small : ∀ workerId, s.workerId = some workerId → workerId.toNat < 32
  held : s.held = 0 :: s.issued.map fun issue => encodeState issue.timestamp issue.sequence
  ends : ∀ (call : Nat) (sn : SnCall), s.calls[call]? = some sn → working sn.phase = false →
    ∃ issue ∈ s.issued, issue.call = call ∧ sn.phase = .returned issue.serial
  built : ∀ issue ∈ s.issued, issue.sequence.toNat < 256 ∧
    ∃ workerId, s.workerId = some workerId ∧ buildSerial issue.timestamp workerId issue.sequence = .ok issue.serial
  rising : Bounded s → Rising s

section Invariant

variable {s t : Generator} {action : Action} {call : Nat} {sn : SnCall} {phase : SnPhase}

theorem sound_initial : Sound initial where
  worker call sn listed := by cases listed
  small workerId known := by cases known
  held := rfl
  ends call sn listed := by cases listed
  built issue issued := by cases issued
  rising bounded := ⟨List.pairwise_singleton _ _, by simp [initial]⟩

theorem Sound.start (sound : Sound s) {environment : Environment} : Sound (s.start environment currentMillis) := by
  have kept : ∀ workerId, s.workerId = some workerId →
      s.workerId.getD (initWorkerId environment) = workerId := by
    intro workerId known
    rw [known]
    rfl
  constructor
  case worker =>
    intro call sn listed
    rcases Slots.of_snoc listed with listed | ⟨-, rfl⟩
    · exact congrArg some (kept sn.workerId (sound.worker call sn listed))
    · rfl
  case small =>
    intro workerId known
    cases known
    cases unset : s.workerId with
    | none => exact initWorkerId_lt environment
    | some workerId => exact sound.small workerId unset
  case held => exact sound.held
  case ends =>
    intro call sn listed ended
    rcases Slots.of_snoc listed with listed | ⟨-, rfl⟩
    · exact sound.ends call sn listed ended
    · cases ended
  case built =>
    intro issue issued
    obtain ⟨byte, workerId, known, built⟩ := sound.built issue issued
    exact ⟨byte, workerId, congrArg some (kept workerId known), built⟩
  case rising => exact sound.rising

theorem Sound.work (sound : Sound s) (after : working phase = true) : Sound (s.setPhase call phase) := by
  refine { sound with worker := ?_, ends := ?_ }
  · intro other sn listed
    obtain ⟨before, found, ⟨-, rfl⟩ | ⟨-, rfl⟩⟩ := Slots.of_modify listed
    · exact sound.worker other before found
    · exact sound.worker other sn found
  · intro other sn listed ended
    obtain ⟨before, found, ⟨-, rfl⟩ | ⟨-, rfl⟩⟩ := Slots.of_modify listed
    · rw [after] at ended
      cases ended
    · exact sound.ends other sn found ended

theorem rising_swapped {timestamp sequence : UInt64} (sound : Sound s)
    (after : After s.snowflakeState timestamp sequence)
    (bounded : Bounded (swapped s call timestamp sequence serial)) :
    Rising (swapped s call timestamp sequence serial) := by
  have earlier : Bounded s := fun issue issued => bounded issue (List.mem_append_left _ issued)
  have fits : timestamp.toNat < 2 ^ 41 := bounded _ (List.mem_append_right _ List.mem_cons_self)
  obtain ⟨increasing, below⟩ := sound.rising earlier
  obtain ⟨byte, above⟩ := after
  rw [← toNat_encodeState fits byte] at above
  constructor
  · apply List.pairwise_append.mpr
    refine ⟨increasing, List.pairwise_singleton _ _, ?_⟩
    intro value member new same
    cases List.mem_singleton.mp same
    exact lt_of_le_of_lt (below value member) above
  · intro value member
    rcases Slots.mem_snoc member with old | rfl
    · exact le_of_lt (lt_of_le_of_lt (below value old) above)
    · exact le_rfl

theorem Sound.swap {timestamp sequence : UInt64} (sound : Sound s)
    (listed : s.calls[call]? = some sn) (after : After s.snowflakeState timestamp sequence)
    (built : buildSerial timestamp sn.workerId sequence = .ok serial) :
    Sound (swapped s call timestamp sequence serial) := by
  constructor
  case worker =>
    intro other changed listed
    obtain ⟨before, found, ⟨-, rfl⟩ | ⟨-, rfl⟩⟩ := Slots.of_modify listed
    · exact sound.worker other before found
    · exact sound.worker other changed found
  case small => exact sound.small
  case held => simp only [swapped, sound.held, List.map_append, List.map_cons, List.map_nil, List.cons_append]
  case ends =>
    intro other changed listed ended
    obtain ⟨before, found, ⟨rfl, rfl⟩ | ⟨-, rfl⟩⟩ := Slots.of_modify listed
    · exact ⟨_, List.mem_append_right _ List.mem_cons_self, rfl, rfl⟩
    · obtain ⟨issue, issued, facts⟩ := sound.ends other changed found ended
      exact ⟨issue, List.mem_append_left _ issued, facts⟩
  case built =>
    intro issue issued
    rcases Slots.mem_snoc issued with old | rfl
    · exact sound.built issue old
    · exact ⟨after.1, sn.workerId, sound.worker call sn listed, built⟩
  case rising => exact rising_swapped sound after

theorem sound_step (sound : Sound s) (taken : step s action = some t) : Sound t := by
  cases effect_step taken with
  | start => exact sound.start
  | work listed before after => exact sound.work after
  | swap listed phase after built => exact sound.swap listed after built

end Invariant

def Packs (workerId : UInt64) (issue : Issue) : Prop :=
  decodeState (encodeState issue.timestamp issue.sequence) = (issue.timestamp, issue.sequence) ∧
  issue.serial.value >>> timestampShift = issue.timestamp ∧
  (issue.serial.value >>> workerIdShift) &&& maxWorkerId = workerId ∧
  issue.serial.value &&& maxSequence = issue.sequence

def Returned (s : Generator) (call : Nat) (serial : SerialNumber) : Prop :=
  ∃ sn, s.calls[call]? = some sn ∧ sn.phase = .returned serial

section Results

variable {s t : Generator} {call : Nat}

section

variable (sound : Sound s)
include sound

theorem toNat_serial (bounded : Bounded s) {issue : Issue} (issued : issue ∈ s.issued) {workerId : UInt64}
    (known : s.workerId = some workerId) :
    issue.serial.value.toNat = issue.timestamp.toNat * 2 ^ 13 + (workerId.toNat * 2 ^ 8 + issue.sequence.toNat) := by
  obtain ⟨byte, worker, same, built⟩ := sound.built issue issued
  rw [known] at same
  cases same
  exact toNat_buildSerial (bounded issue issued) (sound.small workerId known) byte built

theorem packs_of_issued (bounded : Bounded s) {issue : Issue} (issued : issue ∈ s.issued) :
    ∃ workerId, s.workerId = some workerId ∧ Packs workerId issue := by
  obtain ⟨byte, workerId, known, -⟩ := sound.built issue issued
  have value := toNat_serial sound bounded issued known
  have worker := sound.small workerId known
  have fits := bounded issue issued
  have workerOnes : maxWorkerId.toNat = 2 ^ 5 - 1 := rfl
  have sequenceOnes : maxSequence.toNat = 2 ^ 8 - 1 := rfl
  refine ⟨workerId, known, decodeState_encodeState fits byte, ?_, ?_, ?_⟩
  · apply UInt64.toNat_inj.mp
    rw [Words.toNat_field (by decide), value]
    change _ / 2 ^ 13 = _
    omega
  · apply UInt64.toNat_inj.mp
    rw [Words.toNat_mask workerOnes, Words.toNat_field (by decide), value]
    change _ / 2 ^ 8 % 2 ^ 5 = _
    omega
  · apply UInt64.toNat_inj.mp
    rw [Words.toNat_mask sequenceOnes, value]
    omega

theorem serials_increase (bounded : Bounded s) :
    s.issued.Pairwise fun first second => first.serial.value < second.serial.value := by
  have stored := (sound.rising bounded).1
  rw [sound.held] at stored
  have states := List.pairwise_map.mp (List.pairwise_cons.mp stored).2
  apply states.imp_of_mem
  intro first second old new increases
  obtain ⟨byte, workerId, known, -⟩ := sound.built first old
  obtain ⟨byte', -⟩ := sound.built second new
  have value := toNat_serial sound bounded old known
  have value' := toNat_serial sound bounded new known
  rw [toNat_encodeState (bounded first old) byte, toNat_encodeState (bounded second new) byte'] at increases
  apply UInt64.lt_iff_toNat_lt.mpr
  omega

theorem issued_of_returned (returned : Returned s call serial) :
    ∃ issue ∈ s.issued, issue.call = call ∧ issue.serial = serial := by
  obtain ⟨sn, listed, phase⟩ := returned
  have ended : working sn.phase = false := by
    rw [phase]
    rfl
  obtain ⟨issue, issued, same, result⟩ := sound.ends call sn listed ended
  rw [phase] at result
  cases result
  exact ⟨issue, issued, same, rfl⟩

theorem returned_distinct (bounded : Bounded s) {first second : Nat} {a b : SerialNumber}
    (returned : Returned s first a) (also : Returned s second b) (different : first ≠ second) :
    a.value ≠ b.value := by
  have apart : s.issued.Pairwise fun first second => first.serial.value ≠ second.serial.value :=
    (serials_increase sound bounded).imp UInt64.ne_of_lt
  obtain ⟨issue, issued, rfl, rfl⟩ := issued_of_returned sound returned
  obtain ⟨later, issued', rfl, rfl⟩ := issued_of_returned sound also
  have symmetric : Std.Symm fun first second : Issue => first.serial.value ≠ second.serial.value :=
    ⟨fun _ _ unequal => unequal.symm⟩
  apply apart.forall issued issued'
  rintro rfl
  exact different rfl

theorem not_panicked {sn : SnCall} (listed : s.calls[call]? = some sn) : sn.phase ≠ .panicked := by
  intro panicked
  have ended : working sn.phase = false := by
    rw [panicked]
    rfl
  obtain ⟨issue, -, -, result⟩ := sound.ends call sn listed ended
  rw [panicked] at result
  cases result

end

theorem spurious_failure_keeps (taken : step s (.compareExchange call true currentMillis) = some t) :
    t.snowflakeState = s.snowflakeState ∧ t.held = s.held ∧ t.issued = s.issued := by
  cases effect_step taken with
  | work => exact ⟨rfl, rfl, rfl⟩

theorem serial_numbers_unique_and_increasing (actions : List Action) (s : Generator)
    (run : exec step initial actions = some s) (bounded : ∀ issue ∈ s.issued, issue.timestamp.toNat < 2 ^ 41) :
    (s.issued.Pairwise fun first second => first.serial.value < second.serial.value) ∧
    s.held = 0 :: s.issued.map (fun issue => encodeState issue.timestamp issue.sequence) ∧
    (∀ issue ∈ s.issued, issue.serial.value ≤ 2 ^ 54 - 1 ∧
      ∃ workerId, s.workerId = some workerId ∧ Packs workerId issue) ∧
    (∀ call serial, Returned s call serial → ∃ issue ∈ s.issued, issue.call = call ∧ issue.serial = serial) ∧
    (∀ first second a b, Returned s first a → Returned s second b → first ≠ second → a.value ≠ b.value) ∧
    (∀ (call : Nat) (sn : SnCall), s.calls[call]? = some sn → sn.phase ≠ .panicked) ∧
    (∀ call currentMillis t, step s (.compareExchange call true currentMillis) = some t →
      t.snowflakeState = s.snowflakeState ∧ t.held = s.held ∧ t.issued = s.issued) := by
  have sound : Sound s := by
    apply exec_invariant ?_ sound_initial run
    intro s action t sound taken
    exact sound_step sound taken
  refine ⟨serials_increase sound bounded, sound.held, ?_, ?_, ?_, ?_, ?_⟩
  · intro issue issued
    exact ⟨issue.serial.bounded, packs_of_issued sound bounded issued⟩
  · intro call serial returned
    exact issued_of_returned sound returned
  · intro first second a b returned also different
    exact returned_distinct sound bounded returned also different
  · intro call sn listed
    exact not_panicked sound listed
  · intro call currentMillis t taken
    exact spurious_failure_keeps taken

def contended : List Action :=
  let environment : Environment := ⟨none, none, 1⟩
  [.sn environment 1672531200000, .sn environment 1672531200005, .load 0 0, .load 1 0,
    .compareExchange 1 false 1672531200006, .compareExchange 0 false 1672531200003, .load 0 1280,
    .compareExchange 0 true 1672531200004, .load 0 1280, .compareExchange 0 false 1672531200004]

theorem contended_serials_increase : ∃ s, exec step initial contended = some s ∧ Bounded s ∧
      s.issued.map (fun issue => (issue.call, issue.serial.value)) = [(1, 42752), (0, 42753)] ∧
      s.issued.Pairwise fun first second => first.serial.value < second.serial.value := by
  have bounded : ∀ s, exec step initial contended = some s → Bounded s := by
    intro s run
    cases run
    unfold Bounded
    decide
  refine ⟨_, rfl, bounded _ rfl, rfl, ?_⟩
  exact (serial_numbers_unique_and_increasing contended _ rfl (bounded _ rfl)).1

end Results

end Actr.Proof.Ais
