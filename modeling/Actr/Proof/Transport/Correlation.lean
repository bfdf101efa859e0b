import Actr.Hyper.Transport.Correlation
import Actr.Library.Machine
import Actr.Library.Slots

/-! # Requests and the guards that wait for them -/

namespace Actr.Proof.Transport
open Actr.Protocol Hyper.Transport RpcCorrelation Library Machine

variable {M : Type} {s t : RpcCorrelation M} {action : RpcCorrelation.Action M} {id requestId : String} {metadata : M}
  {entry : Entry M} {guard : PendingRpc M} {number : Nat} {outcome : String → M → Option (ActorResult Bytes)}

/-- The entry is the one of the last registration of the id. -/
def Newest (s : RpcCorrelation M) (id : String) (entry : Entry M) : Prop :=
  s.guards[entry.tx]? = some ⟨id, entry.metadata⟩ ∧
    ∀ (other : Nat) guard, s.guards[other]? = some guard → guard.requestId = id → other ≤ entry.tx

def Pending (s : RpcCorrelation M) (number : Nat) : Prop := s.dropped number = false ∧ s.sent number = []

structure Tabled (s : RpcCorrelation M) : Prop where
  once : ∀ number, (s.sent number).length ≤ 1
  fresh : ∀ number, s.guards.length ≤ number → Pending s number
  table : ∀ id entry, s.inner id = some entry ↔ Newest s id entry ∧ Pending s entry.tx

def outcomeOf : RpcCorrelation.Action M → String → M → Option (ActorResult Bytes)
  | .complete requestId result, id, _ => if id = requestId then some result else none
  | .failWhere pred error, _, metadata => if pred metadata then some (.error error) else none
  | _, _, _ => none

/-- The `wait` of a guard returns what was sent to it, and nothing while its entry is pending. -/
structure Receives (s : RpcCorrelation M) : Prop where
  sent : ∀ number result, number < s.guards.length → s.dropped number = false → s.result number = none →
    s.sent number = [result] →
      (∃ t, s.step (.wait number) = some t ∧ t.result number = some result) ∧ s.step (.timeout number) = none
  pending : ∀ id entry, Newest s id entry → Pending s entry.tx → s.step (.wait entry.tx) = none

structure Correlates (s : RpcCorrelation M) (action : RpcCorrelation.Action M) (t : RpcCorrelation M) : Prop where
  tabled : Tabled t
  settled : ∀ id entry, Newest s id entry → Pending s entry.tx →
    ∀ result, outcomeOf action id entry.metadata = some result → t.sent entry.tx = [result]
  kept : ∀ number, action = .drop number → ∀ id entry, entry.tx ≠ number → s.inner id = some entry →
    t.inner id = some entry
  receives : Receives t
  received : ∀ number result, t.result number = some result → s.result number = some result ∨
    s.result number = none ∧ (s.sent number = [result] ∨ s.sent number = [] ∧ result.isOk = false)

/-- No guard is dropped while the table holds the entry of another guard under its id. -/
def DropsOwn (s : RpcCorrelation M) (action : RpcCorrelation.Action M) (_ : RpcCorrelation M) : Prop :=
  ∀ number, action = .drop number → ∀ guard entry, s.guards[number]? = some guard →
    s.inner guard.requestId = some entry → entry.tx = number

theorem sender_eq (tabled : Tabled s) (found : s.inner id = some entry) : s.sender entry.tx = some (id, entry) := by
  obtain ⟨⟨listed, -⟩, -⟩ := (tabled.table id entry).mp found
  simp [sender, listed, found]

theorem inner_of_sender (sent : s.sender number = some (id, entry)) : s.inner id = some entry ∧ entry.tx = number := by
  obtain ⟨guard, -, sent⟩ := Option.bind_eq_some_iff.mp sent
  obtain ⟨entry, found, sent⟩ := Option.bind_eq_some_iff.mp sent
  obtain ⟨own, same⟩ := of_guard sent
  cases same
  exact ⟨found, own⟩

theorem sent_settle (tabled : Tabled s) (found : s.inner id = some entry) :
    (s.settle outcome).sent entry.tx = (outcome id entry.metadata).toList := by
  obtain ⟨-, -, unsent⟩ := (tabled.table id entry).mp found
  simp [settle, sender_eq tabled found, unsent]

theorem sent_settle_other (absent : s.sender number = none) : (s.settle outcome).sent number = s.sent number := by
  simp [settle, absent]

theorem tabled_settle (tabled : Tabled s) : Tabled (s.settle outcome) := by
  constructor
  case once =>
    intro number
    cases sender : s.sender number with
    | none =>
      rw [sent_settle_other sender]
      exact tabled.once number
    | some =>
      obtain ⟨found, rfl⟩ := inner_of_sender sender
      rw [sent_settle tabled found]
      exact Option.length_toList_le
  case fresh =>
    intro number late
    have unlisted : s.guards[number]? = none := List.getElem?_eq_none late
    have absent : s.sender number = none := by simp [sender, unlisted]
    exact ⟨(tabled.fresh number late).1, (sent_settle_other absent).trans (tabled.fresh number late).2⟩
  case table =>
    intro id entry
    have filtered : (s.settle outcome).inner id = some entry ↔ s.inner id = some entry ∧ outcome id entry.metadata = none := by
      simp [settle, Option.filter_eq_some_iff]
    rw [filtered]
    constructor
    · rintro ⟨found, none⟩
      obtain ⟨newest, alive, -⟩ := (tabled.table id entry).mp found
      exact ⟨newest, alive, by rw [sent_settle tabled found, none]; rfl⟩
    · rintro ⟨newest, alive, unsent⟩
      have found := (tabled.table id entry).mpr ⟨newest, alive, (List.append_eq_nil_iff.mp unsent).1⟩
      rw [sent_settle tabled found] at unsent
      exact ⟨found, Option.toList_eq_nil_iff.mp unsent⟩

theorem tabled_register (tabled : Tabled s) : Tabled (s.register requestId metadata) := by
  constructor
  case once => exact tabled.once
  case fresh =>
    intro number late
    rw [register, List.length_append] at late
    exact tabled.fresh number (Nat.le_of_add_right_le late)
  case table =>
    intro id entry
    have inner : (s.register requestId metadata).inner =
        Function.update s.inner requestId (some ⟨metadata, s.guards.length⟩) := rfl
    rw [inner]
    by_cases same : id = requestId
    · subst same
      rw [Function.update_self]
      constructor
      · rintro ⟨⟩
        refine ⟨⟨List.getElem?_concat_length, ?_⟩, tabled.fresh _ (Nat.le_refl _)⟩
        intro other guard listed _
        rcases Slots.of_snoc listed with old | ⟨rfl, -⟩
        · exact Nat.le_of_lt (List.getElem?_eq_some_iff.mp old).1
        · exact Nat.le_refl _
      · rintro ⟨⟨listed, last⟩, -⟩
        have late := last s.guards.length _ List.getElem?_concat_length rfl
        rcases Slots.of_snoc listed with old | ⟨tx, same⟩
        · exact absurd (List.getElem?_eq_some_iff.mp old).1 (Nat.not_lt.mpr late)
        · cases same
          rw [← tx]
    · rw [Function.update_of_ne same, tabled.table]
      refine and_congr_left fun _ => ?_
      constructor
      · rintro ⟨listed, last⟩
        refine ⟨Slots.snoc listed, ?_⟩
        intro other guard found own
        rcases Slots.of_snoc found with old | ⟨-, rfl⟩
        · exact last other guard old own
        · exact absurd own.symm same
      · rintro ⟨listed, last⟩
        refine ⟨(Slots.of_snoc listed).resolve_right fun new => same (congrArg PendingRpc.requestId new.2), ?_⟩
        intro other guard found own
        exact last other guard (Slots.snoc found) own

theorem inner_drop : (s.drop number guard).inner guard.requestId = none := Function.update_self _ _ _

theorem dropped_drop : (s.drop number guard).dropped number = true := Function.update_self _ _ _

theorem tabled_drop (tabled : Tabled s) (listed : s.guards[number]? = some guard)
    (own : ∀ entry, s.inner guard.requestId = some entry → entry.tx = number) : Tabled (s.drop number guard) := by
  have alive : ∀ other, other ≠ number → (s.drop number guard).dropped other = s.dropped other :=
    fun other different => Function.update_of_ne different _ _
  constructor
  case once => exact tabled.once
  case fresh =>
    intro other late
    have different : other ≠ number := by
      rintro rfl
      exact absurd (List.getElem?_eq_some_iff.mp listed).1 (Nat.not_lt.mpr late)
    exact ⟨(alive other different).trans (tabled.fresh other late).1, (tabled.fresh other late).2⟩
  case table =>
    intro id entry
    by_cases same : id = guard.requestId
    · subst same
      rw [inner_drop]
      refine iff_of_false nofun ?_
      rintro ⟨newest, live, unsent⟩
      have different : entry.tx ≠ number := by
        intro mine
        rw [mine] at live
        cases dropped_drop.symm.trans live
      exact different (own entry ((tabled.table _ entry).mpr ⟨newest, (alive _ different).symm.trans live, unsent⟩))
    · have inner : (s.drop number guard).inner id = s.inner id := Function.update_of_ne same _ _
      rw [inner, tabled.table]
      refine and_congr_right fun newest => ?_
      have different : entry.tx ≠ number := by
        rintro rfl
        exact same (congrArg PendingRpc.requestId (Option.some.inj (newest.1.symm.trans listed)))
      rw [Pending, Pending, alive _ different]
      rfl

theorem receives_of_tabled (tabled : Tabled s) : Receives s where
  sent := by
    intro number result registered alive unfinished sent
    have polled : s.poll number = some result := by simp [poll, sent]
    constructor
    · refine ⟨{ s with result := Function.update s.result number (some result) }, ?_, Function.update_self ..⟩
      simp [step, polled, finish, registered, alive, unfinished]
    · simp [step, polled]
  pending := by
    intro id entry newest pending
    have sender := sender_eq tabled ((tabled.table id entry).mpr ⟨newest, pending⟩)
    simp [step, poll, pending.2, sender]

theorem of_poll {result : ActorResult Bytes} (tabled : Tabled s) (polled : s.poll number = some result) :
    s.sent number = [result] ∨ s.sent number = [] ∧ result.isOk = false := by
  unfold poll at polled
  split at polled
  · next first rest sent =>
    cases polled
    have once := tabled.once number
    rw [sent] at once
    exact .inl (by rw [sent, List.eq_nil_of_length_eq_zero (Nat.le_zero.mp (Nat.le_of_succ_le_succ once))])
  · next sent =>
    cases (Option.ite_none_left_eq_some.mp polled).2
    exact .inr ⟨sent, rfl⟩

theorem received_finish {result : ActorResult Bytes} (taken : s.finish number result = some t) (other : Nat)
    (got : ActorResult Bytes) (new : t.result other = some got) :
    s.result other = some got ∨ s.result other = none ∧ other = number ∧ got = result := by
  obtain ⟨⟨-, -, unfinished⟩, rfl⟩ := of_guard taken
  by_cases same : other = number
  · subst same
    cases (Function.update_self other (some result) s.result).symm.trans new
    exact .inr ⟨unfinished, rfl, rfl⟩
  · exact .inl ((Function.update_of_ne same (some result) s.result).symm.trans new)

theorem received_step (tabled : Tabled s) (taken : s.step action = some t) (other : Nat) (got : ActorResult Bytes)
    (new : t.result other = some got) : s.result other = some got ∨
      s.result other = none ∧ (s.sent other = [got] ∨ s.sent other = [] ∧ got.isOk = false) := by
  cases action with
  | register | complete | failWhere =>
    cases taken
    exact .inl new
  | wait =>
    obtain ⟨result, polled, taken⟩ := Option.bind_eq_some_iff.mp taken
    rcases received_finish taken other got new with old | ⟨unfinished, rfl, rfl⟩
    · exact .inl old
    · exact .inr ⟨unfinished, of_poll tabled polled⟩
  | timeout number =>
    obtain ⟨unsent, taken⟩ := Option.ite_none_right_eq_some.mp taken
    rcases received_finish taken other got new with old | ⟨unfinished, rfl, rfl⟩
    · exact .inl old
    · refine .inr ⟨unfinished, .inr ⟨?_, rfl⟩⟩
      cases sent : s.sent other with
      | nil => rfl
      | cons =>
        rw [poll, sent] at unsent
        cases unsent
  | drop =>
    obtain ⟨guard, listed, taken⟩ := Option.bind_eq_some_iff.mp taken
    obtain ⟨-, rfl⟩ := of_guard taken
    exact .inl new

section Step

variable (tabled : Tabled s) (taken : s.step action = some t)
include tabled taken

theorem correlates_quiet (next : Tabled t) (silent : outcomeOf action = fun _ _ => none)
    (stays : ∀ number, action ≠ .drop number) : Correlates s action t := by
  refine ⟨next, ?_, fun number same => absurd same (stays number), receives_of_tabled next, received_step tabled taken⟩
  intro id entry _ _ result comes
  rw [silent] at comes
  cases comes

theorem correlates_settle (settles : t = s.settle (outcomeOf action)) (stays : ∀ number, action ≠ .drop number) :
    Correlates s action t := by
  subst settles
  have next : Tabled (s.settle (outcomeOf action)) := tabled_settle tabled
  refine ⟨next, ?_, fun number same => absurd same (stays number), receives_of_tabled next, received_step tabled taken⟩
  intro id entry newest pending result comes
  rw [sent_settle tabled ((tabled.table id entry).mpr ⟨newest, pending⟩), comes]
  rfl

end Step

theorem tabled_finish {result : ActorResult Bytes} (tabled : Tabled s) (taken : s.finish number result = some t) :
    Tabled t := by
  obtain ⟨-, rfl⟩ := of_guard taken
  exact { tabled with }

theorem correlates_iff_dropsOwn (tabled : Tabled s) (taken : s.step action = some t) :
    Correlates s action t ↔ DropsOwn s action t := by
  have step := taken
  cases action with
  | register =>
    cases taken
    exact iff_of_true (correlates_quiet tabled step (tabled_register tabled) rfl nofun) nofun
  | complete requestId result | failWhere pred error =>
    cases taken
    exact iff_of_true (correlates_settle tabled step rfl nofun) nofun
  | wait =>
    obtain ⟨result, -, taken⟩ := Option.bind_eq_some_iff.mp taken
    exact iff_of_true (correlates_quiet tabled step (tabled_finish tabled taken) rfl nofun) nofun
  | timeout =>
    obtain ⟨-, taken⟩ := Option.ite_none_right_eq_some.mp taken
    exact iff_of_true (correlates_quiet tabled step (tabled_finish tabled taken) rfl nofun) nofun
  | drop number =>
    obtain ⟨guard, listed, taken⟩ := Option.bind_eq_some_iff.mp taken
    obtain ⟨-, rfl⟩ := of_guard taken
    constructor
    · rintro correlates _ ⟨⟩ guard' entry listed' present
      cases listed.symm.trans listed'
      by_contra different
      have kept := correlates.kept number rfl _ entry different present
      cases inner_drop.symm.trans kept
    · intro drops
      have own : ∀ entry, s.inner guard.requestId = some entry → entry.tx = number :=
        fun entry => drops number rfl guard entry listed
      have next := tabled_drop tabled listed own
      refine ⟨next, nofun, ?_, receives_of_tabled next, received_step tabled step⟩
      rintro _ ⟨⟩ id entry different present
      have apart : id ≠ guard.requestId := by
        rintro rfl
        exact different (own entry present)
      exact (Function.update_of_ne apart _ _).trans present

theorem tabled_new : Tabled (new : RpcCorrelation M) where
  once := fun _ => Nat.zero_le 1
  fresh := fun _ _ => ⟨rfl, rfl⟩
  table := by
    intro id entry
    refine iff_of_false nofun ?_
    rintro ⟨⟨listed, -⟩, -⟩
    cases listed

theorem correlation_exact_iff (M : Type) (actions : List (RpcCorrelation.Action M)) :
    Along step Correlates new actions ↔ Along step DropsOwn new actions := by
  apply along_iff tabled_new
  · intro s action t tabled taken
    exact correlates_iff_dropsOwn tabled taken
  · intro s action t tabled taken drops
    exact ((correlates_iff_dropsOwn tabled taken).mpr drops).tabled

theorem stale_guard_removes_entry :
    ∃ s : RpcCorrelation Unit,
      exec step new [.register "a" (), .register "a" (), .drop 0, .complete "a" (.ok [7])] = some s ∧
        s.dropped 1 = false ∧ (s.inner "a").isNone ∧ (s.sent 1).length = 0 :=
  exec_of_any (by decide +kernel)

end Actr.Proof.Transport
