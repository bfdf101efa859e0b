import Actr.Hyper.Transport.WirePool
import Actr.Library.Slots

/-! # What a wire pool publishes and what a close leaves -/

namespace Actr.Proof.Transport
open Hyper.Transport WirePool Library Machine

def announces : Process → Bool
  | .broadcasting _ | .publishing _ _ | .sending => true
  | _ => false

def attemptOf : Process → Option ConnType
  | .checking wire _ | .sleeping wire _ | .connecting wire _ | .writing wire _ => some wire.connType
  | .broadcasting (.connection connType) | .publishing (.connection connType) _ => some connType
  | .returned (.connection connType) _ => some connType
  | _ => none

def isReturned : Process → Bool
  | .closedAll | .returned _ _ => true
  | _ => false

def isClosing : Process → Bool
  | .clearing | .sending => true
  | _ => false

section Steps

variable {s t : WirePool} {action : WirePool.Action} {index : Nat} {process : Process}

structure Quiet (s : WirePool) (before after : Process) : Prop where
  idle : announces before = false
  still : announces after = false
  same : attemptOf after = attemptOf before
  running : isReturned before = false
  leaves : isClosing before = false
  ended : isReturned after = true → s.closed = true ∨ attemptOf before = none
  opened : after ≠ .closedAll
  stale : ∀ connType expected, before = .markingIfSame connType expected →
    s.connectionMatchesIdentity connType expected = false

inductive PoolStep (s : WirePool) : WirePool.Action → WirePool → Prop
  | started {action : WirePool.Action} {process : Process} (idle : announces process = false)
      (call : attemptOf process = none) (running : isReturned process = false) : PoolStep s action (s.start process)
  | added (wire : Wire) (free : s.writable = true) :
      PoolStep s (.addConnection wire) ((s.write wire.connType .connecting).start (.checking wire 0))
  | moved {action : WirePool.Action} {index : Nat} {before after : Process}
      (found : s.processes[index]? = some before) (quiet : Quiet s before after) : PoolStep s action (s.set index after)
  | stored {index : Nat} (found : s.processes[index]? = some .storing) :
      PoolStep s (.advance index) { s.set index .clearing with closed := true }
  | wrote {index : Nat} {before : Process} {connType : ConnType} {status : WireStatus} {caller : Caller}
      (found : s.processes[index]? = some before) (idle : announces before = false)
      (leaves : isClosing before = false) (same : attemptOf (.broadcasting caller) = attemptOf before)
      (own : ∀ wire, status = .ready wire →
        before = .writing wire true ∧ connType = wire.connType ∧ caller = .connection connType)
      (guarded : ∀ other expected, before = .markingIfSame other expected → connType = other ∧ status = .failed)
      (aimed : ∀ other, caller = .connection other → connType = other) (settled : status ≠ .connecting)
      (free : s.writable = true) :
      PoolStep s (.advance index) ((s.write connType status).set index (.broadcasting caller))
  | cleared {index : Nat} (found : s.processes[index]? = some .clearing) (free : s.writable = true) :
      PoolStep s (.advance index) (s.clear.set index .sending)
  | emptied {index : Nat} (found : s.processes[index]? = some .sending) :
      PoolStep s (.advance index) ((s.publish []).set index .closedAll)
  | locked {index : Nat} {caller : Caller} (found : s.processes[index]? = some (.broadcasting caller)) :
      PoolStep s (.advance index) (s.set index (.publishing caller s.readyConnections))
  | published {index : Nat} {caller : Caller} {ready : ReadySet}
      (found : s.processes[index]? = some (.publishing caller ready)) :
      PoolStep s (.advance index) ((s.publish ready).set index (.returned caller true))

theorem quiet_attempt (wire : Wire) (attempt : Nat) : Quiet s (.checking wire attempt) (s.attempt wire attempt) := by
  unfold WirePool.attempt
  split
  · exact ⟨rfl, rfl, rfl, rfl, rfl, by simp [isReturned], by simp, by simp⟩
  split
  · next closed => exact ⟨rfl, rfl, rfl, rfl, rfl, fun _ => .inl closed, by simp, by simp⟩
  split
  · exact ⟨rfl, rfl, rfl, rfl, rfl, by simp [isReturned], by simp, by simp⟩
  · exact ⟨rfl, rfl, rfl, rfl, rfl, by simp [isReturned], by simp, by simp⟩

theorem quiet_wake (wire : Wire) (attempt : Nat) : Quiet s (.sleeping wire attempt) (s.wake wire attempt) := by
  unfold WirePool.wake
  split
  · next closed => exact ⟨rfl, rfl, rfl, rfl, rfl, fun _ => .inl closed, by simp, by simp⟩
  · exact ⟨rfl, rfl, rfl, rfl, rfl, by simp [isReturned], by simp, by simp⟩

theorem quiet_connected (wire : Wire) (attempt : Nat) (outcome : NetworkResult Unit) :
    Quiet s (.connecting wire attempt) (connected wire attempt outcome) := by
  cases outcome with
  | ok | error => exact ⟨rfl, rfl, rfl, rfl, rfl, by simp [isReturned, connected], by simp [connected], by simp⟩

theorem poolStep_markIfSame {connType : ConnType} {expected : WireIdentity}
    (found : s.processes[index]? = some (.markingIfSame connType expected)) (free : s.writable = true) :
    PoolStep s (.advance index) (s.markIfSame index connType expected) := by
  unfold WirePool.markIfSame
  split
  · refine .wrote found rfl rfl rfl (by simp) ?_ (by simp) (by simp) free
    intro other identity same
    cases same
    exact ⟨rfl, rfl⟩
  · next mismatch =>
    refine .moved found ⟨rfl, rfl, rfl, rfl, rfl, fun _ => .inr rfl, by simp, ?_⟩
    intro other identity same
    cases same
    exact Bool.eq_false_iff.mpr mismatch

theorem poolStep_advance (found : s.processes[index]? = some process) (taken : s.advance index process = some t) :
    PoolStep s (.advance index) t := by
  cases process with
  | checking wire attempt =>
    cases taken
    exact .moved found (quiet_attempt wire attempt)
  | sleeping wire attempt =>
    cases taken
    exact .moved found (quiet_wake wire attempt)
  | writing wire connected =>
    obtain ⟨free, rfl⟩ := of_guard taken
    refine .wrote found rfl rfl rfl ?_ (by simp) (by simp) (by cases connected <;> simp) free
    intro other same
    cases connected with
    | true =>
      cases same
      exact ⟨rfl, rfl, rfl⟩
    | false => cases same
  | marking =>
    obtain ⟨free, rfl⟩ := of_guard taken
    exact .wrote found rfl rfl rfl (by simp) (by simp) (by simp) (by simp) free
  | markingIfSame =>
    obtain ⟨free, rfl⟩ := of_guard taken
    exact poolStep_markIfSame found free
  | storing =>
    cases taken
    exact .stored found
  | clearing =>
    obtain ⟨free, rfl⟩ := of_guard taken
    exact .cleared found free
  | sending =>
    cases taken
    exact .emptied found
  | broadcasting =>
    obtain ⟨-, rfl⟩ := of_guard taken
    exact .locked found
  | publishing =>
    cases taken
    exact .published found
  | connecting | returned | closedAll => cases taken

theorem poolStep_step (taken : s.step action = some t) : PoolStep s action t := by
  cases action with
  | addConnection wire =>
    obtain ⟨free, rfl⟩ := of_guard taken
    exact .added wire free
  | markConnectionClosed | markConnectionClosedIfSame | closeAll =>
    cases taken
    exact .started rfl rfl rfl
  | advance =>
    obtain ⟨process, found, taken⟩ := Option.bind_eq_some_iff.mp taken
    exact poolStep_advance found taken
  | connected index outcome =>
    simp only [WirePool.step] at taken
    split at taken
    · next wire attempt found =>
      cases taken
      exact .moved found (quiet_connected wire attempt outcome)
    · cases taken

end Steps

section Locks

variable {s t : WirePool} {action : WirePool.Action} {index : Nat} {process : Process} {connType : ConnType}

structure Locked (s : WirePool) : Prop where
  snapshot : ∀ caller ready, Process.publishing caller ready ∈ s.processes → ready = s.readyConnections
  cleared : Process.sending ∈ s.processes → ∀ connType, s.connections connType = none

theorem not_sending (free : s.readable = true) : Process.sending ∉ s.processes := by
  intro member
  simpa using List.all_eq_true.mp free _ member

theorem not_publishing (free : s.writable = true) {caller : Caller} {ready : ReadySet} :
    Process.publishing caller ready ∉ s.processes := by
  intro member
  obtain ⟨-, unread⟩ := Bool.and_eq_true_iff.mp free
  simpa [isReading] using List.all_eq_true.mp unread _ member

theorem readable_of_writable (free : s.writable = true) : s.readable = true := (Bool.and_eq_true_iff.mp free).1

theorem mem_start {other : Process} (member : process ∈ (s.start other).processes) :
    process ∈ s.processes ∨ process = other := by
  simpa [WirePool.start] using member

theorem mem_set {other : Process} (member : process ∈ (s.set index other).processes) :
    process ∈ s.processes ∨ process = other := List.mem_or_eq_of_mem_set member

theorem mem_set_self {before : Process} (found : s.processes[index]? = some before) :
    process ∈ (s.set index process).processes :=
  List.mem_iff_getElem?.mpr ⟨index, Slots.set_self found⟩

theorem Locked.of_same (locked : Locked s) (same : t.connections = s.connections) {new : Process}
    (idle : announces new = false) (known : ∀ process ∈ t.processes, process ∈ s.processes ∨ process = new) :
    Locked t := by
  constructor
  · intro caller ready member
    rcases known _ member with old | rfl
    · rw [locked.snapshot caller ready old, WirePool.readyConnections, WirePool.readyConnections, same]
    · cases idle
  · intro member connType
    rcases known _ member with old | rfl
    · rw [same]
      exact locked.cleared old connType
    · cases idle

theorem Locked.of_write (free : s.writable = true) {new : Process} (reading : isReading new = false)
    (known : ∀ process ∈ t.processes, process ∈ s.processes ∨ process = new)
    (cleared : new = .sending → ∀ connType, t.connections connType = none) : Locked t := by
  constructor
  · intro caller ready member
    rcases known _ member with old | rfl
    · exact absurd old (not_publishing free)
    · cases reading
  · intro member
    rcases known _ member with old | same
    · exact absurd old (not_sending (readable_of_writable free))
    · exact cleared same.symm

theorem locked_new (maxAttempts : Nat) : Locked (.new maxAttempts) := by
  constructor
  · intro caller ready member
    cases member
  · intro member
    cases member

theorem locked_step (locked : Locked s) (taken : PoolStep s action t) : Locked t := by
  cases taken with
  | started idle => exact locked.of_same rfl idle fun _ => mem_start
  | added wire free => exact .of_write free rfl (fun _ => mem_start) (by simp)
  | moved found quiet => exact locked.of_same rfl quiet.still fun _ => mem_set
  | stored => exact locked.of_same (t := { s.set _ .clearing with closed := true }) rfl rfl fun _ => mem_set
  | wrote found idle leaves same own guarded aimed settled free => exact .of_write free rfl (fun _ => mem_set) (by simp)
  | cleared found free => exact .of_write free rfl (fun _ => mem_set) fun _ _ => rfl
  | emptied | published => exact locked.of_same rfl rfl fun _ => mem_set
  | locked =>
    constructor
    · intro caller ready member
      rcases mem_set member with old | same
      · exact locked.snapshot caller ready old
      · cases same
        rfl
    · intro member
      rcases mem_set member with old | same
      · exact locked.cleared old
      · cases same

end Locks

/-- Whenever nobody is between a write and its broadcast, the published set is the one of the slots. -/
def Exact (s : WirePool) : Prop :=
  (∀ process ∈ s.processes, announces process = false) → s.ready = s.readyConnections

def Attempted (s : WirePool) (connType : ConnType) : Prop :=
  ∃ process ∈ s.processes, attemptOf process = some connType

def addsAgain (s : WirePool) : WirePool.Action → Bool
  | .addConnection wire => s.processes.any fun process => attemptOf process = some wire.connType
  | _ => false

/-- At most one connection of each type is added. -/
def AddsOnce (s : WirePool) (action : WirePool.Action) (_ : WirePool) : Prop := addsAgain s action = false
  deriving Decidable

structure Consistent (s : WirePool) : Prop where
  locked : Locked s
  known : ∀ connType, isReady (s.connections connType) = true → Attempted s connType
  exact : Exact s

section Published

variable {s t : WirePool} {action : WirePool.Action} {index : Nat} {before after : Process} {connType other : ConnType}
  {status : WireStatus}

theorem attempted_set (found : s.processes[index]? = some before) (same : attemptOf after = attemptOf before)
    (attempted : Attempted s connType) : Attempted (s.set index after) connType := by
  obtain ⟨process, member, own⟩ := attempted
  rcases Slots.mem_kept_or_set found member with rfl | kept
  · exact ⟨after, mem_set_self found, same.trans own⟩
  · exact ⟨process, kept, own⟩

theorem attempted_start (attempted : Attempted s connType) : Attempted (s.start before) connType := by
  obtain ⟨process, member, own⟩ := attempted
  exact ⟨process, List.mem_append_left _ member, own⟩

theorem attempted_step (taken : PoolStep s action t) (attempted : Attempted s connType) : Attempted t connType := by
  cases taken with
  | started => exact attempted_start attempted
  | added wire => exact attempted_start (s := s.write wire.connType .connecting) attempted
  | moved found quiet => exact attempted_set found quiet.same attempted
  | stored found => exact attempted_set found rfl attempted
  | wrote found idle leaves same => exact attempted_set (s := s.write _ _) found same attempted
  | cleared found => exact attempted_set (s := s.clear) found rfl attempted
  | emptied found => exact attempted_set (s := s.publish _) found rfl attempted
  | @locked index caller found => cases caller <;> exact attempted_set found rfl attempted
  | @published index caller ready found => cases caller <;> exact attempted_set (s := s.publish _) found rfl attempted

theorem write_other (different : other ≠ connType) :
    (s.write connType status).connections other = s.connections other :=
  Function.update_of_ne different _ _

theorem write_self : (s.write connType status).connections connType = some status := Function.update_self _ _ _

section

variable (known : ∀ connType, isReady (s.connections connType) = true → Attempted s connType)
include known

theorem known_write (own : ∀ wire, status = .ready wire → Attempted s connType)
    (ready : isReady ((s.write connType status).connections other) = true) : Attempted s other := by
  by_cases same : other = connType
  · subst same
    rw [write_self] at ready
    cases status with
    | ready wire => exact own wire rfl
    | connecting | failed => cases ready
  · rw [write_other same] at ready
    exact known other ready

theorem known_step (taken : PoolStep s action t) (ready : isReady (t.connections connType) = true) :
    Attempted t connType := by
  have step : Attempted s connType → Attempted t connType := attempted_step taken
  cases taken with
  | added => exact step (known_write known (by simp) ready)
  | @wrote index before connType status caller found idle leaves same own =>
    refine step (known_write known ?_ ready)
    intro wire isReady
    obtain ⟨rfl, rfl, -⟩ := own wire isReady
    exact ⟨_, List.mem_of_getElem? found, rfl⟩
  | cleared => cases ready
  | _ => exact step (known connType ready)

end

theorem settled_of_set (found : s.processes[index]? = some before) (idle : announces before = false)
    (settled : ∀ process ∈ (s.set index after).processes, announces process = false) :
    ∀ process ∈ s.processes, announces process = false := by
  intro process member
  rcases Slots.mem_kept_or_set found member with rfl | kept
  · exact idle
  · exact settled process kept

theorem exact_of_announces (found : s.processes[index]? = some before) (busy : announces after = true) :
    Exact (s.set index after) := by
  intro settled
  rw [settled after (mem_set_self found)] at busy
  cases busy

theorem readyConnections_connecting (slot : isReady (s.connections connType) = false) :
    (s.write connType .connecting).readyConnections = s.readyConnections := by
  unfold WirePool.readyConnections
  congr 1
  funext other
  by_cases same : other = connType
  · subst same
    rw [write_self, slot]
    rfl
  · rw [write_other same]

theorem exact_step (consistent : Consistent s) (once : AddsOnce s action t) (taken : PoolStep s action t) :
    Exact t := by
  cases taken with
  | started =>
    intro settled
    exact consistent.exact fun process member => settled process (List.mem_append_left _ member)
  | added wire =>
    intro settled
    have slot : isReady (s.connections wire.connType) = false := by
      rw [Bool.eq_false_iff]
      intro ready
      obtain ⟨process, member, own⟩ := consistent.known wire.connType ready
      simpa [own] using List.any_eq_false.mp once process member
    have before := consistent.exact fun process member => settled process (List.mem_append_left _ member)
    exact before.trans (readyConnections_connecting slot).symm
  | moved found quiet => exact fun settled => consistent.exact (settled_of_set found quiet.idle settled)
  | stored found => exact fun settled => consistent.exact (settled_of_set found rfl settled)
  | wrote found => exact exact_of_announces (s := s.write _ _) found rfl
  | cleared found => exact exact_of_announces (s := s.clear) found rfl
  | emptied found =>
    intro _
    have none := consistent.locked.cleared (List.mem_of_getElem? found)
    simp [WirePool.set, WirePool.publish, WirePool.readyConnections, none, isReady]
  | locked found => exact exact_of_announces found rfl
  | published found =>
    intro _
    exact consistent.locked.snapshot _ _ (List.mem_of_getElem? found)

theorem consistent_new (maxAttempts : Nat) : Consistent (.new maxAttempts) := by
  refine ⟨locked_new maxAttempts, ?_, fun _ => rfl⟩
  intro connType ready
  cases ready

theorem consistent_step (consistent : Consistent s) (once : AddsOnce s action t) (taken : s.step action = some t) :
    Consistent t := by
  have step := poolStep_step taken
  exact ⟨locked_step consistent.locked step, fun _ => known_step consistent.known step,
    exact_step consistent once step⟩

end Published

/-- After a `close_all` has returned no slot is ready and the published set is empty. -/
def Final (s : WirePool) : Prop :=
  Process.closedAll ∈ s.processes → s.ready = [] ∧ ∀ connType, isReady (s.connections connType) = false

/-- A connection that was established is written to its slot after a `close_all` has returned. -/
def connectsLate (s : WirePool) : WirePool.Action → Bool
  | .advance index =>
    match s.processes[index]? with
    | some (.writing _ true) => Process.closedAll ∈ s.processes
    | _ => false
  | _ => false

section Closing

variable {s t : WirePool} {action : WirePool.Action} {index : Nat} {after : Process} {connType : ConnType}
  {status : WireStatus}

theorem final_new (maxAttempts : Nat) : Final (.new maxAttempts) := by
  intro returned
  cases returned

theorem final_of_same (final : Final s) (closed : Process.closedAll ∈ t.processes → Process.closedAll ∈ s.processes)
    (ready : t.ready = s.ready) (same : t.connections = s.connections) : Final t := by
  intro returned
  rw [ready, same]
  exact final (closed returned)

theorem closed_set (returned : Process.closedAll ∈ (s.set index after).processes) (opened : after ≠ .closedAll) :
    Process.closedAll ∈ s.processes :=
  (mem_set returned).resolve_right (Ne.symm opened)

theorem final_write (final : Final s) (closed : Process.closedAll ∈ t.processes → Process.closedAll ∈ s.processes)
    (ready : t.ready = s.ready) (same : t.connections = (s.write connType status).connections)
    (unready : isReady (some status) = false ∨ Process.closedAll ∉ s.processes) : Final t := by
  intro returned
  obtain ⟨empty, slots⟩ := final (closed returned)
  refine ⟨ready.trans empty, fun other => ?_⟩
  rw [same]
  by_cases own : other = connType
  · subst own
    rw [write_self]
    exact unready.resolve_right fun not => not (closed returned)
  · rw [write_other own]
    exact slots other

theorem final_step (locked : Locked s) (final : Final s) (taken : PoolStep s action t)
    (early : connectsLate s action = false) : Final t := by
  cases taken with
  | started idle call running =>
    refine final_of_same final (fun member => (mem_start member).resolve_right ?_) rfl rfl
    rintro rfl
    cases running
  | added =>
    exact final_write final (fun member => (mem_start member).resolve_right (by simp)) rfl rfl (.inl rfl)
  | moved found quiet => exact final_of_same final (fun member => closed_set member quiet.opened) rfl rfl
  | stored | locked => exact final_of_same final (fun member => closed_set member (by simp)) rfl rfl
  | @wrote index before connType status caller found idle leaves same own =>
    refine final_write final (fun member => closed_set (s := s.write _ _) member (by simp)) rfl rfl ?_
    cases status with
    | ready wire =>
      obtain ⟨rfl, -, -⟩ := own wire rfl
      right
      simpa [connectsLate, found] using early
    | connecting => exact .inl rfl
    | failed => exact .inl rfl
  | cleared =>
    intro returned
    have before := closed_set (s := s.clear) returned (by simp)
    exact ⟨(final before).1, fun _ => rfl⟩
  | emptied found =>
    have none := locked.cleared (List.mem_of_getElem? found)
    refine fun _ => ⟨rfl, fun connType => ?_⟩
    change isReady (s.connections connType) = false
    rw [none connType]
    rfl
  | @published index caller ready found =>
    intro returned
    obtain ⟨empty, slots⟩ := final (closed_set (s := s.publish ready) returned (by simp))
    refine ⟨?_, slots⟩
    have snapshot := locked.snapshot caller ready (List.mem_of_getElem? found)
    change ready = []
    simpa [WirePool.readyConnections, slots] using snapshot

theorem not_final_of_late (late : connectsLate s action = true) (taken : s.step action = some t) : ¬ Final t := by
  intro final
  cases action with
  | advance =>
    simp only [connectsLate] at late
    split at late
    · next wire found =>
      simp only [WirePool.step, found, Option.bind_some, WirePool.advance] at taken
      obtain ⟨free, rfl⟩ := of_guard taken
      have slot := (final ((Slots.mem_kept_or_set found (of_decide_eq_true late)).resolve_left nofun)).2 wire.connType
      simp [WirePool.set, write_self, isReady] at slot
    · cases late
  | _ => cases late

end Closing

theorem closed_pool_stays_closed_iff (maxAttempts : Nat) (actions : List WirePool.Action)
    (once : Along WirePool.step AddsOnce (.new maxAttempts) actions) :
    (Along WirePool.step (fun _ _ t => Final t) (.new maxAttempts) actions ↔
      Along WirePool.step (fun s action _ => connectsLate s action = false) (.new maxAttempts) actions) ∧
    Along WirePool.step (fun _ _ t => Exact t) (.new maxAttempts) actions := by
  constructor
  · refine @along_iff _ _ _ (fun s => Locked s ∧ Final s) _ _ _ _ ⟨locked_new maxAttempts, final_new maxAttempts⟩ ?_ ?_
    · rintro s action t ⟨locked, final⟩ taken
      constructor
      · intro after
        rw [Bool.eq_false_iff]
        exact fun late => not_final_of_late late taken after
      · exact final_step locked final (poolStep_step taken)
    · rintro s action t ⟨locked, final⟩ taken early
      have step := poolStep_step taken
      exact ⟨locked_step locked step, final_step locked final step early⟩
  · refine along_of_guarded (consistent_new maxAttempts) ?_ once
    intro s action t consistent once taken
    have after := consistent_step consistent once taken
    exact ⟨after.exact, after⟩

def connects : List WirePool.Action := [.addConnection ⟨.webSocket, none⟩, .advance 0]

def establishes : List WirePool.Action := [.connected 0 (.ok ()), .advance 0, .advance 0, .advance 0]

def closesAll : List WirePool.Action := [.closeAll, .advance 1, .advance 1, .advance 1]

theorem closed_pool_stays_closed_of_one :
    Along WirePool.step AddsOnce (.new 3) (connects ++ establishes ++ closesAll) ∧
      Along WirePool.step (fun _ _ t => Final t) (.new 3) (connects ++ establishes ++ closesAll) ∧
      Along WirePool.step (fun _ _ t => Exact t) (.new 3) (connects ++ establishes ++ closesAll) ∧
      ∃ s, exec WirePool.step (.new 3) (connects ++ establishes ++ closesAll) = some s ∧
        s.version = 2 ∧ Process.closedAll ∈ s.processes := by
  have once : Along WirePool.step AddsOnce (.new 3) (connects ++ establishes ++ closesAll) := by decide +kernel
  obtain ⟨closed, exact⟩ := closed_pool_stays_closed_iff 3 (connects ++ establishes ++ closesAll) once
  exact ⟨once, closed.mpr (by decide +kernel), exact, exec_of_any (by decide +kernel)⟩

theorem closed_pool_becomes_ready : Along WirePool.step AddsOnce (.new 3) (connects ++ closesAll ++ establishes) ∧
      ∃ s, exec WirePool.step (.new 3) (connects ++ closesAll ++ establishes) = some s ∧
        Process.closedAll ∈ s.processes ∧ s.ready = [.webSocket] ∧
        s.connections .webSocket = some (.ready ⟨.webSocket, none⟩) := by
  exact ⟨by decide +kernel, exec_of_any (by decide +kernel)⟩

end Actr.Proof.Transport
