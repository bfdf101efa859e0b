import Actr.Proof.Lifecycle.NodeCore

/-! # Acknowledgement of durable messages -/

namespace Actr.Proof.Lifecycle
open Actr.Protocol Hyper.Lifecycle Hyper.Executor Library Actr.Mailbox

variable {inner : Inner} {budget : Nat} {s t : NodeState} {record : MessageRecord}
variable {action : NodeAction} {result : ActorResult Bytes} {index : Nat} {request : Request}

inductive Stops (inner : Inner) (s : NodeState) : NodeState → Prop
  | begins (phase : s.coordinator = .waiting) : Stops inner s { s with coordinator := .quiescing }
  | quiesces (phase : s.coordinator = .quiescing) (free : s.loop.holdsGuard = false) :
      Stops inner s { s with admissionOpen := false, coordinator := .closingScheduler }
  | schedulerCloses {core : Core} (phase : s.coordinator = .closingScheduler)
      (gate : inner.hasDispatchScheduler = true) (moved : s.toCore.step inner (.schedule .shutdown) = some core) :
      Stops inner s { s with toCore := core, coordinator := .joiningScheduler }
  | schedulerAbsent (phase : s.coordinator = .closingScheduler) (gate : inner.hasDispatchScheduler = false) :
      Stops inner s { s with coordinator := .closingIntake }
  | schedulerJoined (phase : s.coordinator = .joiningScheduler) (exited : s.scheduler.exited = true) :
      Stops inner s { s with coordinator := .closingIntake }
  | intakeCloses {core : Core} (phase : s.coordinator = .closingIntake)
      (moved : s.toCore.step inner (.run .stopIntake) = some core) :
      Stops inner s { s with toCore := core, coordinator := .beforeStop }
  | callsStop {core : Core} (phase : s.coordinator = .beforeStop)
      (moved : s.toCore.step inner (.run (.call (.lifecycle .onStop))) = some core) :
      Stops inner s { s with toCore := core, coordinator := .stopping s.runner.calls.length }
  | stopped {call : Nat} {result : ActorResult Bytes} (phase : s.coordinator = .stopping call)
      (returned : s.returned call = some result) : Stops inner s { s with coordinator := .closingAgain }
  | closesAgain {core : Core} (phase : s.coordinator = .closingAgain)
      (moved : s.toCore.step inner (.run .stopIntake) = some core) :
      Stops inner s { s with toCore := core, coordinator := .beforeShutdown }
  | callsShutdown {core : Core} (phase : s.coordinator = .beforeShutdown)
      (moved : s.toCore.step inner (.run (.call .shutdown)) = some core) :
      Stops inner s { s with toCore := core, coordinator := .joining s.runner.calls.length }
  | joined {call : Nat} (phase : s.coordinator = .joining call) (exited : s.runner.loop = .exited) :
      Stops inner s { s with coordinator := .finished }

inductive NodeStep (inner : Inner) (s : NodeState) : NodeAction → NodeState → Prop
  | enters (selecting : s.loop = .selecting) (isOpen : s.admissionOpen = true) :
      NodeStep inner s .enter { s with loop := .dequeuing }
  | shutOut (selecting : s.loop = .selecting) : NodeStep inner s .enter { s with loop := .ended }
  | dequeues {messages : List MessageRecord} (dequeuing : s.loop = .dequeuing) :
      NodeStep inner s (.dequeue messages) { s with
        loop := if messages = [] then .selecting else .handling messages none
        dequeued := s.dequeued ++ messages }
  | givesUp {action : NodeAction} (dequeuing : s.loop = .dequeuing) : NodeStep inner s action { s with loop := .selecting }
  | undecodable {record : MessageRecord} {rest : List MessageRecord} {now : Nat} {stored : Bool}
      (handling : s.loop = .handling (record :: rest) none) (decoded : inner.decodeEnvelope record.payload = none) :
      NodeStep inner s (.next now stored) { s with
        loop := .handling rest none
        deadLetters := if stored then s.deadLetters ++ [record] else s.deadLetters
        acks := s.acks ++ [.undecodable record] }
  | misdirected {record : MessageRecord} {rest : List MessageRecord} {now : Nat} {stored : Bool} {envelope : RpcEnvelope}
      (handling : s.loop = .handling (record :: rest) none)
      (decoded : inner.decodeEnvelope record.payload = some envelope)
      (direction : dispatchExpectsResponse envelope.direction = none) :
      NodeStep inner s (.next now stored) { s with
        loop := .handling rest none, acks := s.acks ++ [.invalidDirection record] }
  | handles {record : MessageRecord} {rest : List MessageRecord} {now : Nat} {stored expects : Bool}
      {envelope : RpcEnvelope} {core : Core} (handling : s.loop = .handling (record :: rest) none)
      (decoded : inner.decodeEnvelope record.payload = some envelope)
      (direction : dispatchExpectsResponse envelope.direction = some expects)
      (moved : s.toCore.step inner (.incoming (some record) (inner.decodeActrId record.sender) envelope now) = some core) :
      NodeStep inner s (.next now stored) { s with
        toCore := core, loop := .handling rest (some s.requests.length) }
  | admits {rest : List MessageRecord} {index : Nat} {request : Request} (handling : s.loop = .handling rest (some index))
      (found : s.requests[index]? = some request) (gate : inner.hasDispatchScheduler = true)
      (submitted : s.submitted request = true) : NodeStep inner s .admitted { s with loop := .handling rest none }
  | leaves (handling : s.loop = .handling [] none) : NodeStep inner s .leaveBatch { s with loop := .selecting }
  | ends (selecting : s.loop = .selecting) : NodeStep inner s .endLoop { s with loop := .ended }
  | replies {index : Nat} {request : Request} {core : Core} (found : s.requests[index]? = some request)
      (moved : s.toCore.step inner (.settle index) = some core) :
      NodeStep inner s (.reply index) { s.reply inner index request.record with toCore := core }
  | stops {t : NodeState} (stops : Stops inner s t) : NodeStep inner s .stop t
  | others {action : CoreAction} {core : Core} (others : s.isOthers action = true)
      (moved : s.toCore.step inner action = some core) : NodeStep inner s (.others action) { s with toCore := core }

theorem stops_coordinate (taken : s.coordinate inner = some t) : Stops inner s t := by
  simp only [NodeState.coordinate] at taken
  split at taken
  · next phase =>
    cases taken
    exact .begins phase
  · next phase =>
    obtain ⟨free, rfl⟩ := Machine.of_unless taken
    exact .quiesces phase (by simpa using free)
  · next phase =>
    split at taken
    · next gate =>
      obtain ⟨core, moved, rfl⟩ := Option.map_eq_some_iff.mp taken
      exact .schedulerCloses phase gate moved
    · next gate =>
      cases taken
      exact .schedulerAbsent phase (by simpa using gate)
  · next phase =>
    obtain ⟨exited, rfl⟩ := Machine.of_guard taken
    exact .schedulerJoined phase exited
  · next phase =>
    obtain ⟨core, moved, rfl⟩ := Option.map_eq_some_iff.mp taken
    exact .intakeCloses phase moved
  · next phase =>
    obtain ⟨core, moved, rfl⟩ := Option.map_eq_some_iff.mp taken
    exact .callsStop phase moved
  · next phase =>
    obtain ⟨result, returned, rfl⟩ := Option.map_eq_some_iff.mp taken
    exact .stopped phase returned
  · next phase =>
    obtain ⟨core, moved, rfl⟩ := Option.map_eq_some_iff.mp taken
    exact .closesAgain phase moved
  · next phase =>
    obtain ⟨core, moved, rfl⟩ := Option.map_eq_some_iff.mp taken
    exact .callsShutdown phase moved
  · next phase =>
    obtain ⟨ended, rfl⟩ := Machine.of_guard taken
    simp only [Bool.and_eq_true, decide_eq_true_eq] at ended
    exact .joined phase ended.2
  · cases taken

theorem nodeStep_step (taken : s.step inner action = some t) : NodeStep inner s action t := by
  cases action with
  | enter =>
    obtain ⟨selecting, rfl⟩ := Machine.of_guard taken
    by_cases isOpen : s.admissionOpen = true
    · rw [if_pos isOpen]
      exact .enters selecting isOpen
    · rw [if_neg isOpen]
      exact .shutOut selecting
  | dequeue =>
    obtain ⟨dequeuing, rfl⟩ := Machine.of_guard taken
    exact .dequeues dequeuing
  | dequeueFailed | interrupted =>
    obtain ⟨dequeuing, rfl⟩ := Machine.of_guard taken
    exact .givesUp dequeuing
  | next =>
    simp only [NodeState.step] at taken
    split at taken
    · next record rest handling =>
      simp only [NodeState.next] at taken
      split at taken
      · next decoded =>
        cases taken
        exact .undecodable handling decoded
      · next envelope decoded =>
        split at taken
        · next direction =>
          cases taken
          exact .misdirected handling decoded direction
        · next expects direction =>
          obtain ⟨core, moved, rfl⟩ := Option.map_eq_some_iff.mp taken
          exact .handles handling decoded direction moved
    · cases taken
  | admitted =>
    simp only [NodeState.step] at taken
    split at taken
    · next rest index handling =>
      split at taken
      · next request found =>
        obtain ⟨ready, rfl⟩ := Machine.of_guard taken
        rw [Bool.and_eq_true] at ready
        exact .admits handling found ready.1 ready.2
      · cases taken
    · cases taken
  | leaveBatch =>
    obtain ⟨handling, rfl⟩ := Machine.of_guard taken
    exact .leaves handling
  | endLoop =>
    obtain ⟨selecting, rfl⟩ := Machine.of_guard taken
    exact .ends selecting.1
  | reply =>
    obtain ⟨request, found, taken⟩ := Option.bind_eq_some_iff.mp taken
    obtain ⟨core, moved, rfl⟩ := Option.map_eq_some_iff.mp taken
    exact .replies found moved
  | stop => exact .stops (stops_coordinate taken)
  | others =>
    simp only [NodeState.step] at taken
    split at taken
    · next others =>
      obtain ⟨core, moved, rfl⟩ := Option.map_eq_some_iff.mp taken
      exact .others others moved
    · cases taken

theorem core_step (step : NodeStep inner s action t) :
    t.toCore = s.toCore ∨ ∃ change, s.toCore.step inner change = some t.toCore ∧
      ∀ record callerId envelope now, change = .incoming (some record) callerId envelope now →
        inner.decodeEnvelope record.payload = some envelope ∧ callerId = inner.decodeActrId record.sender ∧
          (dispatchExpectsResponse envelope.direction).isSome := by
  cases step with
  | handles handling decoded direction moved =>
    refine .inr ⟨_, moved, ?_⟩
    rintro _ _ _ _ ⟨⟩
    exact ⟨decoded, rfl, by rw [direction]; rfl⟩
  | replies found moved => exact .inr ⟨_, moved, by simp⟩
  | stops stops =>
    cases stops with
    | schedulerCloses _ _ moved => exact .inr ⟨_, moved, by simp⟩
    | intakeCloses _ moved | callsStop _ moved | closesAgain _ moved | callsShutdown _ moved =>
      exact .inr ⟨_, moved, by simp⟩
    | begins | quiesces | schedulerAbsent | schedulerJoined | stopped | joined => exact .inl rfl
  | others others moved =>
    refine .inr ⟨_, moved, ?_⟩
    rintro _ _ _ _ rfl
    simp [NodeState.isOthers] at others
  | enters | shutOut | dequeues | givesUp | undecodable | misdirected | admits | leaves | ends => exact .inl rfl

structure Traced (inner : Inner) (budget : Nat) (s : NodeState) : Prop where
  linked : Linked inner budget s.toCore
  carried : ∀ (index : Nat) (request : Request) (task : Admission) (record : MessageRecord),
    s.requests[index]? = some request → s.runtime.tasks[index]? = some task → request.record = some record →
    inner.decodeEnvelope record.payload = some task.envelope ∧ task.callerId = inner.decodeActrId record.sender ∧
      (dispatchExpectsResponse task.envelope.direction).isSome

theorem traced_start (inner : Inner) (budget : Nat) (mode : RunnerMode) (hasDispatchTimeout : Bool) :
    Traced inner budget (.start budget mode hasDispatchTimeout) where
  linked := linked_start inner budget mode hasDispatchTimeout
  carried := by simp [NodeState.start, Core.start]

theorem traced_step (traced : Traced inner budget s) (step : NodeStep inner s action t) : Traced inner budget t := by
  rcases core_step step with same | ⟨change, moved, genuine⟩
  · constructor
    case linked => exact same ▸ traced.linked
    case carried =>
      rw [same]
      exact traced.carried
  · have changes := coreStep_step traced.linked moved
    constructor
    case linked => exact linked_step traced.linked moved
    case carried =>
      intro index request task record found known own
      rcases request_came changes found with ⟨before, old, record', -⟩ | ⟨rfl, -, -, -, _, _, now, rfl⟩
      · rcases task_came changes known with ⟨entry, listed, caller, envelope, -⟩ | ⟨rfl, -⟩
        · rw [← caller, ← envelope]
          exact traced.carried index before entry record old listed (record'.trans own)
        · rw [← traced.linked.tasks] at old
          simp at old
      · rcases task_came changes known with ⟨entry, listed, -⟩ | ⟨-, record', now', same⟩
        · rw [traced.linked.tasks] at listed
          simp at listed
        · cases same
          rw [own] at genuine
          exact genuine record _ _ now rfl

def DispatchStarted (s : Core) (request : Request) : Prop :=
  ∃ call, s.callOf request = some call ∧ call ∈ s.runner.started

/-- What allows the message to be removed from the mailbox. -/
def Handled (inner : Inner) (s : NodeState) : Ack → Prop
  | .undecodable record => inner.decodeEnvelope record.payload = none ∧ record ∈ s.deadLetters
  | .invalidDirection record =>
    ∃ envelope, inner.decodeEnvelope record.payload = some envelope ∧ dispatchExpectsResponse envelope.direction = none
  | .replied index record =>
    ∃ request task, s.requests[index]? = some request ∧ s.runtime.tasks[index]? = some task ∧
      request.record = some record ∧ inner.decodeEnvelope record.payload = some task.envelope ∧
      (DispatchStarted s.toCore request ∨
        task.role = .refused ∧ inner.actorId.isSome ∧ (inner.refusal task.callerId).isSome ∨
        ∃ owner, task.role = .waited owner ∨ task.role = .cached owner ∨ task.role = .dropped owner)

def unattended : List ActrError := [runnerTerminated, schedulerTerminated, actorIdNotSet, credentialNotSet]

/-- The record is stored, or its request was not lost to the node. -/
def Attended (s : NodeState) (action : NodeAction) : Ack → Prop
  | .undecodable _ => ∃ now, action = .next now true
  | .invalidDirection _ => True
  | .replied index _ =>
    ∀ task error, s.runtime.tasks[index]? = some task → task.phase = .resolved (.error error) → error ∉ unattended

/-- A step acknowledges one message at most, which is handled if it is attended to. -/
def AcksHandled (inner : Inner) (s : NodeState) (action : NodeAction) (t : NodeState) : Prop :=
  t.acks = s.acks ∨ ∃ ack, t.acks = s.acks ++ [ack] ∧ (Attended s action ack → Handled inner t ack)

section

variable {s : Core} (linked : Linked inner budget s)
include linked

theorem started_of_returned {call : Nat} (dispatch : Executor.IsDispatch s.runner call)
    (returned : s.returned call = some result) (live : result ≠ .error runnerTerminated) :
    call ∈ s.runner.started := by
  obtain ⟨entry, found, phase⟩ := returned_eq.mp returned
  rcases linked.runner.settled.returned call entry result found phase with executed | ⟨terminated, -⟩
  · exact linked.runner.settled.ran call result executed dispatch
  · exact absurd terminated live

theorem started_of_resolved {task : Admission} (found : s.requests[index]? = some request)
    (known : s.runtime.tasks[index]? = some task) (resolved : task.phase = .resolved result)
    (original : task.role = .original) (live : ∀ error, result = .error error → error ∉ unattended) :
    DispatchStarted s request := by
  have fine := linked.requests index request task found known
  unfold RequestOk at fine
  split at fine
  · rw [Answered, original] at fine
    cases resolved.symm.trans fine
    exact absurd (by simp [unattended]) (live credentialNotSet rfl)
  · obtain ⟨-, -, phase | phase⟩ := fine
    · cases resolved.symm.trans phase
    · cases resolved.symm.trans phase
      exact absurd (by simp [unattended]) (live schedulerTerminated rfl)
  · next call path =>
    obtain ⟨-, dispatch, phase | ⟨result', phase, returned⟩⟩ := fine
    · cases resolved.symm.trans phase
    · cases resolved.symm.trans phase
      refine ⟨call, by rw [Core.callOf, path], started_of_returned linked dispatch returned ?_⟩
      rintro rfl
      exact absurd (by simp [unattended]) (live runnerTerminated rfl)
  · next ticket path =>
    obtain ⟨-, job, listed, phase | ⟨result', phase, reply⟩⟩ := fine
    · cases resolved.symm.trans phase
    · cases resolved.symm.trans phase
      have sound := linked.jobs ticket job listed
      obtain ⟨call, own, returned⟩ := sound.2.1 result reply
      refine ⟨call, ?_, started_of_returned linked (sound.1 call own) returned ?_⟩
      · rw [Core.callOf, path]
        simp [listed, own]
      · rintro rfl
        exact absurd (by simp [unattended]) (live runnerTerminated rfl)

theorem refused_of_role {task : Admission} (found : s.requests[index]? = some request)
    (known : s.runtime.tasks[index]? = some task) (refused : task.role = .refused)
    (resolved : task.phase = .resolved result) :
    ∃ error, inner.refusal task.callerId = some error ∧ result = .error error := by
  have fine := linked.requests index request task found known
  unfold RequestOk at fine
  split at fine
  · rw [Answered, refused] at fine
    obtain ⟨error, refusal, phase⟩ := fine
    cases resolved.symm.trans phase
    exact ⟨error, refusal, rfl⟩
  all_goals cases refused.symm.trans fine.1

end

theorem handled_replied {core : Core} (traced : Traced inner budget s)
    (found : s.requests[index]? = some request) (moved : s.toCore.step inner (.settle index) = some core)
    (own : request.record = some record) (attended : Attended s (.reply index) (.replied index record)) :
    Handled inner { s.reply inner index request.record with toCore := core } (.replied index record) := by
  obtain ⟨request', task, result, found', known, -, phase, rfl⟩ := step_settle moved
  cases found.symm.trans found'
  have carried := traced.carried index request task record found known own
  have live : ∀ error, result = .error error → error ∉ unattended := by
    rintro error rfl
    exact attended task error known phase
  refine ⟨{ request with settled := true }, task, Slots.set_self found, known, own, carried.1, ?_⟩
  cases role : task.role with
  | original =>
    have started : DispatchStarted s.toCore request := started_of_resolved traced.linked found known phase role live
    exact .inl started
  | refused =>
    obtain ⟨error, refusal, rfl⟩ := refused_of_role traced.linked found known role phase
    refine .inr (.inl ⟨rfl, ?_, by rw [refusal]; rfl⟩)
    cases actorId : inner.actorId with
    | some => rfl
    | none =>
      have unset : error = actorIdNotSet := by simpa [Node.refusal, actorId] using refusal.symm
      subst unset
      exact absurd (by simp [unattended]) (live actorIdNotSet rfl)
  | waited owner => exact .inr (.inr ⟨owner, .inl rfl⟩)
  | cached owner => exact .inr (.inr ⟨owner, .inr (.inl rfl)⟩)
  | dropped owner => exact .inr (.inr ⟨owner, .inr (.inr rfl)⟩)

theorem acksHandled_step (traced : Traced inner budget s) (step : NodeStep inner s action t) :
    AcksHandled inner s action t := by
  cases step with
  | @undecodable record rest now stored handling decoded =>
    refine .inr ⟨.undecodable record, rfl, ?_⟩
    rintro ⟨now', same⟩
    cases same
    exact ⟨decoded, List.mem_append_right _ List.mem_cons_self⟩
  | @misdirected record rest now stored envelope handling decoded direction =>
    exact .inr ⟨.invalidDirection record, rfl, fun _ => ⟨envelope, decoded, direction⟩⟩
  | @replies index request core found moved =>
    cases own : request.record with
    | none => exact .inl rfl
    | some record =>
      refine .inr ⟨.replied index record, rfl, ?_⟩
      intro attended
      have handled := handled_replied traced found moved own attended
      exact handled
  | stops stops => cases stops <;> exact .inl rfl
  | enters | shutOut | dequeues | givesUp | handles | admits | leaves | ends | others => exact .inl rfl

theorem acknowledged_messages_are_handled (inner : Inner) (budget : Nat) (mode : RunnerMode)
    (hasDispatchTimeout : Bool) (actions : List NodeAction) :
    Machine.Along (NodeState.step inner) (AcksHandled inner) (.start budget mode hasDispatchTimeout) actions := by
  refine Machine.along_of_invariant (traced_start inner budget mode hasDispatchTimeout) ?_ (fun _ _ => trivial)
  intro s action t traced (_ : True) taken
  have step := nodeStep_step taken
  exact ⟨acksHandled_step traced step, traced_step traced step⟩

theorem not_handled (found : s.requests[index]? = some request)
    (original : s.runtime.tasks[index]?.map Admission.role = some .original)
    (unstarted : ∀ call ∈ s.callOf request, call ∉ s.runner.started) : ¬ Handled inner s (.replied index record) := by
  rintro ⟨request', task, found', known, -, -, ⟨call, own, started⟩ | ⟨refused, -⟩ | ⟨owner, duplicate⟩⟩
  · cases found.symm.trans found'
    exact unstarted call own started
  · rw [known] at original
    cases refused.symm.trans (Option.some.inj original)
  · rw [known] at original
    rw [Option.some.inj original] at duplicate
    rcases duplicate with role | role | role <;> cases role

def keyedInner : Inner where
  actorId := some ⟨⟨1⟩, 1, ⟨"acme", "docs", "1.0.0"⟩⟩
  acl := none
  hasCredentialState := true
  hasDispatchScheduler := true
  conflictKeys := ⟨[("doc.Docs.Update", ⟨.sender, none⟩)]⟩
  decodeEnvelope := fun payload =>
    match payload with
    | [1] => some ⟨"doc.Docs.Update", none, none, some 1, "r1", 60000⟩
    | [2] => some ⟨"doc.Docs.Update", none, none, some 1, "r2", 60000⟩
    | _ => none
  decodeActrId := fun _ => none

def recordOf (payload : UInt8) : MessageRecord where
  id := 0
  sender := []
  payload := [payload]
  priority := .normal
  createdAt := ⟨2026, 0, 0, 0, by decide, by decide, by decide, by decide⟩
  status := .inflight

def takes (payload : UInt8) (index : Nat) : List NodeAction :=
  [.enter, .dequeue [recordOf payload], .next 0 true, .others (.schedule (.acquire 0)),
    .others (.schedule (.send 0)), .admitted, .leaveBatch, .others (.schedule .received), .others (.start index),
    .others (.run (.callAdmitted index)), .others (.run (.send index))]

def replies (index : Nat) : List NodeAction :=
  [.others (.complete 0), .others (.resolve index 0), .reply index]

def panics : List NodeAction :=
  [.others (.run .receive), .others (.run (.pollInflight (.panicked "index out of bounds"))), .others (.run (.resume 0))]

theorem unhandled_messages_are_acknowledged :
    (∃ s, Machine.exec (NodeState.step keyedInner) (.start 2 .interleaved false)
    (takes 1 0 ++ panics ++ replies 0) = some s ∧
      s.runner.loop = .exited ∧ s.dequeued = [recordOf 1] ∧
      ∃ t, Machine.exec (NodeState.step keyedInner) s (takes 2 1 ++ replies 1) = some t ∧
        t.acks = [.replied 0 (recordOf 1), .replied 1 (recordOf 2)] ∧ t.runner.started = [0] ∧
        ¬ Handled keyedInner t (.replied 1 (recordOf 2))) ∧
    ∃ s, Machine.exec (NodeState.step keyedInner) (.start 2 .interleaved false)
        [.enter, .dequeue [recordOf 3], .next 0 false] = some s ∧
      s.acks = [.undecodable (recordOf 3)] ∧ ¬ Handled keyedInner s (.undecodable (recordOf 3)) := by
  constructor
  · obtain ⟨s, before, exited, dequeued, later⟩ : ∃ s, Machine.exec (NodeState.step keyedInner)
        (.start 2 .interleaved false) (takes 1 0 ++ panics ++ replies 0) = some s ∧
        s.runner.loop = .exited ∧ s.dequeued = [recordOf 1] ∧
        (Machine.exec (NodeState.step keyedInner) s (takes 2 1 ++ replies 1)).any (fun t =>
          t.acks = [.replied 0 (recordOf 1), .replied 1 (recordOf 2)] ∧ t.runner.started = [0] ∧
          t.requests[1]? = some ⟨some (recordOf 2), .job 1, true⟩ ∧
          t.runtime.tasks[1]?.map Admission.role = some .original ∧ t.jobs[1]?.bind Job.call = some 1) = true :=
      Machine.exec_of_any (by decide +kernel)
    obtain ⟨t, after, acks, started, found, original, own⟩ := Machine.exec_of_any later
    refine ⟨s, before, exited, dequeued, t, after, acks, started, not_handled found original ?_⟩
    intro call called
    cases own.symm.trans called
    rw [started]
    decide
  · obtain ⟨s, run, acks, deadLetters⟩ : ∃ s, Machine.exec (NodeState.step keyedInner) (.start 2 .interleaved false)
        [.enter, .dequeue [recordOf 3], .next 0 false] = some s ∧
        s.acks = [.undecodable (recordOf 3)] ∧ s.deadLetters = [] := Machine.exec_of_any (by decide +kernel)
    refine ⟨s, run, acks, ?_⟩
    rintro ⟨-, stored⟩
    rw [deadLetters] at stored
    cases stored

end Actr.Proof.Lifecycle
