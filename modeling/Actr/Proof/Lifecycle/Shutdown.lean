import Actr.Proof.Dispatch.SchedulerDrain
import Actr.Proof.Lifecycle.StopOrder

/-! # Graceful shutdown -/

namespace Actr.Proof.Lifecycle
open Actr.Protocol Hyper.Lifecycle Hyper.Dispatch Hyper.Executor Library Actr.Mailbox
open Actr.Proof.Executor (Over Protected poisonous)

variable {core : Core} {result : ActorResult Bytes} {action : NodeAction} {ticket : Nat} {request : Request}
variable {job : Job} {call index : Nat} {change : CoreAction}

/-! ## Calls of messages and jobs -/

section Core

variable {inner : Inner} {budget : Nat} {s t : Core} {action : CoreAction}

def Guarded (s : Core) (call : Nat) : Prop :=
  (∃ (index : Nat) (request : Request), s.requests[index]? = some request ∧ request.record.isSome ∧
      request.path = .call call) ∨
    ∃ (ticket : Nat) (job : Job), s.jobs[ticket]? = some job ∧ job.call = some call

structure CoreOk (inner : Inner) (s : Core) : Prop where
  settled : ∀ (index : Nat) (request : Request), s.requests[index]? = some request → request.settled = true →
    ∃ task result, s.runtime.tasks[index]? = some task ∧ task.phase = .resolved result
  direct : ∀ (index : Nat) (request : Request), s.requests[index]? = some request → ∀ call, request.path = .call call →
    inner.hasDispatchScheduler = false
  admitted : ∀ (index : Nat) (request : Request), s.requests[index]? = some request → request.record.isSome →
    request.path ≠ .refused
  gated : inner.hasDispatchScheduler = false → s.jobs = []
  safe : ∀ call, Guarded s call → Protected s.runner call
  flying : ∀ (ticket : Nat) (job : Job) (call : Nat), s.jobs[ticket]? = some job → job.call = some call →
    (∃ result, job.reply = .sent result) ∨ ∃ flight ∈ s.scheduler.task.inflight, flight.job.ticket = ticket

theorem CoreOk.scheduled (ok : CoreOk inner s) (listed : s.jobs[ticket]? = some job) :
    inner.hasDispatchScheduler = true := by
  by_contra off
  rw [ok.gated (by simpa using off)] at listed
  cases listed

theorem protected_call {s t : Runner} (taken : s.step (.call .dispatch) = some t) : Protected t s.calls.length := by
  simp only [Runner.step] at taken
  split at taken <;> cases taken
  exact ⟨_, List.getElem?_concat_length, by simp [ActorCmd.isRaw], by simp [ActorCmd.isRaw]⟩

theorem guarded_came (step : CoreStep inner s action t) (guarded : Guarded t call) :
    Guarded s call ∨ call = s.runner.calls.length ∧ s.runner.step (.call .dispatch) = some t.runner := by
  rcases guarded with ⟨index, request, found, durable, path⟩ | ⟨ticket, job, found, own⟩
  · rcases request_came step found with ⟨before, old, record, path', -⟩ | ⟨-, -, calls, -⟩
    · exact .inl (.inl ⟨index, before, old, by rw [record]; exact durable, path'.trans path⟩)
    · exact .inr (calls call path).2
  · cases step with
    | admits _ _ _ admits =>
      cases admits with
      | job =>
        rcases Slots.of_snoc found with old | ⟨-, rfl⟩
        · exact .inl (.inr ⟨ticket, job, old, own⟩)
        · cases own
      | answered | call | refused => exact .inl (.inr ⟨ticket, job, found, own⟩)
    | starts before flying owns moved =>
      rcases Slots.of_set found with ⟨rfl, rfl⟩ | ⟨-, old⟩
      · cases own
        exact .inr ⟨rfl, moved⟩
      · exact .inl (.inr ⟨ticket, job, old, own⟩)
    | completes flying listed =>
      rcases Slots.of_set found with ⟨rfl, rfl⟩ | ⟨-, old⟩
      · exact .inl (.inr ⟨_, _, listed, own⟩)
      · exact .inl (.inr ⟨ticket, job, old, own⟩)
    | resolves | settles | schedules | runs => exact .inl (.inr ⟨ticket, job, found, own⟩)

/-- A guarded call that is under way finds the intake open and the runner there, and it is not dropped. -/
def Unhindered (s : Core) (action : CoreAction) : Prop :=
  ∀ call, Guarded s call → ∀ entry, s.runner.calls[call]? = some entry → Runner.isActive entry = true →
    s.runner.intakeOpen = true ∧ s.runner.loop ≠ .exited ∧ action ≠ .run (.drop call)

theorem safe_step (ok : CoreOk inner s) (linked : Linked inner budget s) (step : CoreStep inner s action t)
    (unhindered : Unhindered s action) : ∀ call, Guarded t call → Protected t.runner call := by
  intro call guarded
  rcases guarded_came step guarded with before | ⟨rfl, moved⟩
  · rcases runner_step step with same | ⟨change, taken, origin⟩
    · rw [same]
      exact ok.safe call before
    · refine Executor.protected_step linked.runner taken (ok.safe call before) ?_ ?_
      · intro entry found entering
        exact (unhindered call before entry found (by rw [Runner.isActive, entering])).1
      · intro entry found active
        obtain ⟨-, running, kept⟩ := unhindered call before entry found active
        refine ⟨running, ?_⟩
        rintro rfl
        rcases origin with rfl | ⟨called, -⟩
        · exact kept rfl
        · cases called
  · exact protected_call moved

theorem flying_step (ok : CoreOk inner s) (linked : Linked inner budget s) (step : CoreStep inner s action t) :
    ∀ (ticket : Nat) (job : Job) (call : Nat), t.jobs[ticket]? = some job → job.call = some call →
      (∃ result, job.reply = .sent result) ∨ ∃ flight ∈ t.scheduler.task.inflight, flight.job.ticket = ticket := by
  intro ticket job call found own
  cases step with
  | admits _ _ _ admits =>
    cases admits with
    | job _ _ _ _ _ moved =>
      rcases Slots.of_snoc found with old | ⟨-, rfl⟩
      · cases Dispatch.schedulerStep_step moved with
        | refused | submits => exact ok.flying ticket job call old own
      · cases own
    | answered | call | refused => exact ok.flying ticket job call found own
  | schedules scheduled =>
    refine (ok.flying ticket job call found own).imp_right ?_
    rintro ⟨flight, flying, same⟩
    obtain ⟨later, flying, job'⟩ := scheduled.flies.remain flight.job ⟨flight, flying, rfl⟩
    exact ⟨later, flying, by rw [job']; exact same⟩
  | starts before flying owns =>
    rcases Slots.of_set found with ⟨rfl, rfl⟩ | ⟨-, old⟩
    · exact .inr ⟨_, flying, owns⟩
    · exact ok.flying ticket job call old own
  | @completes index _ flight _ result _ flying listed _ _ moved =>
    rcases Slots.of_set found with ⟨rfl, rfl⟩ | ⟨other, old⟩
    · exact .inl ⟨result, rfl⟩
    · refine (ok.flying ticket job call old own).imp_right ?_
      rintro ⟨wing, wings, rfl⟩
      rcases flight_completed linked.scheduler.task flying moved wings with rfl | still
      · exact absurd rfl other
      · exact ⟨wing, still, rfl⟩
  | resolves | settles | runs => exact ok.flying ticket job call found own

theorem settled_step (ok : CoreOk inner s) (step : CoreStep inner s action t) :
    ∀ (index : Nat) (request : Request), t.requests[index]? = some request → request.settled = true →
      ∃ task result, t.runtime.tasks[index]? = some task ∧ task.phase = .resolved result := by
  intro index request found settled
  cases step with
  | admits tasks _ _ admits =>
    cases admits with
    | answered | call | refused | job =>
      rcases Slots.of_snoc found with old | ⟨-, rfl⟩
      · obtain ⟨task, result, known, resolved⟩ := ok.settled index request old settled
        exact ⟨task, result, by rw [tasks]; exact Slots.snoc known, resolved⟩
      · cases settled
  | @resolves _ place task result runtime resolves =>
    obtain ⟨before, earlier, known, resolved⟩ := ok.settled index request found settled
    obtain ⟨known', ⟨dispatched, tasks⟩, -⟩ := resolves
    by_cases same : index = place
    · subst same
      exact ⟨_, result, by rw [tasks]; exact Slots.set_self known', rfl⟩
    · exact ⟨before, earlier, by rw [tasks, List.getElem?_set_ne (Ne.symm same)]; exact known, resolved⟩
  | settles own known unsettled resolved =>
    rcases Slots.of_set found with ⟨rfl, rfl⟩ | ⟨-, old⟩
    · exact ⟨_, _, known, resolved⟩
    · exact ok.settled index request old settled
  | schedules | starts | completes | runs => exact ok.settled index request found settled

theorem coreOk_step (ok : CoreOk inner s) (linked : Linked inner budget s) (step : CoreStep inner s action t)
    (unhindered : Unhindered s action)
    (isOpen : ∀ record callerId envelope now, action = .incoming (some record) callerId envelope now →
      s.scheduler.admission = true) : CoreOk inner t := by
  constructor
  case settled => exact settled_step ok step
  case direct =>
    intro index request found call path
    rcases request_came step found with ⟨before, old, -, path', -⟩ | ⟨-, -, calls, -⟩
    · exact ok.direct index before old call (path'.trans path)
    · exact (calls call path).1
  case admitted =>
    intro index request found durable refused
    rcases request_came step found with ⟨before, old, record, path, -⟩ | ⟨-, -, -, shut, callerId, envelope, now, rfl⟩
    · exact ok.admitted index before old (by rw [record]; exact durable) (path.trans refused)
    · obtain ⟨record, own⟩ := Option.isSome_iff_exists.mp durable
      have live := isOpen record callerId envelope now (by rw [own])
      cases live.symm.trans ((shut refused).elim id linked.gates.cancelled)
  case gated =>
    intro gate
    have none := ok.gated gate
    cases step with
    | admits _ _ _ admits =>
      cases admits with
      | job on => cases gate.symm.trans on
      | answered | call | refused => exact none
    | starts listed | completes _ listed => cases gate.symm.trans (ok.scheduled listed)
    | resolves | settles | schedules | runs => exact none
  case safe => exact safe_step ok linked step unhindered
  case flying => exact flying_step ok linked step

def newRecords : CoreAction → List MessageRecord
  | .incoming record _ _ _ => record.toList
  | _ => []

theorem newRecords_eq_nil (other : ∀ record callerId envelope now, action ≠ .incoming record callerId envelope now) :
    newRecords action = [] := by
  cases action with
  | incoming record callerId envelope now => exact absurd rfl (other record callerId envelope now)
  | _ => rfl

theorem records_step (step : CoreStep inner s action t) :
    t.requests.filterMap Request.record = s.requests.filterMap Request.record ++ newRecords action := by
  cases step with
  | @admits record _ _ _ _ _ _ _ _ admits =>
    cases admits with
    | answered | call | refused | job => cases record <;> simp [newRecords]
  | resolves _ other => rw [newRecords_eq_nil other, List.append_nil]
  | @settles index request _ _ found =>
    have same : (s.requests.set index { request with settled := true }).map Request.record =
        s.requests.map Request.record := Slots.map_set found rfl
    simpa [newRecords, List.filterMap_map] using congrArg (List.filterMap id) same
  | schedules | starts | completes | runs => exact (List.append_nil _).symm

end Core

/-! ## The mailbox loop and the gates -/

variable {inner : Inner} {budget : Nat} {s t : NodeState}

def dispatchable (inner : Inner) (record : MessageRecord) : Bool :=
  match inner.decodeEnvelope record.payload with
  | some envelope => (dispatchExpectsResponse envelope.direction).isSome
  | none => false

def remaining : MailboxLoop → List MessageRecord
  | .handling rest _ => rest
  | _ => []

structure Closing (inner : Inner) (s : NodeState) : Prop where
  admission : s.admissionOpen = true ↔ rank s.coordinator ≤ 1
  free : 2 ≤ rank s.coordinator → s.loop.holdsGuard = false
  scheduler : rank s.coordinator ≤ 2 → s.scheduler.admission = true
  joined : inner.hasDispatchScheduler = true → 4 ≤ rank s.coordinator → s.scheduler.exited = true

structure Booked (inner : Inner) (s : NodeState) : Prop where
  records : s.requests.filterMap Request.record ++ (remaining s.loop).filter (dispatchable inner) =
    s.dequeued.filter (dispatchable inner)
  inline : inner.hasDispatchScheduler = false → ∀ (index : Nat) (request : Request), s.requests[index]? = some request →
    request.record.isSome → request.settled = false → ∃ rest, s.loop = .handling rest (some index)

structure Orderly (inner : Inner) (budget : Nat) (s : NodeState) : Prop where
  traced : Traced inner budget s
  stop : StopOk s.runner s.coordinator
  core : CoreOk inner s.toCore
  closing : Closing inner s
  booked : Booked inner s

theorem Closing.early (closing : Closing inner s) (holds : s.loop.holdsGuard = true) : rank s.coordinator ≤ 1 := by
  by_contra late
  have free := closing.free (by omega)
  rw [holds] at free
  cases free

theorem returned_inactive {entry : Call} (returned : core.returned call = some result)
    (found : core.runner.calls[call]? = some entry) : Runner.isActive entry = false := by
  obtain ⟨entry', found', phase⟩ := returned_eq.mp returned
  cases found.symm.trans found'
  rw [Runner.isActive, phase]

theorem Orderly.early (orderly : Orderly inner budget s) {entry : Call} (guarded : Guarded s.toCore call)
    (found : s.runner.calls[call]? = some entry) (active : Runner.isActive entry = true) :
    rank s.coordinator ≤ 3 ∧ call ∈ s.owned := by
  have linked := orderly.traced.linked
  have busy {result : ActorResult Bytes} (returned : s.returned call = some result) : False := by
    cases active.symm.trans (returned_inactive returned found)
  rcases guarded with ⟨index, request, listed, durable, path⟩ | ⟨ticket, job, listed, own⟩
  · constructor
    · have gate := orderly.core.direct index request listed call path
      cases settled : request.settled with
      | true =>
        obtain ⟨task, result, known, resolved⟩ := orderly.core.settled index request listed settled
        have fine := linked.requests index request task listed known
        rw [RequestOk, path] at fine
        obtain ⟨-, -, phase | ⟨result', -, returned⟩⟩ := fine
        · cases resolved.symm.trans phase
        · exact (busy returned).elim
      | false =>
        obtain ⟨rest, loop⟩ := orderly.booked.inline gate index request listed durable settled
        have soon := orderly.closing.early (by rw [loop]; rfl)
        omega
    · have own : s.callOf request = some call := by rw [Core.callOf, path]
      simp only [NodeState.owned, List.mem_append]
      exact .inl (.inl (List.mem_filterMap.mpr ⟨request, List.mem_of_getElem? listed, own⟩))
  · constructor
    · rcases orderly.core.flying ticket job call listed own with ⟨result, reply⟩ | ⟨flight, flying, -⟩
      · obtain ⟨call', own', returned⟩ := (linked.jobs ticket job listed).2.1 result reply
        cases own.symm.trans own'
        exact (busy returned).elim
      · by_contra late
        have exited := orderly.closing.joined (orderly.core.scheduled listed) (by omega)
        have idle := (linked.scheduler.finished exited).2
        rw [idle] at flying
        cases flying
    · simp only [NodeState.owned, List.mem_append]
      exact .inl (.inr (List.mem_filterMap.mpr ⟨job, List.mem_of_getElem? listed, own⟩))

theorem Orderly.unhindered (orderly : Orderly inner budget s)
    (kept : ∀ call ∈ s.owned, change ≠ .run (.drop call)) : Unhindered s.toCore change := by
  intro call guarded entry found active
  obtain ⟨soon, owned⟩ := orderly.early guarded found active
  exact ⟨orderly.stop.intake.mpr (by omega), orderly.stop.running (by omega), kept call owned⟩

theorem Closing.scheduler_step (closing : Closing inner s)
    (step : CoreStep inner s.toCore change core) (other : change ≠ .schedule .shutdown) :
    (rank s.coordinator ≤ 2 → core.scheduler.admission = true) ∧
      (inner.hasDispatchScheduler = true → 4 ≤ rank s.coordinator → core.scheduler.exited = true) := by
  obtain ⟨exits, shuts⟩ := Lifecycle.scheduler_step step
  exact ⟨fun soon => (shuts other).trans (closing.scheduler soon), fun gate late => exits (closing.joined gate late)⟩

theorem Closing.later (closing : Closing inner s) (admission : t.admissionOpen = s.admissionOpen)
    (loop : t.loop = s.loop) (late : 2 ≤ rank s.coordinator) (next : 3 ≤ rank t.coordinator)
    (joined : inner.hasDispatchScheduler = true → 4 ≤ rank t.coordinator → t.scheduler.exited = true) :
    Closing inner t := by
  constructor
  case admission =>
    rw [admission, closing.admission]
    omega
  case free =>
    intro _
    rw [loop]
    exact closing.free late
  case scheduler =>
    intro soon
    omega
  case joined => exact joined

theorem closing_stops (closing : Closing inner s) (stops : Stops inner s t) : Closing inner t := by
  cases stops with
  | begins phase =>
    have admission := closing.admission
    simp only [phase, rank] at admission
    exact ⟨by simpa [rank] using admission, by simp [rank], fun _ => closing.scheduler (by simp [phase, rank]),
      by simp [rank]⟩
  | quiesces phase free =>
    exact ⟨by simp [rank], fun _ => free, fun _ => closing.scheduler (by simp [phase, rank]), by simp [rank]⟩
  | schedulerCloses phase =>
    exact closing.later rfl rfl (by simp [phase, rank]) (by simp [rank]) (by simp [rank])
  | schedulerAbsent phase gate =>
    exact closing.later rfl rfl (by simp [phase, rank]) (by simp [rank]) (by simp [gate])
  | schedulerJoined phase exited =>
    exact closing.later rfl rfl (by simp [phase, rank]) (by simp [rank]) fun _ _ => exited
  | intakeCloses phase moved | callsStop phase moved | closesAgain phase moved | callsShutdown phase moved =>
    obtain ⟨runner, -, rfl⟩ := Option.map_eq_some_iff.mp moved
    exact closing.later rfl rfl (by simp [phase, rank]) (by simp [rank]) fun gate _ =>
      closing.joined gate (by simp [phase, rank])
  | stopped phase | joined phase =>
    exact closing.later rfl rfl (by simp [phase, rank]) (by simp [rank]) fun gate _ =>
      closing.joined gate (by simp [phase, rank])

theorem closing_step (closing : Closing inner s) (linked : Linked inner budget s.toCore)
    (step : NodeStep inner s action t) : Closing inner t := by
  have held (holds : s.loop.holdsGuard = true) {P : Prop} (late : 2 ≤ rank s.coordinator) : P := by
    have soon := closing.early holds
    omega
  cases step with
  | enters selecting isOpen =>
    have soon := closing.admission.mp isOpen
    exact { closing with free := fun late => by simp only at late; omega }
  | shutOut | givesUp | leaves | ends => exact { closing with free := fun _ => rfl }
  | dequeues dequeuing => exact { closing with free := held (by rw [dequeuing]; rfl) }
  | undecodable handling | misdirected handling | admits handling =>
    exact { closing with free := held (by rw [handling]; rfl) }
  | handles handling _ _ moved =>
    obtain ⟨admission, joined⟩ := closing.scheduler_step (coreStep_step linked moved) nofun
    exact ⟨closing.admission, held (by rw [handling]; rfl), admission, joined⟩
  | replies found moved =>
    obtain ⟨admission, joined⟩ := closing.scheduler_step (coreStep_step linked moved) nofun
    refine ⟨closing.admission, ?_, admission, joined⟩
    intro late
    have free := closing.free late
    cases loop : s.loop with
    | handling | dequeuing =>
      rw [loop] at free
      cases free
    | selecting | ended => simp [NodeState.reply, loop, MailboxLoop.holdsGuard]
  | stops stops => exact closing_stops closing stops
  | others others moved =>
    obtain ⟨admission, joined⟩ := closing.scheduler_step (coreStep_step linked moved) (by
      rintro rfl
      cases others)
    exact ⟨closing.admission, closing.free, admission, joined⟩

/-! ## The books of the loop -/

theorem Booked.turn (booked : Booked inner s) {loop : MailboxLoop} {dequeued : List MessageRecord}
    (idle : ∀ rest index, s.loop ≠ .handling rest (some index))
    (records : (remaining s.loop).filter (dispatchable inner) ++ (dequeued.filter (dispatchable inner)) =
      (remaining loop).filter (dispatchable inner))
    (core : t.toCore = s.toCore) (next : t.loop = loop) (log : t.dequeued = s.dequeued ++ dequeued) :
    Booked inner t := by
  constructor
  case records => rw [core, next, log, ← records, List.filter_append, ← booked.records, List.append_assoc]
  case inline =>
    rw [core]
    intro gate index request found durable unsettled
    obtain ⟨rest, waits⟩ := booked.inline gate index request found durable unsettled
    exact absurd waits (idle rest index)

theorem Booked.waits (booked : Booked inner s) (step : CoreStep inner s.toCore change core)
    (gate : inner.hasDispatchScheduler = false) (found : core.requests[index]? = some request)
    (durable : request.record.isSome) (unsettled : request.settled = false) :
    (∃ rest, s.loop = .handling rest (some index)) ∨
      index = s.requests.length ∧ ∃ callerId envelope now, change = .incoming request.record callerId envelope now := by
  rcases request_came step found with ⟨before, old, record, -, same | ⟨-, settled⟩⟩ | ⟨last, -, -, -, incoming⟩
  · exact .inl (booked.inline gate index before old (by rw [record]; exact durable) (same.trans unsettled))
  · cases settled.symm.trans unsettled
  · exact .inr ⟨last, incoming⟩

theorem booked_step (booked : Booked inner s) (linked : Linked inner budget s.toCore)
    (step : NodeStep inner s action t) : Booked inner t := by
  cases step with
  | enters idle | shutOut idle | ends idle | givesUp idle | leaves idle =>
    exact booked.turn (by rw [idle]; nofun) (by rw [idle]; rfl) rfl rfl (List.append_nil _).symm
  | @dequeues messages dequeuing =>
    refine booked.turn (by rw [dequeuing]; nofun) ?_ rfl rfl rfl
    rw [dequeuing]
    split
    · next empty => rw [empty]; rfl
    · rfl
  | undecodable handling decoded =>
    refine booked.turn (by rw [handling]; nofun) ?_ rfl rfl (List.append_nil _).symm
    simp [handling, remaining, dispatchable, decoded]
  | misdirected handling decoded direction =>
    refine booked.turn (by rw [handling]; nofun) ?_ rfl rfl (List.append_nil _).symm
    simp [handling, remaining, dispatchable, decoded, direction]
  | @handles record rest now stored expects envelope core handling decoded direction moved =>
    have step := coreStep_step linked moved
    have fits : dispatchable inner record = true := by simp [dispatchable, decoded, direction]
    constructor
    case records =>
      have records := booked.records
      rw [handling] at records
      rw [records_step step, ← records]
      simp [newRecords, remaining, fits]
    case inline =>
      intro gate index request found durable unsettled
      rcases booked.waits step gate found durable unsettled with ⟨_, waits⟩ | ⟨rfl, -⟩
      · cases handling.symm.trans waits
      · exact ⟨rest, rfl⟩
  | admits handling found gate =>
    refine ⟨by simpa [handling, remaining] using booked.records, fun off => ?_⟩
    cases gate.symm.trans off
  | @replies index request core found moved =>
    have step := coreStep_step linked moved
    constructor
    case records =>
      have same : remaining (s.reply inner index request.record).loop = remaining s.loop := by
        simp only [NodeState.reply]
        split
        · next loop =>
          rw [loop]
          split <;> rfl
        · rfl
      have none : newRecords (.settle index) = [] := rfl
      rw [records_step step, none, same, List.append_nil]
      exact booked.records
    case inline =>
      intro gate other entry found' durable unsettled
      rcases booked.waits step gate found' durable unsettled with ⟨rest, waits⟩ | ⟨-, _, _, _, no⟩
      · have different : other ≠ index := by
          rintro rfl
          obtain ⟨request', task, result, found'', -, -, -, rfl⟩ := step_settle moved
          rw [Slots.set_self found''] at found'
          cases found'
          cases unsettled
        refine ⟨rest, ?_⟩
        simp [NodeState.reply, waits, different]
      · cases no
  | stops stops =>
    cases stops with
    | schedulerCloses _ _ moved =>
      obtain ⟨scheduler, -, rfl⟩ := Option.map_eq_some_iff.mp moved
      exact { booked with }
    | intakeCloses _ moved | callsStop _ moved | closesAgain _ moved | callsShutdown _ moved =>
      obtain ⟨runner, -, rfl⟩ := Option.map_eq_some_iff.mp moved
      exact { booked with }
    | begins | quiesces | schedulerAbsent | schedulerJoined | stopped | joined => exact { booked with }
  | @others action core others moved =>
    have step := coreStep_step linked moved
    constructor
    case records =>
      have none : newRecords action = [] := by
        cases action with
        | incoming record =>
          have free : record = none := by
            simp only [NodeState.isOthers, decide_eq_true_eq] at others
            exact others.1
          rw [newRecords, free]
          rfl
        | _ => rfl
      rw [records_step step, none, List.append_nil]
      exact booked.records
    case inline =>
      intro gate index request found durable unsettled
      rcases booked.waits step gate found durable unsettled with waits | ⟨-, _, _, _, rfl⟩
      · exact waits
      · simp only [NodeState.isOthers, decide_eq_true_eq] at others
        rw [others.1] at durable
        cases durable

/-! ## The invariant -/

theorem coreOk_stops (orderly : Orderly inner budget s) (stops : Stops inner s t) : CoreOk inner t.toCore := by
  have linked := orderly.traced.linked
  have kept {change : CoreAction} {core : Core} (moved : s.toCore.step inner change = some core)
      (other : ∀ call, change ≠ .run (.drop call)) (inside : ∀ record callerId envelope now,
        change ≠ .incoming record callerId envelope now) : CoreOk inner core :=
    coreOk_step orderly.core linked (coreStep_step linked moved) (orderly.unhindered fun call _ => other call)
      fun record callerId envelope now same => absurd same (inside record callerId envelope now)
  cases stops with
  | schedulerCloses _ _ moved => exact kept moved (by simp) (by simp)
  | intakeCloses _ moved | callsStop _ moved | closesAgain _ moved | callsShutdown _ moved =>
    exact kept moved (by simp) (by simp)
  | begins | quiesces | schedulerAbsent | schedulerJoined | stopped | joined => exact orderly.core

theorem coreOk_node (orderly : Orderly inner budget s) (step : NodeStep inner s action t) :
    CoreOk inner t.toCore := by
  have linked := orderly.traced.linked
  cases step with
  | handles handling decoded direction moved =>
    refine coreOk_step orderly.core linked (coreStep_step linked moved) (orderly.unhindered (by simp)) ?_
    intro record callerId envelope now _
    have soon := orderly.closing.early (by rw [handling]; rfl)
    exact orderly.closing.scheduler (by omega)
  | replies found moved =>
    exact coreOk_step orderly.core linked (coreStep_step linked moved) (orderly.unhindered (by simp)) (by simp)
  | stops stops => exact coreOk_stops orderly stops
  | @others action core others moved =>
    refine coreOk_step orderly.core linked (coreStep_step linked moved) (orderly.unhindered ?_) ?_
    · rintro call owned rfl
      have free : call ∉ s.owned := by simpa [NodeState.isOthers] using others
      exact free owned
    · rintro record callerId envelope now rfl
      simp [NodeState.isOthers] at others
  | enters | shutOut | dequeues | givesUp | undecodable | misdirected | admits | leaves | ends => exact orderly.core

theorem orderly_step (orderly : Orderly inner budget s) (step : NodeStep inner s action t)
    (quiet : Quiet s action t) : Orderly inner budget t where
  traced := traced_step orderly.traced step
  stop := stopOk_step orderly.stop orderly.traced.linked step quiet
  core := coreOk_node orderly step
  closing := closing_step orderly.closing orderly.traced.linked step
  booked := booked_step orderly.booked orderly.traced.linked step

theorem orderly_start (inner : Inner) (budget : Nat) (mode : RunnerMode) (hasDispatchTimeout : Bool) :
    Orderly inner budget (.start budget mode hasDispatchTimeout) where
  traced := traced_start inner budget mode hasDispatchTimeout
  stop := stopOk_start mode hasDispatchTimeout
  core := by constructor <;> simp [NodeState.start, Core.start, Guarded]
  closing := by constructor <;> simp [NodeState.start, Core.start, Scheduler.spawn, rank]
  booked := by constructor <;> simp [NodeState.start, Core.start, remaining]

/-! ## Before `on_stop` -/

/-- What has happened when `on_stop` is polled. A message that was not dispatched was answered by the admission. -/
structure Drained (inner : Inner) (s : NodeState) (stop : Nat) : Prop where
  closed : s.admissionOpen = false
  records : s.requests.filterMap Request.record = s.dequeued.filter (dispatchable inner)
  handled : ∀ (index : Nat) (request : Request), s.requests[index]? = some request → request.record.isSome →
    (∃ task, s.runtime.tasks[index]? = some task ∧ Answered inner.toNode task) ∨
      ∃ call result, s.callOf request = some call ∧ (call, result) ∈ s.runner.executed
  guards : ∀ (ticket : Nat) (call : Call), s.runner.calls[ticket]? = some call → Runner.holdsGuard call = false
  sent : ∀ ticket ∈ s.runner.sent, ticket ≠ stop → (∃ result, (ticket, result) ∈ s.runner.executed) ∨
    ∃ call, s.runner.calls[ticket]? = some call ∧ call.phase = .dropped
  first : ∀ result, (stop, result) ∉ s.runner.executed

structure StopsInOrder (inner : Inner) (s : NodeState) (action : NodeAction) (t : NodeState) : Prop where
  closed : s.admissionOpen = false → t.dequeued = s.dequeued
  passed : ∀ (ticket : Nat) (call : Call), s.runner.calls[ticket]? = some call → Runner.holdsGuard call = true →
    ∃ after, t.runner.calls[ticket]? = some after ∧
      (Runner.holdsGuard after = true ∨ ticket ∈ t.runner.sent ∨ after.phase = .dropped)
  replied : ∀ (index : Nat) (request : Request) (task : Admission) (result : ActorResult Bytes), action = .reply index →
    s.requests[index]? = some request → request.record.isSome → s.runtime.tasks[index]? = some task →
    task.phase = .resolved result →
    Answered inner.toNode task ∨ ∃ call, s.callOf request = some call ∧ (call, result) ∈ s.runner.executed
  once : ∀ first second, IsStop t.runner first → IsStop t.runner second → first = second
  stops : ∀ stop, IsStop s.runner stop → t.runner.polls = s.runner.polls ++ [stop] → Drained inner s stop
  last : ∀ ticket stop, t.runner.polls = s.runner.polls ++ [ticket] → stop ∈ s.runner.started → IsStop s.runner stop →
    ticket = stop ∨ IsShutdown s.runner ticket

theorem executed_of_returned (orderly : Orderly inner budget s) (guarded : Guarded s.toCore call)
    (returned : s.returned call = some result) : (call, result) ∈ s.runner.executed := by
  obtain ⟨entry, found, -, returns⟩ := orderly.core.safe call guarded
  obtain ⟨entry', found', phase⟩ := returned_eq.mp returned
  cases found.symm.trans found'
  exact returns result phase

theorem executed_of_sent (orderly : Orderly inner budget s) (path : request.path = .job ticket)
    (listed : s.jobs[ticket]? = some job) (reply : job.reply = .sent result) :
    ∃ call, s.callOf request = some call ∧ (call, result) ∈ s.runner.executed := by
  obtain ⟨call, own, returned⟩ := (orderly.traced.linked.jobs ticket job listed).2.1 result reply
  refine ⟨call, ?_, executed_of_returned orderly (.inr ⟨ticket, job, listed, own⟩) returned⟩
  rw [Core.callOf, path]
  simp [listed, own]

theorem executed_of_resolved {task : Admission} (orderly : Orderly inner budget s)
    (found : s.requests[index]? = some request) (durable : request.record.isSome)
    (known : s.runtime.tasks[index]? = some task) (resolved : task.phase = .resolved result) :
    Answered inner.toNode task ∨ ∃ call, s.callOf request = some call ∧ (call, result) ∈ s.runner.executed := by
  have fine := orderly.traced.linked.requests index request task found known
  unfold RequestOk at fine
  split at fine
  · exact .inl fine
  · next path => exact absurd path (orderly.core.admitted index request found durable)
  · next call path =>
    obtain ⟨-, -, phase | ⟨result', phase, returned⟩⟩ := fine
    · cases resolved.symm.trans phase
    · cases resolved.symm.trans phase
      refine .inr ⟨call, by rw [Core.callOf, path], executed_of_returned orderly ?_ returned⟩
      exact .inl ⟨index, request, found, durable, path⟩
  · next ticket path =>
    obtain ⟨-, job, listed, phase | ⟨result', phase, reply⟩⟩ := fine
    · cases resolved.symm.trans phase
    · cases resolved.symm.trans phase
      exact .inr (executed_of_sent orderly path listed reply)

theorem sent_of_exited (linked : Linked inner budget core) (exited : core.scheduler.exited = true)
    (listed : core.jobs[ticket]? = some job) : ∃ result, job.reply = .sent result := by
  obtain ⟨shut, idle⟩ := linked.scheduler.finished exited
  have closed : core.scheduler.receiverClosed = true := by
    refine (linked.scheduler.stopped shut).resolve_right ?_
    rw [linked.gates.alive]
    nofun
  have quiet := linked.gates.submitters (linked.gates.cancelled (linked.gates.closed closed))
  have issued : ticket ∈ Dispatch.tickets core.scheduler :=
    linked.gates.issued ticket (linked.tickets ▸ (List.getElem?_eq_some_iff.mp listed).1)
  rw [Dispatch.tickets, quiet, List.map_nil, List.append_nil] at issued
  obtain ⟨entry, member, rfl⟩ := List.mem_map.mp issued
  have once := Dispatch.exited_started_once linked.scheduler closed exited entry member
  have started : entry ∈ core.scheduler.task.started := List.count_pos_iff.mp (by omega)
  rcases linked.started entry started with ⟨flight, flying, -⟩ | ⟨job', result, listed', reply⟩
  · rw [idle] at flying
    cases flying
  · cases listed.symm.trans listed'
    exact ⟨result, reply⟩

theorem handled_before_stop (orderly : Orderly inner budget s) (late : rank s.coordinator = 6)
    (found : s.requests[index]? = some request) (durable : request.record.isSome) :
    (∃ task, s.runtime.tasks[index]? = some task ∧ Answered inner.toNode task) ∨
      ∃ call result, s.callOf request = some call ∧ (call, result) ∈ s.runner.executed := by
  have linked := orderly.traced.linked
  have inside := (List.getElem?_eq_some_iff.mp found).1
  rw [linked.tasks] at inside
  have known : s.runtime.tasks[index]? = some s.runtime.tasks[index] := List.getElem?_eq_getElem inside
  cases path : request.path with
  | answered =>
    have fine := linked.requests index request _ found known
    rw [RequestOk, path] at fine
    exact .inl ⟨_, known, fine⟩
  | refused => exact absurd path (orderly.core.admitted index request found durable)
  | call call =>
    have settled : request.settled = true := by
      by_contra unsettled
      obtain ⟨rest, waits⟩ := orderly.booked.inline (orderly.core.direct index request found call path) index request
        found durable (by simpa using unsettled)
      have soon := orderly.closing.early (by rw [waits]; rfl)
      omega
    obtain ⟨task, result, known, resolved⟩ := orderly.core.settled index request found settled
    rcases executed_of_resolved orderly found durable known resolved with answered | ⟨call, own, executed⟩
    · exact .inl ⟨task, known, answered⟩
    · exact .inr ⟨call, result, own, executed⟩
  | job =>
    have fine := linked.requests index request _ found known
    rw [RequestOk, path] at fine
    obtain ⟨-, job, listed, -⟩ := fine
    have exited := orderly.closing.joined (orderly.core.scheduled listed) (by omega)
    obtain ⟨result, reply⟩ := sent_of_exited linked exited listed
    obtain ⟨call, own, executed⟩ := executed_of_sent orderly path listed reply
    exact .inr ⟨call, result, own, executed⟩

theorem drained (orderly : Orderly inner budget s) {stop : Nat} (isStop : IsStop s.runner stop)
    (polled : s.runner.loop = .running stop ∨ stop ∈ s.runner.inflight) : Drained inner s stop := by
  obtain ⟨late, ended⟩ := orderly.stop.alone isStop polled
  have sound := orderly.stop.sound
  constructor
  case closed =>
    by_contra isOpen
    have soon := orderly.closing.admission.mp (by simpa using isOpen)
    omega
  case records =>
    have free := orderly.closing.free (by omega)
    have none : remaining s.loop = [] := by
      cases loop : s.loop with
      | handling =>
        rw [loop] at free
        cases free
      | selecting | dequeuing | ended => rfl
    have records := orderly.booked.records
    rw [none, List.filter_nil, List.append_nil] at records
    exact records
  case handled => exact fun index request found durable => handled_before_stop orderly late found durable
  case guards => exact sound.settled.guards (orderly.stop.shut (by omega))
  case sent =>
    intro ticket member other
    obtain ⟨call, found, closed⟩ := (ended ticket member).resolve_left other
    cases reply : call.reply with
    | «open» => exact absurd reply closed
    | sent result => exact .inl ⟨result, (sound.settled.executed ticket result).mpr ⟨call, found, reply⟩⟩
    | dropped => exact .inr ⟨call, found, sound.settled.gone (orderly.stop.running (by omega)) ticket call found reply⟩
  case first => exact fun result => not_executed sound (held_of_polled polled)

/-! ## Every step -/

theorem node_runner (linked : Linked inner budget s.toCore) (step : NodeStep inner s action t) :
    t.runner = s.runner ∨ ∃ change, s.runner.step change = some t.runner := by
  rcases core_step step with same | ⟨change, moved, -⟩
  · exact .inl (congrArg Core.runner same)
  · rcases runner_step (coreStep_step linked moved) with same | ⟨change, taken, -⟩
    · exact .inl same
    · exact .inr ⟨change, taken⟩

theorem polled_of_polls (orderly : Orderly inner budget s) (step : NodeStep inner s action t)
    (polls : t.runner.polls = s.runner.polls ++ [ticket]) :
    s.runner.loop = .running ticket ∨ ticket ∈ s.runner.inflight := by
  rcases node_runner orderly.traced.linked step with same | ⟨change, taken⟩
  · rw [same] at polls
    simp at polls
  · rcases (Executor.facts_step orderly.stop.sound.ordered taken).polls with ⟨same, -⟩ | ⟨polled, subject, -, log, -⟩
    · rw [same] at polls
      simp at polls
    · have same : polled = ticket := by simpa using log.symm.trans polls
      exact same ▸ subject

theorem sent_send {s t : Runner} {call : Call} (taken : s.step (.send ticket) = some t)
    (found : s.calls[ticket]? = some call) (sending : call.phase = .sending) (running : s.loop ≠ .exited) :
    ticket ∈ t.sent := by
  simp only [Runner.step, found, Option.bind_some, Runner.send, sending, if_true, if_neg running] at taken
  obtain ⟨-, rfl⟩ := Machine.of_guard taken
  exact List.mem_append_right _ List.mem_cons_self

theorem passed_step (orderly : Orderly inner budget s) (step : NodeStep inner s action t) {call : Call}
    (found : s.runner.calls[ticket]? = some call) (guard : Runner.holdsGuard call = true) :
    ∃ after, t.runner.calls[ticket]? = some after ∧
      (Runner.holdsGuard after = true ∨ ticket ∈ t.runner.sent ∨ after.phase = .dropped) := by
  have sound := orderly.stop.sound
  obtain ⟨sending, raw⟩ : call.phase = .sending ∧ ¬ call.command.isRaw := of_decide_eq_true guard
  have running : s.runner.loop ≠ .exited := by
    -- A runner that has ended has its intake closed, and then nobody holds a guard.
    intro exited
    obtain ⟨shutdown, has⟩ := orderly.stop.exited exited
    have late := orderly.stop.shuts shutdown has
    cases guard.symm.trans (sound.settled.guards (orderly.stop.shut (by omega)) ticket call found)
  rcases node_runner orderly.traced.linked step with same | ⟨change, taken⟩
  · exact ⟨call, by rw [same]; exact found, .inl guard⟩
  · obtain ⟨after, later, evolves, phase⟩ := Executor.phase_step sound taken found
    refine ⟨after, later, ?_⟩
    rcases phase with same | changes
    · exact .inl (decide_eq_true ⟨same.trans sending, by rw [evolves.command]; exact raw⟩)
    generalize arrived : after.phase = next at changes
    cases changes with
    | admitted entering => cases sending.symm.trans entering
    | returned done =>
      cases done with
      | refused entering | answered entering | terminated entering => cases sending.symm.trans entering
      | unsent _ exited => exact absurd exited running
    | sent _ _ same =>
      subst same
      exact .inr (.inl (sent_send taken found sending running))
    | dropped => exact .inr (.inr rfl)

theorem closed_step (closing : Closing inner s) (step : NodeStep inner s action t)
    (closed : s.admissionOpen = false) : t.dequeued = s.dequeued := by
  cases step with
  | dequeues dequeuing =>
    have isOpen := closing.admission.mpr (closing.early (by rw [dequeuing]; rfl))
    cases closed.symm.trans isOpen
  | stops stops => cases stops <;> rfl
  | enters | shutOut | givesUp | undecodable | misdirected | handles | admits | leaves | ends | replies | others => rfl

theorem stopsInOrder_step (orderly : Orderly inner budget s) (step : NodeStep inner s action t)
    (quiet : Quiet s action t) : StopsInOrder inner s action t := by
  have sound := orderly.stop.sound
  constructor
  case closed => exact closed_step orderly.closing step
  case passed => exact fun ticket call found guard => passed_step orderly step found guard
  case replied =>
    intro index request task result _ found durable known resolved
    exact executed_of_resolved orderly found durable known resolved
  case once => exact (orderly_step orderly step quiet).stop.once
  case stops => exact fun stop isStop polls => drained orderly isStop (polled_of_polls orderly step polls)
  case last =>
    intro ticket stop polls started isStop
    have held := held_of_polled (polled_of_polls orderly step polls)
    rcases orderly.stop.done stop started isStop ticket (sound.owned.within ticket held) with same | ended | shutdown
    · exact .inl same
    · obtain ⟨call, found, closed⟩ := ended
      exact absurd ((sound.owned.each ticket call found).held held).1 closed
    · exact .inr shutdown

theorem graceful_shutdown_is_ordered (inner : Inner) (budget : Nat) (mode : RunnerMode) (hasDispatchTimeout : Bool)
    (actions : List NodeAction)
    (quiet : Machine.Along (NodeState.step inner) Quiet (.start budget mode hasDispatchTimeout) actions) :
    Machine.Along (NodeState.step inner) (StopsInOrder inner) (.start budget mode hasDispatchTimeout) actions := by
  refine Machine.along_of_guarded (orderly_start inner budget mode hasDispatchTimeout) ?_ quiet
  intro s action t orderly quiet taken
  have step := nodeStep_step taken
  exact ⟨stopsInOrder_step orderly step quiet, orderly_step orderly step quiet⟩

/-! ## Runs to the end -/

def executes : List NodeAction :=
  [.others (.run .receive), .others (.run (.pollInflight (.completed (.ok [7])))), .others (.run (.resume 0))]

def stopsIntake : List NodeAction :=
  [.stop, .stop, .stop, .others (.schedule .cancelObserved), .others (.schedule .exit), .stop, .stop, .stop]

def runsAlone (ticket : Nat) : List NodeAction :=
  [.others (.run .receive), .others (.run .drained), .others (.run (.pollRunning (.completed (.ok [])))),
    .others (.run (.resume ticket)), .stop]

def stopsAfterMessage : List NodeAction :=
  takes 1 0 ++ executes ++ replies 0 ++ stopsIntake ++ [.others (.run (.send 1))] ++ runsAlone 1 ++
    [.stop, .stop, .others (.run (.send 2))] ++ runsAlone 2

theorem graceful_shutdown_is_ordered_of_one :
    Machine.Along (NodeState.step keyedInner) Quiet (.start 2 .interleaved false) stopsAfterMessage ∧
      Machine.Along (NodeState.step keyedInner) (StopsInOrder keyedInner) (.start 2 .interleaved false) stopsAfterMessage ∧
      ∃ s, Machine.exec (NodeState.step keyedInner) (.start 2 .interleaved false) stopsAfterMessage = some s ∧
        s.coordinator = .finished ∧ s.runner.executed = [(0, .ok [7]), (1, .ok []), (2, .ok [])] := by
  have quiet : Machine.Along (NodeState.step keyedInner) Quiet (.start 2 .interleaved false) stopsAfterMessage := by
    decide +kernel
  exact ⟨quiet, graceful_shutdown_is_ordered keyedInner 2 .interleaved false stopsAfterMessage quiet,
    Machine.exec_of_any (by decide +kernel)⟩

def stopsAfterPoison : List NodeAction :=
  [.enter, .dequeue [recordOf 3], .next 0 true, .leaveBatch] ++ stopsIntake ++
    [.others (.run (.send 0)), .others (.run .receive), .others (.run .drained), .others (.run (.pollRunning .pending))]

def stopsAfterDrop : List NodeAction :=
  [.others (.run (.call .hook)), .others (.run (.callAdmitted 0)), .others (.run (.send 0)), .others (.run (.drop 0))] ++
    stopsIntake ++ [.others (.run (.send 1)), .others (.run .receive), .others (.run .receive), .others (.run .drained),
      .others (.run (.pollRunning .pending))]

def stopsSerially : List NodeAction :=
  stopsIntake ++ [.others (.run (.send 0)), .others (.run .receive),
    .others (.run (.pollRunning (.completed (.ok [])))), .others (.run (.resume 0)), .stop, .stop, .stop,
    .others (.run (.send 1)), .others (.run .receive), .others (.run (.pollRunning .pending))]

theorem shutdown_leaves_work_behind :
    (Machine.Along (NodeState.step keyedInner) Quiet (.start 2 .interleaved false) stopsAfterPoison ∧
      ∃ s, Machine.exec (NodeState.step keyedInner) (.start 2 .interleaved false) stopsAfterPoison = some s ∧
        s.dequeued = [recordOf 3] ∧ s.requests = [] ∧ s.runner.started = [0] ∧
        s.runner.calls.map Call.command = [.lifecycle .onStop]) ∧
    (Machine.Along (NodeState.step keyedInner) Quiet (.start 2 .interleaved false) stopsAfterDrop ∧
      ∃ s, Machine.exec (NodeState.step keyedInner) (.start 2 .interleaved false) stopsAfterDrop = some s ∧
        s.runner.sent = [0, 1] ∧ s.runner.started = [1] ∧ s.runner.executed = [] ∧
        s.runner.calls.map Call.command = [.hook, .lifecycle .onStop]) ∧
    Machine.Along (NodeState.step keyedInner) Quiet (.start 2 .serial false) stopsSerially ∧
      ∃ s, Machine.exec (NodeState.step keyedInner) (.start 2 .serial false) stopsSerially = some s ∧
        s.runner.polls = [0, 1] ∧ s.runner.calls.map Call.command = [.lifecycle .onStop, .shutdown] := by
  refine ⟨⟨?_, Machine.exec_of_any ?_⟩, ⟨?_, Machine.exec_of_any ?_⟩, ?_, Machine.exec_of_any ?_⟩ <;> decide +kernel

end Actr.Proof.Lifecycle
