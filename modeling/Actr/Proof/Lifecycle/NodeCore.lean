import Actr.Hyper.Lifecycle.MailboxLoop
import Actr.Proof.Dispatch.Scheduler
import Actr.Proof.Executor.Replies
import Actr.Proof.Lifecycle.Admission

/-! # Requests, jobs and calls -/

namespace Actr.Proof.Lifecycle
open Actr.Protocol Hyper.Lifecycle Hyper.Dispatch Hyper.Executor Library Actr.Mailbox Relation

variable {request : Request} {task : Admission} {result : ActorResult Bytes} {ticket index now : Nat}
variable {record : Option MessageRecord}
variable {runner : Runner} {runtime : Runtime} {scheduler : Scheduler} {envelope : RpcEnvelope}
variable {callerId : Option ActrId}

/-! ## Tasks of the node -/

section Tasks

variable {node : Node}

def Answered (node : Node) (task : Admission) : Prop :=
  match task.role with
  | .refused => ∃ error, node.refusal task.callerId = some error ∧ task.phase = .resolved (.error error)
  | .original => task.phase = .resolved (.error credentialNotSet)
  | _ => task.phase ≠ .dispatching

theorem tasks_handleIncoming (node : Node) (s : Runtime) (callerId : Option ActrId) (envelope : RpcEnvelope)
    (now : Nat) :
    ∃ task, (s.handleIncoming node callerId envelope now).tasks = s.tasks ++ [task] ∧
      task.callerId = callerId ∧ task.envelope = envelope ∧
      match (node.admitIncoming s.dedup now s.tasks.length envelope callerId).2 with
      | .dispatch _ => task.role = .original ∧ task.phase = .dispatching
      | _ => Answered node task := by
  cases refusal : node.refusal callerId with
  | some error =>
    simp only [Runtime.handleIncoming, Node.admitIncoming, refusal, Runtime.admitted]
    exact ⟨_, rfl, rfl, rfl, error, refusal, rfl⟩
  | none =>
    cases present : (s.dedup.evictExpired now).entries envelope.requestId with
    | none =>
      cases credential : node.hasCredentialState <;>
        simp [Runtime.handleIncoming, Node.admitIncoming, refusal, DedupState.checkOrMark, present, credential,
          Runtime.admitted, Runtime.roleOf, Answered]
    | some entry =>
      obtain ⟨receivedAt, cached⟩ := entry
      cases cached with
      | inFlight =>
        cases tell : envelopeIsTell envelope <;>
          simp [Runtime.handleIncoming, Node.admitIncoming, refusal, DedupState.checkOrMark, present, tell,
            Runtime.admitted, Runtime.roleOf, Answered]
      | done =>
        simp [Runtime.handleIncoming, Node.admitIncoming, refusal, DedupState.checkOrMark, present,
          Runtime.admitted, Runtime.roleOf, Answered]

end Tasks

/-! ## The invariant -/

variable {inner : Inner} {budget : Nat} {s t : Core}

structure Gates (scheduler : Scheduler) : Prop where
  alive : scheduler.sendersGone = false
  cancelled : scheduler.cancelled = true → scheduler.admission = false
  closed : scheduler.receiverClosed = true → scheduler.cancelled = true
  submitters : scheduler.admission = false → scheduler.submitters = []
  issued : ∀ ticket < scheduler.nextTicket, ticket ∈ Dispatch.tickets scheduler

def RequestOk (inner : Inner) (s : Core) (request : Request) (task : Admission) : Prop :=
  match request.path with
  | .answered => Answered inner.toNode task
  | .refused => task.role = .original ∧ s.scheduler.admission = false ∧
      (task.phase = .dispatching ∨ task.phase = .resolved (.error schedulerTerminated))
  | .call call => task.role = .original ∧ Executor.IsDispatch s.runner call ∧
      (task.phase = .dispatching ∨ ∃ result, task.phase = .resolved result ∧ s.returned call = some result)
  | .job ticket => task.role = .original ∧ ∃ job, s.jobs[ticket]? = some job ∧
      (task.phase = .dispatching ∨ ∃ result, task.phase = .resolved result ∧ job.reply = .sent result)

def JobOk (s : Core) (job : Job) : Prop :=
  (∀ call, job.call = some call → Executor.IsDispatch s.runner call) ∧
    (∀ result, job.reply = .sent result → ∃ call, job.call = some call ∧ s.returned call = some result) ∧
    job.reply ≠ .lost

structure Linked (inner : Inner) (budget : Nat) (s : Core) : Prop where
  runner : Executor.Sound s.runner
  scheduler : Dispatch.SystemInvariant budget s.scheduler
  gates : Gates s.scheduler
  tasks : s.requests.length = s.runtime.tasks.length
  tickets : s.jobs.length = s.scheduler.nextTicket
  requests : ∀ (index : Nat) (request : Request) (task : Admission), s.requests[index]? = some request →
    s.runtime.tasks[index]? = some task → RequestOk inner s request task
  jobs : ∀ (ticket : Nat) (job : Job), s.jobs[ticket]? = some job → JobOk s job
  started : ∀ job ∈ s.scheduler.task.started, (∃ flight ∈ s.scheduler.task.inflight, flight.job = job) ∨
    ∃ entry result, s.jobs[job.ticket]? = some entry ∧ entry.reply = .sent result

structure Progress (s t : Core) : Prop where
  dispatch : ∀ call, Executor.IsDispatch s.runner call → Executor.IsDispatch t.runner call
  returned : ∀ call result, s.returned call = some result → t.returned call = some result
  shut : s.scheduler.admission = false → t.scheduler.admission = false
  jobs : ∀ (ticket : Nat) (job : Job), s.jobs[ticket]? = some job →
    ∃ later, t.jobs[ticket]? = some later ∧ ∀ result, job.reply = .sent result → later.reply = .sent result

theorem Progress.replied (progress : Progress s t) :
    (∃ job result, s.jobs[ticket]? = some job ∧ job.reply = .sent result) →
      ∃ job result, t.jobs[ticket]? = some job ∧ job.reply = .sent result := by
  rintro ⟨job, result, found, reply⟩
  obtain ⟨later, kept, sent⟩ := progress.jobs ticket job found
  exact ⟨later, result, kept, sent result reply⟩

theorem RequestOk.progress (progress : Progress s t) (fine : RequestOk inner s request task) :
    RequestOk inner t request task := by
  unfold RequestOk at *
  split at fine
  · exact fine
  · exact ⟨fine.1, progress.shut fine.2.1, fine.2.2⟩
  · obtain ⟨role, dispatch, phase⟩ := fine
    refine ⟨role, progress.dispatch _ dispatch, phase.imp_right ?_⟩
    rintro ⟨result, resolved, returned⟩
    exact ⟨result, resolved, progress.returned _ _ returned⟩
  · obtain ⟨role, job, found, phase⟩ := fine
    obtain ⟨later, found, sent⟩ := progress.jobs _ job found
    refine ⟨role, later, found, phase.imp_right ?_⟩
    rintro ⟨result, resolved, reply⟩
    exact ⟨result, resolved, sent result reply⟩

theorem Linked.requestOk (linked : Linked inner budget s) (progress : Progress s t)
    (found : s.requests[index]? = some request) (known : s.runtime.tasks[index]? = some task) :
    RequestOk inner t request task :=
  (linked.requests index request task found known).progress progress

/-! ## Steps of the runner -/

theorem returned_eq {call : Nat} :
    s.returned call = some result ↔ ∃ entry, s.runner.calls[call]? = some entry ∧ entry.phase = .returned result := by
  unfold Core.returned
  cases s.runner.calls[call]? with
  | none => simp
  | some entry => cases phase : entry.phase <;> simp [phase]

theorem dispatch_moves {s t : Runner} {action : Hyper.Executor.Action} (sound : Executor.Sound s)
    (moves : ReflTransGen (Executor.Move action) s t) (dispatch : Executor.IsDispatch s ticket) : Executor.IsDispatch t ticket := by
  obtain ⟨call, found, command⟩ := dispatch
  obtain ⟨after, later, evolves⟩ := Executor.evolves_moves sound moves found
  exact ⟨after, later, evolves.command.trans command⟩

theorem returned_moves {action : Hyper.Executor.Action} {call : Nat} (sound : Executor.Sound s.runner)
    (moves : ReflTransGen (Executor.Move action) s.runner runner) (returned : s.returned call = some result)
    (same : t.runner = runner) : t.returned call = some result := by
  obtain ⟨entry, found, phase⟩ := returned_eq.mp returned
  obtain ⟨after, later, evolves⟩ := Executor.evolves_moves sound moves found
  refine returned_eq.mpr ⟨after, by rw [same]; exact later, ?_⟩
  rw [evolves.ended (by rw [Runner.isActive, phase]), phase]

theorem linked_runner {action : Hyper.Executor.Action} (linked : Linked inner budget s)
    (taken : s.runner.step action = some runner) : Linked inner budget { s with runner } := by
  have moves := Executor.moves_step linked.runner.ordered taken
  have progress : Progress s { s with runner } :=
    { dispatch := fun _ => dispatch_moves linked.runner moves
      returned := fun _ _ returned => returned_moves linked.runner moves returned rfl
      shut := id
      jobs := fun _ job found => ⟨job, found, fun _ => id⟩ }
  refine { linked with
    runner := Executor.sound_step linked.runner taken
    requests := fun _ _ _ => linked.requestOk progress
    jobs := ?_ }
  intro ticket job found
  obtain ⟨dispatch, sent, kept⟩ := linked.jobs ticket job found
  refine ⟨fun call own => progress.dispatch call (dispatch call own), ?_, kept⟩
  intro result reply
  obtain ⟨call, own, returned⟩ := sent result reply
  exact ⟨call, own, progress.returned call result returned⟩

theorem isDispatch_call (taken : s.runner.step (.call .dispatch) = some runner) :
    Executor.IsDispatch runner s.runner.calls.length := by
  simp only [Runner.step] at taken
  split at taken <;> cases taken
  exact ⟨_, List.getElem?_concat_length, rfl⟩

/-! ## Results of requests -/

structure Resolves (inner : Inner) (s : Core) (runtime : Runtime) (index : Nat) (task : Admission)
    (result : ActorResult Bytes) : Prop where
  known : s.runtime.tasks[index]? = some task
  tasks : ∃ dispatched, runtime.tasks = s.runtime.tasks.set index { task with phase := .resolved result, dispatched }
  fine : ∀ request, s.requests[index]? = some request → RequestOk inner s request task → ∀ dispatched,
    RequestOk inner s request { task with phase := .resolved result, dispatched }

theorem RequestOk.waited {waiter since timeout : Nat} (waiting : task.phase = .waiting waiter since timeout)
    (before : RequestOk inner s request task) (dispatched : Option (ActorResult Bytes)) :
    RequestOk inner s request { task with phase := .resolved result, dispatched } := by
  unfold RequestOk at before ⊢
  split at before
  · unfold Answered at before ⊢
    split at before
    · obtain ⟨_, -, phase⟩ := before
      cases waiting.symm.trans phase
    · cases waiting.symm.trans before
    · nofun
  · obtain ⟨-, -, phase | phase⟩ := before <;> cases waiting.symm.trans phase
  · obtain ⟨-, -, phase | ⟨_, phase, -⟩⟩ := before <;> cases waiting.symm.trans phase
  · obtain ⟨-, _, -, phase | ⟨_, phase, -⟩⟩ := before <;> cases waiting.symm.trans phase

theorem RequestOk.resolves {action : Runtime.Action} (linked : Linked inner budget s)
    (resolution : s.resolution index now request = some action) :
    ∃ result, (action = .dispatched index result now ∨
        action = .terminated index now ∧ result = .error schedulerTerminated) ∧
      ∀ task dispatched, RequestOk inner s request task →
        RequestOk inner s request { task with phase := .resolved result, dispatched } := by
  simp only [Core.resolution] at resolution
  split at resolution
  · cases resolution
  · next path =>
    cases resolution
    refine ⟨_, .inr ⟨rfl, rfl⟩, fun task dispatched before => ?_⟩
    rw [RequestOk, path] at before ⊢
    exact ⟨before.1, before.2.1, .inr rfl⟩
  · next path =>
    obtain ⟨result, returned, rfl⟩ := Option.map_eq_some_iff.mp resolution
    refine ⟨result, .inl rfl, fun task dispatched before => ?_⟩
    rw [RequestOk, path] at before ⊢
    exact ⟨before.1, before.2.1, .inr ⟨result, rfl, returned⟩⟩
  · next path =>
    obtain ⟨job, listed, resolution⟩ := Option.bind_eq_some_iff.mp resolution
    split at resolution
    · cases resolution
    · next reply =>
      cases resolution
      refine ⟨_, .inl rfl, fun task dispatched before => ?_⟩
      rw [RequestOk, path] at before ⊢
      exact ⟨before.1, job, listed, .inr ⟨_, rfl, reply⟩⟩
    · next reply => exact absurd reply (linked.jobs _ job listed).2.2

theorem step_resolves {action : CoreAction} (index now : Nat) (linked : Linked inner budget s)
    (resolves : action = .resolve index now ∨ action = .woken index now ∨ action = .expired index now)
    (taken : s.step inner action = some t) :
    ∃ runtime task result, t = { s with runtime } ∧ Resolves inner s runtime index task result := by
  rcases resolves with rfl | rfl | rfl
  · obtain ⟨request, found, taken⟩ := Option.bind_eq_some_iff.mp taken
    obtain ⟨action, resolution, stepped⟩ := Option.bind_eq_some_iff.mp taken
    obtain ⟨runtime, moved, rfl⟩ := Option.map_eq_some_iff.mp stepped
    obtain ⟨result, finishes, fine⟩ := RequestOk.resolves linked resolution
    obtain ⟨task, dispatched, -, known, -, -, rfl⟩ := finished_of_step moved finishes
    refine ⟨_, task, result, rfl, known, ⟨dispatched, rfl⟩, ?_⟩
    intro request' found' before dispatched
    cases found.symm.trans found'
    exact fine task dispatched before
  all_goals
    obtain ⟨runtime, moved, rfl⟩ := Option.map_eq_some_iff.mp taken
    obtain ⟨task, _, _, _, result, -, known, waiting, -, rfl⟩ := waited_of_step moved index now (by simp)
    exact ⟨_, task, result, rfl, known, ⟨_, rfl⟩, fun _ _ => .waited waiting⟩

theorem linked_resolved (linked : Linked inner budget s) (resolves : Resolves inner s runtime index task result) :
    Linked inner budget { s with runtime } := by
  obtain ⟨known, ⟨dispatched, tasks⟩, fine⟩ := resolves
  refine { linked with tasks := ?_, requests := ?_ }
  · rw [tasks, List.length_set]
    exact linked.tasks
  · intro other request entry found later
    simp only [tasks] at later
    rcases Slots.of_set later with ⟨rfl, rfl⟩ | ⟨-, old⟩
    · exact fine request found (linked.requests other request task found known) dispatched
    · exact linked.requests other request entry found old

theorem step_settle (taken : s.step inner (.settle index) = some t) :
    ∃ request task result, s.requests[index]? = some request ∧ s.runtime.tasks[index]? = some task ∧
      request.settled = false ∧ task.phase = .resolved result ∧
      t = { s with requests := s.requests.set index { request with settled := true } } := by
  simp only [Core.step] at taken
  split at taken
  · next request task found known =>
    split at taken
    · next ready =>
      simp only [Bool.and_eq_true, Bool.not_eq_true'] at ready
      cases taken
      cases phase : task.phase with
      | resolved result => exact ⟨request, task, result, found, known, ready.2, phase, rfl⟩
      | waiting | dispatching => simp [Core.isResolved, phase] at ready
    · cases taken
  · cases taken

theorem linked_settle (linked : Linked inner budget s) (found : s.requests[index]? = some request) :
    Linked inner budget { s with requests := s.requests.set index { request with settled := true } } := by
  refine { linked with tasks := by rw [List.length_set]; exact linked.tasks, requests := ?_ }
  intro other entry task' later known'
  rcases Slots.of_set later with ⟨rfl, rfl⟩ | ⟨-, old⟩
  · exact linked.requests _ request task' found known'
  · exact linked.requests other entry task' old known'

/-! ## Steps of the scheduler -/

def InFlight (task : SchedulerTask) (job : DispatchJob) : Prop :=
  ∃ flight ∈ task.inflight, flight.job = job

structure Flies (before after : SchedulerTask) : Prop where
  remain : ∀ job, InFlight before job → InFlight after job
  started : ∀ job ∈ after.started, job ∈ before.started ∨ InFlight after job

theorem Flies.refl (task : SchedulerTask) : Flies task task where
  remain := fun _ => id
  started := fun _ => .inl

theorem flies_pump {before middle : SchedulerTask} (inv : Dispatch.Invariant middle)
    (inflight : middle.inflight = before.inflight) (started : middle.started = before.started) :
    Flies before middle.pump := by
  obtain ⟨new, flights, log, -⟩ := (Dispatch.pump_spec inv).flights
  constructor
  · rintro job ⟨flight, member, rfl⟩
    exact ⟨flight, by rw [flights, inflight]; exact List.mem_append_left _ member, rfl⟩
  · intro job member
    rw [log, List.mem_append, started] at member
    refine member.imp_right fun fresh => ?_
    obtain ⟨flight, listed, rfl⟩ := List.mem_map.mp fresh
    exact ⟨flight, by rw [flights]; exact List.mem_append_right _ listed, rfl⟩

structure Scheduled (s : Scheduler) (action : Hyper.Dispatch.Action) (t : Scheduler) : Prop where
  moved : s.step action = some t
  gates : Gates t
  shut : s.admission = false → t.admission = false
  tickets : t.nextTicket = s.nextTicket
  flies : Flies s.task t.task

theorem inflight_enqueue_all (jobs : List DispatchJob) (task : SchedulerTask) :
    (jobs.foldl SchedulerTask.enqueue task).inflight = task.inflight := by
  induction jobs generalizing task with
  | nil => rfl
  | cons job rest ih => exact ih _

theorem scheduled_send (linked : Linked inner budget s) (taken : s.schedule (.send index) = some t) :
    ∃ scheduler, Scheduled s.scheduler (.send index) scheduler ∧ t = { s with scheduler } := by
  have gates := linked.gates
  simp only [Core.schedule] at taken
  split at taken
  · next submitter found =>
    have live : s.scheduler.admission = true := by
      by_contra shut
      rw [gates.submitters (by simpa using shut)] at found
      cases found
    have isOpen : s.scheduler.receiverClosed = false := by
      by_contra closed
      have shut := gates.cancelled (gates.closed (by simpa using closed))
      rw [live] at shut
      cases shut
    have running : s.scheduler.exited = false := by
      by_contra exited
      rcases linked.scheduler.stopped (linked.scheduler.finished (by simpa using exited)).1 with closed | gone
      · rw [isOpen] at closed
        cases closed
      · rw [gates.alive] at gone
        cases gone
    obtain ⟨scheduler, moved, rfl⟩ := Option.map_eq_some_iff.mp taken
    rw [isOpen, running]
    cases Dispatch.schedulerStep_step moved with
    | lost _ shut => simp [isOpen, running] at shut
    | sends found' =>
      refine ⟨_, ⟨moved, { gates with submitters := ?_, issued := ?_ }, id, rfl, .refl _⟩, rfl⟩
      · intro shut
        cases live.symm.trans shut
      · intro ticket issued
        exact (Dispatch.tickets_send found' _).mem_iff.mpr (gates.issued ticket issued)
  · cases taken

theorem scheduled_schedule {action : Hyper.Dispatch.Action} (linked : Linked inner budget s)
    (taken : s.schedule action = some t) :
    ∃ scheduler, Scheduled s.scheduler action scheduler ∧ t = { s with scheduler } := by
  have gates := linked.gates
  cases action with
  | acquire =>
    obtain ⟨scheduler, moved, rfl⟩ := Option.map_eq_some_iff.mp taken
    cases Dispatch.schedulerStep_step moved with
    | acquires found =>
      refine ⟨_, ⟨moved, { gates with submitters := ?_, issued := ?_ }, id, rfl, .refl _⟩, rfl⟩
      · intro shut
        rw [gates.submitters shut] at found
        cases found
      · rw [Dispatch.tickets_acquire found]
        exact gates.issued
  | send => exact scheduled_send linked taken
  | shutdown =>
    obtain ⟨scheduler, moved, rfl⟩ := Option.map_eq_some_iff.mp taken
    cases Dispatch.schedulerStep_step moved with
    | shuts quiet =>
      exact ⟨_, ⟨moved, ⟨gates.alive, fun _ => rfl, fun _ => rfl, fun _ => quiet, gates.issued⟩, fun _ => rfl, rfl,
        .refl _⟩, rfl⟩
  | cancelObserved =>
    obtain ⟨scheduler, moved, rfl⟩ := Option.map_eq_some_iff.mp taken
    cases Dispatch.schedulerStep_step moved with
    | cancels intake cancelled =>
      obtain ⟨prepared, -⟩ := Dispatch.enqueue_all_prepared linked.scheduler.task s.scheduler.channel
        (linked.scheduler.clean (.inl intake))
      exact ⟨_, ⟨moved, { gates with closed := fun _ => cancelled }, id, rfl,
        flies_pump prepared.inv (inflight_enqueue_all _ _) prepared.started⟩, rfl⟩
  | received =>
    obtain ⟨scheduler, moved, rfl⟩ := Option.map_eq_some_iff.mp taken
    cases Dispatch.schedulerStep_step moved with
    | @receives job _ _ intake =>
      have prepared := Dispatch.enqueue_prepared linked.scheduler.task job (linked.scheduler.clean (.inl intake) _)
      exact ⟨_, ⟨moved, { gates with }, id, rfl, flies_pump prepared.inv rfl prepared.started⟩, rfl⟩
  | exit =>
    obtain ⟨scheduler, moved, rfl⟩ := Option.map_eq_some_iff.mp taken
    cases Dispatch.schedulerStep_step moved with
    | exits => exact ⟨_, ⟨moved, { gates with }, id, rfl, .refl _⟩, rfl⟩
  | submit | abandon | dropSenders | disconnected | completed => cases taken

theorem linked_scheduled {action : Hyper.Dispatch.Action} (linked : Linked inner budget s)
    (scheduled : Scheduled s.scheduler action scheduler) : Linked inner budget { s with scheduler } := by
  have progress : Progress s { s with scheduler } :=
    ⟨fun _ => id, fun _ _ => id, scheduled.shut, fun _ job found => ⟨job, found, fun _ => id⟩⟩
  refine { linked with
    scheduler := Dispatch.step_invariant linked.scheduler scheduled.moved
    gates := scheduled.gates
    tickets := linked.tickets.trans scheduled.tickets.symm
    requests := fun _ _ _ => linked.requestOk progress
    started := ?_ }
  intro job member
  rcases scheduled.flies.started job member with old | flying
  · exact (linked.started job old).imp_left (scheduled.flies.remain job)
  · exact .inl flying

/-! ## The bodies of jobs -/

theorem linked_begin (linked : Linked inner budget s) (found : s.jobs[ticket]? = some ⟨none, .pending⟩)
    (moved : s.runner.step (.call .dispatch) = some runner) : Linked inner budget
      { s with runner, jobs := s.jobs.set ticket ⟨some s.runner.calls.length, .pending⟩ } := by
  have called := linked_runner linked moved
  have progress : Progress { s with runner }
      { s with runner, jobs := s.jobs.set ticket ⟨some s.runner.calls.length, .pending⟩ } := by
    refine ⟨fun _ => id, fun _ _ => id, id, ?_⟩
    intro other job listed
    rcases Slots.kept_or_set found listed with ⟨rfl, rfl⟩ | still
    · exact ⟨_, Slots.set_self found, nofun⟩
    · exact ⟨job, still, fun _ => id⟩
  refine { called with
    tickets := by rw [List.length_set]; exact called.tickets
    requests := fun _ _ _ => called.requestOk progress
    jobs := ?_
    started := fun job member => (called.started job member).imp_right progress.replied }
  intro other job listed
  rcases Slots.of_set listed with ⟨rfl, rfl⟩ | ⟨-, old⟩
  · refine ⟨?_, nofun, nofun⟩
    rintro call ⟨⟩
    exact isDispatch_call moved
  · exact called.jobs other job old

theorem flight_completed {flight wing : Completion} (inv : Dispatch.Invariant s.scheduler.task)
    (flying : s.scheduler.task.inflight[index]? = some flight)
    (moved : s.scheduler.step (.completed index) = some scheduler) (member : wing ∈ s.scheduler.task.inflight) :
    wing = flight ∨ wing ∈ scheduler.task.inflight := by
  cases Dispatch.schedulerStep_step moved with
  | completes flying' =>
    cases flying.symm.trans flying'
    obtain ⟨middle, settled, same⟩ := Dispatch.onComplete_spec inv flying
    obtain ⟨new, flights, -, -⟩ := (Dispatch.pump_spec settled.inv).flights
    obtain ⟨place, found⟩ := List.mem_iff_getElem?.mp member
    by_cases here : place = index
    · subst here
      cases flying.symm.trans found
      exact .inl rfl
    · right
      simp only [same, flights, settled.inflight]
      exact List.mem_append_left _ (List.mem_eraseIdx_iff_getElem?.mpr ⟨place, here, found⟩)

theorem linked_complete {call : Nat} {flight : Completion} {job : Job} (linked : Linked inner budget s)
    (flying : s.scheduler.task.inflight[index]? = some flight) (listed : s.jobs[flight.job.ticket]? = some job)
    (own : job.call = some call) (returned : s.returned call = some result)
    (moved : s.scheduler.step (.completed index) = some scheduler) : Linked inner budget
      { s with scheduler, jobs := s.jobs.set flight.job.ticket ⟨job.call, .sent result⟩ } := by
  have inv := Dispatch.step_invariant linked.scheduler moved
  have remains : ∀ wing ∈ s.scheduler.task.inflight, wing = flight ∨ wing ∈ scheduler.task.inflight := by
    intro wing member
    exact flight_completed linked.scheduler.task flying moved member
  cases Dispatch.schedulerStep_step moved with
  | completes flying' =>
    cases flying.symm.trans flying'
    obtain ⟨middle, settled, same⟩ := Dispatch.onComplete_spec linked.scheduler.task flying
    obtain ⟨new, flights, log, -⟩ := (Dispatch.pump_spec settled.inv).flights
    simp only [same] at inv remains ⊢
    have replied : (s.jobs.set flight.job.ticket ⟨job.call, .sent result⟩)[flight.job.ticket]? =
        some (⟨job.call, .sent result⟩ : Job) := Slots.set_self listed
    have progress : Progress s { s with
        scheduler := { s.scheduler with task := middle.pump }
        jobs := s.jobs.set flight.job.ticket ⟨job.call, .sent result⟩ } := by
      refine ⟨fun _ => id, fun _ _ => id, id, ?_⟩
      intro other entry found
      rcases Slots.kept_or_set listed found with ⟨rfl, rfl⟩ | still
      · refine ⟨_, replied, ?_⟩
        intro earlier reply
        obtain ⟨call', own', returned'⟩ := (linked.jobs _ _ listed).2.1 earlier reply
        cases own.symm.trans own'
        cases returned.symm.trans returned'
        rfl
      · exact ⟨entry, still, fun _ => id⟩
    refine { linked with
      scheduler := inv
      gates := { linked.gates with }
      tickets := by rw [List.length_set]; exact linked.tickets
      requests := fun _ _ _ => linked.requestOk progress
      jobs := ?_, started := ?_ }
    · intro other entry found
      rcases Slots.of_set found with ⟨rfl, rfl⟩ | ⟨-, old⟩
      · refine ⟨(linked.jobs _ _ listed).1, ?_, nofun⟩
        rintro _ ⟨⟩
        exact ⟨call, own, returned⟩
      · exact linked.jobs other entry old
    · intro other member
      simp only [log, List.mem_append] at member
      rcases member with old | fresh
      · rw [settled.started] at old
        rcases linked.started other old with ⟨wing, wings, rfl⟩ | replied
        · rcases remains wing wings with rfl | still
          · exact .inr ⟨_, result, replied, rfl⟩
          · exact .inl ⟨wing, still, rfl⟩
        · exact .inr (progress.replied replied)
      · obtain ⟨wing, wings, rfl⟩ := List.mem_map.mp fresh
        refine .inl ⟨wing, ?_, rfl⟩
        simp only [flights]
        exact List.mem_append_right _ wings

/-! ## Admission -/

theorem Linked.admitted (linked : Linked inner budget s) (tasks : runtime.tasks = s.runtime.tasks ++ [task])
    (fine : RequestOk inner s request task) :
    Linked inner budget { s with runtime, requests := s.requests ++ [request] } := by
  refine { linked with tasks := ?_, requests := ?_ }
  · rw [tasks, List.length_append, List.length_append, linked.tasks, List.length_singleton, List.length_singleton]
  · intro index entry known found listed
    simp only [tasks] at listed
    rcases Slots.of_snoc found with old | ⟨rfl, rfl⟩
    · rw [List.getElem?_append_left (linked.tasks ▸ (List.getElem?_eq_some_iff.mp old).1)] at listed
      exact linked.requests index entry known old listed
    · rw [linked.tasks, List.getElem?_concat_length] at listed
      cases listed
      exact fine

theorem linked_submit {key : ConflictKey} (linked : Linked inner budget s) (admission : s.scheduler.admission = true)
    (running : s.scheduler.cancelled = false) (taken : s.scheduler.step (.submit key) = some scheduler) :
    Linked inner budget { s with scheduler, jobs := s.jobs ++ [⟨none, .pending⟩] } := by
  have inv := Dispatch.step_invariant linked.scheduler taken
  have shape : s.scheduler.step (.submit key) = some { s.scheduler with
      submitters := s.scheduler.submitters ++ [⟨⟨key, s.scheduler.nextTicket⟩, false⟩]
      nextTicket := s.scheduler.nextTicket + 1 } := by
    simp [Scheduler.step, linked.gates.alive, admission, running]
  obtain rfl := Option.some.inj (shape.symm.trans taken)
  have progress : Progress s { s with
      scheduler := { s.scheduler with
        submitters := s.scheduler.submitters ++ [⟨⟨key, s.scheduler.nextTicket⟩, false⟩]
        nextTicket := s.scheduler.nextTicket + 1 }
      jobs := s.jobs ++ [⟨none, .pending⟩] } :=
    ⟨fun _ => id, fun _ _ => id, id, fun _ job found => ⟨job, Slots.snoc found, fun _ => id⟩⟩
  refine { linked with
    scheduler := inv
    gates := { linked.gates with submitters := ?_, issued := ?_ }
    tickets := by rw [List.length_append, linked.tickets]; rfl
    requests := fun _ _ _ => linked.requestOk progress
    jobs := ?_
    started := fun job member => (linked.started job member).imp_right progress.replied }
  · intro shut
    rw [admission] at shut
    cases shut
  · intro ticket issued
    have within : ticket ∈ Dispatch.tickets s.scheduler ∨ ticket = s.scheduler.nextTicket :=
      (Nat.lt_succ_iff_lt_or_eq.mp issued).imp_left (linked.gates.issued ticket)
    simpa [Dispatch.tickets, or_assoc] using within
  · intro ticket job found
    rcases Slots.of_snoc found with old | ⟨-, rfl⟩
    · exact linked.jobs ticket job old
    · exact ⟨by simp, by simp, by simp⟩

inductive Admits (inner : Inner) (s : Core) (record : Option MessageRecord) (runtime : Runtime) (task : Admission) :
    Core → Prop
  | answered (fine : Answered inner.toNode task) :
      Admits inner s record runtime task { s with runtime, requests := s.requests ++ [⟨record, .answered, false⟩] }
  | call {runner : Runner} (gate : inner.hasDispatchScheduler = false) (original : task.role = .original)
      (dispatching : task.phase = .dispatching) (moved : s.runner.step (.call .dispatch) = some runner) :
      Admits inner s record runtime task
        { s with runtime, runner, requests := s.requests ++ [⟨record, .call s.runner.calls.length, false⟩] }
  | refused (original : task.role = .original) (dispatching : task.phase = .dispatching)
      (shut : s.scheduler.admission = false ∨ s.scheduler.cancelled = true) :
      Admits inner s record runtime task { s with runtime, requests := s.requests ++ [⟨record, .refused, false⟩] }
  | job {scheduler : Scheduler} {key : ConflictKey} (gate : inner.hasDispatchScheduler = true)
      (original : task.role = .original) (dispatching : task.phase = .dispatching)
      (isOpen : s.scheduler.admission = true) (running : s.scheduler.cancelled = false)
      (moved : s.scheduler.step (.submit key) = some scheduler) :
      Admits inner s record runtime task { s with
        runtime
        scheduler
        requests := s.requests ++ [⟨record, .job s.scheduler.nextTicket, false⟩]
        jobs := s.jobs ++ [⟨none, .pending⟩] }

theorem gate_of_dispatch {node : Node} {dedup : DedupState} {channel : Nat} {key : Option ConflictKey}
    (continuation : (node.admitIncoming dedup now channel envelope callerId).2 = .dispatch key) :
    node.hasDispatchScheduler = key.isSome := by
  simp only [Node.admitIncoming] at continuation
  split at continuation
  · cases continuation
  · split at continuation
    · split at continuation <;> cases continuation
    · cases continuation
    · split at continuation
      · cases continuation
        cases node.hasDispatchScheduler <;> rfl
      · cases continuation

theorem admits_incoming (taken : s.step inner (.incoming record callerId envelope now) = some t) :
    ∃ task, (s.runtime.handleIncoming inner.toNode callerId envelope now).tasks = s.runtime.tasks ++ [task] ∧
      task.callerId = callerId ∧ task.envelope = envelope ∧
      Admits inner s record (s.runtime.handleIncoming inner.toNode callerId envelope now) task t := by
  obtain ⟨task, tasks, caller, carried, kind⟩ := tasks_handleIncoming inner.toNode s.runtime callerId envelope now
  refine ⟨task, tasks, caller, carried, ?_⟩
  simp only [Core.step, Core.admitIncoming] at taken
  split at taken
  · cases continuation : (inner.toNode.admitIncoming s.runtime.dedup now s.runtime.tasks.length envelope callerId).2 with
    | ready | wait =>
      rw [continuation] at taken kind
      cases taken
      exact .answered kind
    | dispatch key =>
      have gate := gate_of_dispatch continuation
      rw [continuation] at taken kind
      obtain ⟨original, dispatching⟩ := kind
      cases key with
      | none =>
        obtain ⟨runner, moved, rfl⟩ := Option.map_eq_some_iff.mp taken
        exact .call gate original dispatching moved
      | some =>
        simp only at taken
        split at taken
        · next shut =>
          cases taken
          exact .refused original dispatching (by simpa using shut)
        · next live =>
          simp only [Bool.or_eq_true, Bool.not_eq_true', not_or, Bool.not_eq_true, Bool.not_eq_false] at live
          obtain ⟨scheduler, moved, rfl⟩ := Option.map_eq_some_iff.mp taken
          exact .job gate original dispatching live.1 live.2 moved
  · cases taken

theorem linked_incoming (linked : Linked inner budget s) (tasks : runtime.tasks = s.runtime.tasks ++ [task])
    (admits : Admits inner s record runtime task t) : Linked inner budget t := by
  cases admits with
  | answered fine => exact linked.admitted tasks fine
  | call gate original dispatching moved =>
    exact (linked_runner linked moved).admitted tasks ⟨original, isDispatch_call moved, .inl dispatching⟩
  | refused original dispatching shut =>
    exact linked.admitted tasks ⟨original, shut.elim id linked.gates.cancelled, .inl dispatching⟩
  | job gate original dispatching isOpen running moved =>
    have submitted := linked_submit linked isOpen running moved
    refine submitted.admitted tasks ⟨original, ⟨none, .pending⟩, ?_, .inl dispatching⟩
    rw [← linked.tickets]
    exact List.getElem?_concat_length

theorem linked_start (inner : Inner) (budget : Nat) (mode : RunnerMode) (hasDispatchTimeout : Bool) :
    Linked inner budget (.start budget mode hasDispatchTimeout) where
  runner := Executor.sound_spawn mode hasDispatchTimeout
  scheduler := Dispatch.spawn_invariant budget
  gates := by constructor <;> simp [Core.start, Scheduler.spawn]
  tasks := rfl
  tickets := rfl
  requests := by simp [Core.start]
  jobs := by simp [Core.start]
  started := by simp [Core.start, Scheduler.spawn, SchedulerTask.new]

/-! ## What a step can do -/

inductive CoreStep (inner : Inner) (s : Core) : CoreAction → Core → Prop
  | admits {record : Option MessageRecord} {callerId : Option ActrId} {envelope : RpcEnvelope} {now : Nat}
      {task : Admission} {t : Core}
      (tasks : (s.runtime.handleIncoming inner.toNode callerId envelope now).tasks = s.runtime.tasks ++ [task])
      (caller : task.callerId = callerId) (carried : task.envelope = envelope)
      (admits : Admits inner s record (s.runtime.handleIncoming inner.toNode callerId envelope now) task t) :
      CoreStep inner s (.incoming record callerId envelope now) t
  | resolves {action : CoreAction} {index : Nat} {task : Admission} {result : ActorResult Bytes} {runtime : Runtime}
      (resolves : Resolves inner s runtime index task result)
      (other : ∀ record callerId envelope now, action ≠ .incoming record callerId envelope now) :
      CoreStep inner s action { s with runtime }
  | settles {index : Nat} {request : Request} {task : Admission} {result : ActorResult Bytes}
      (found : s.requests[index]? = some request) (known : s.runtime.tasks[index]? = some task)
      (unsettled : request.settled = false) (resolved : task.phase = .resolved result) :
      CoreStep inner s (.settle index) { s with requests := s.requests.set index { request with settled := true } }
  | schedules {action : Hyper.Dispatch.Action} {scheduler : Scheduler} (scheduled : Scheduled s.scheduler action scheduler) :
      CoreStep inner s (.schedule action) { s with scheduler }
  | starts {ticket : Nat} {flight : Completion} {runner : Runner} (found : s.jobs[ticket]? = some ⟨none, .pending⟩)
      (flying : flight ∈ s.scheduler.task.inflight) (own : flight.job.ticket = ticket)
      (moved : s.runner.step (.call .dispatch) = some runner) :
      CoreStep inner s (.start ticket)
        { s with runner, jobs := s.jobs.set ticket ⟨some s.runner.calls.length, .pending⟩ }
  | completes {index call : Nat} {flight : Completion} {job : Job} {result : ActorResult Bytes} {scheduler : Scheduler}
      (flying : s.scheduler.task.inflight[index]? = some flight) (listed : s.jobs[flight.job.ticket]? = some job)
      (own : job.call = some call) (returned : s.returned call = some result)
      (moved : s.scheduler.step (.completed index) = some scheduler) :
      CoreStep inner s (.complete index)
        { s with scheduler, jobs := s.jobs.set flight.job.ticket ⟨job.call, .sent result⟩ }
  | runs {action : Hyper.Executor.Action} {runner : Runner} (moved : s.runner.step action = some runner) :
      CoreStep inner s (.run action) { s with runner }

theorem coreStep_step {action : CoreAction} (linked : Linked inner budget s) (taken : s.step inner action = some t) :
    CoreStep inner s action t := by
  cases action with
  | incoming =>
    obtain ⟨task, tasks, caller, carried, admits⟩ := admits_incoming taken
    exact .admits tasks caller carried admits
  | resolve index now | woken index now | expired index now =>
    obtain ⟨runtime, task, result, rfl, resolves⟩ := step_resolves index now linked (by simp) taken
    exact .resolves resolves (by simp)
  | settle =>
    obtain ⟨request, task, result, found, known, unsettled, resolved, rfl⟩ := step_settle taken
    exact .settles found known unsettled resolved
  | schedule =>
    obtain ⟨scheduler, scheduled, rfl⟩ := scheduled_schedule linked taken
    exact .schedules scheduled
  | start =>
    simp only [Core.step] at taken
    split at taken
    · next found =>
      split at taken
      · next any =>
        obtain ⟨flight, flying, own⟩ := List.any_eq_true.mp any
        obtain ⟨runner, moved, rfl⟩ := Option.map_eq_some_iff.mp taken
        exact .starts found flying (of_decide_eq_true own) moved
      · cases taken
    · cases taken
  | complete =>
    obtain ⟨flight, flying, taken⟩ := Option.bind_eq_some_iff.mp taken
    obtain ⟨job, listed, taken⟩ := Option.bind_eq_some_iff.mp taken
    obtain ⟨result, returned, taken⟩ := Option.bind_eq_some_iff.mp taken
    obtain ⟨call, own, returned⟩ := Option.bind_eq_some_iff.mp returned
    obtain ⟨scheduler, moved, rfl⟩ := Option.map_eq_some_iff.mp taken
    exact .completes flying listed own returned moved
  | run =>
    obtain ⟨runner, moved, rfl⟩ := Option.map_eq_some_iff.mp taken
    exact .runs moved

theorem linked_step {action : CoreAction} (linked : Linked inner budget s) (taken : s.step inner action = some t) :
    Linked inner budget t := by
  cases coreStep_step linked taken with
  | admits tasks _ _ admits => exact linked_incoming linked tasks admits
  | resolves resolves => exact linked_resolved linked resolves
  | settles found => exact linked_settle linked found
  | schedules scheduled => exact linked_scheduled linked scheduled
  | starts found _ _ moved => exact linked_begin linked found moved
  | completes flying listed own returned moved => exact linked_complete linked flying listed own returned moved
  | runs moved => exact linked_runner linked moved

section

variable {action : CoreAction} (step : CoreStep inner s action t)
include step

theorem request_came (found : t.requests[index]? = some request) :
    (∃ before, s.requests[index]? = some before ∧ before.record = request.record ∧ before.path = request.path ∧
        (before.settled = request.settled ∨ action = .settle index ∧ request.settled = true)) ∨
      index = s.requests.length ∧ request.settled = false ∧
        (∀ call, request.path = .call call → inner.hasDispatchScheduler = false ∧ call = s.runner.calls.length ∧
          s.runner.step (.call .dispatch) = some t.runner) ∧
        (request.path = .refused → s.scheduler.admission = false ∨ s.scheduler.cancelled = true) ∧
        ∃ callerId envelope now, action = .incoming request.record callerId envelope now := by
  cases step with
  | admits _ _ _ admits =>
    cases admits with
    | answered | call | refused | job =>
      rcases Slots.of_snoc found with old | ⟨rfl, rfl⟩
      · exact .inl ⟨request, old, rfl, rfl, .inl rfl⟩
      · refine .inr ⟨rfl, rfl, ?_, ?_, _, _, _, rfl⟩ <;> simp [*]
  | settles own =>
    rcases Slots.of_set found with ⟨rfl, rfl⟩ | ⟨-, old⟩
    · exact .inl ⟨_, own, rfl, rfl, .inr ⟨rfl, rfl⟩⟩
    · exact .inl ⟨request, old, rfl, rfl, .inl rfl⟩
  | resolves | schedules | starts | completes | runs => exact .inl ⟨request, found, rfl, rfl, .inl rfl⟩

theorem task_came (found : t.runtime.tasks[index]? = some task) :
    (∃ before, s.runtime.tasks[index]? = some before ∧ before.callerId = task.callerId ∧
        before.envelope = task.envelope ∧ before.role = task.role) ∨
      index = s.runtime.tasks.length ∧ ∃ record now, action = .incoming record task.callerId task.envelope now := by
  cases step with
  | admits tasks caller carried admits =>
    subst caller carried
    cases admits with
    | answered | call | refused | job =>
      rw [tasks] at found
      rcases Slots.of_snoc found with old | ⟨rfl, rfl⟩
      · exact .inl ⟨task, old, rfl, rfl, rfl⟩
      · exact .inr ⟨rfl, _, _, rfl⟩
  | resolves resolves =>
    obtain ⟨known, ⟨dispatched, tasks⟩, -⟩ := resolves
    rw [tasks] at found
    rcases Slots.of_set found with ⟨rfl, rfl⟩ | ⟨-, old⟩
    · exact .inl ⟨_, known, rfl, rfl, rfl⟩
    · exact .inl ⟨task, old, rfl, rfl, rfl⟩
  | settles | schedules | starts | completes | runs => exact .inl ⟨task, found, rfl, rfl, rfl⟩

theorem runner_step :
    t.runner = s.runner ∨ ∃ change, s.runner.step change = some t.runner ∧
      (action = .run change ∨ change = .call .dispatch ∧ ∀ other, action ≠ .run other) := by
  cases step with
  | admits _ _ _ admits =>
    cases admits with
    | call gate original dispatching moved => exact .inr ⟨_, moved, .inr ⟨rfl, nofun⟩⟩
    | answered | refused | job => exact .inl rfl
  | starts _ _ _ moved => exact .inr ⟨_, moved, .inr ⟨rfl, nofun⟩⟩
  | runs moved => exact .inr ⟨_, moved, .inl rfl⟩
  | resolves | settles | schedules | completes => exact .inl rfl

theorem scheduler_step :
    (s.scheduler.exited = true → t.scheduler.exited = true) ∧
      (action ≠ .schedule .shutdown → t.scheduler.admission = s.scheduler.admission) := by
  cases step with
  | admits _ _ _ admits =>
    cases admits with
    | job gate original dispatching isOpen running moved =>
      obtain ⟨exits, shuts⟩ := Dispatch.step_gates moved
      exact ⟨exits, fun _ => shuts nofun⟩
    | answered | refused | call => exact ⟨id, fun _ => rfl⟩
  | schedules scheduled =>
    obtain ⟨exits, shuts⟩ := Dispatch.step_gates scheduled.moved
    exact ⟨exits, fun other => shuts fun same => other (by rw [same])⟩
  | completes _ _ _ _ moved =>
    obtain ⟨exits, shuts⟩ := Dispatch.step_gates moved
    exact ⟨exits, fun _ => shuts nofun⟩
  | resolves | settles | starts | runs => exact ⟨id, fun _ => rfl⟩

end

end Actr.Proof.Lifecycle
