import Actr.Proof.Dispatch.Scheduler

namespace Actr.Proof.Dispatch
open Hyper.Dispatch Library.Machine

variable {task : SchedulerTask} {budget : Nat} {s : Scheduler} {admitted : List DispatchJob}

theorem count_jobsOf (job : DispatchJob) (log : List DispatchJob) : (jobsOf job.key log).count job = log.count job :=
  List.count_filter (by simp)

theorem Invariant.count_enqueued (inv : Invariant task) (job : DispatchJob) : task.enqueued.count job =
      task.started.count job + (task.queueOf job.key).count job + (task.dropped job.key).count job := by
  rw [← count_jobsOf job task.enqueued, inv.history, List.count_append, List.count_append, count_jobsOf]

theorem Invariant.started_le_enqueued (inv : Invariant task) : task.started.length ≤ task.enqueued.length := by
  apply List.Subperm.length_le
  rw [List.subperm_ext_iff]
  intro job _
  rw [inv.count_enqueued]
  omega

theorem SystemInvariant.admitted_nodup (inv : SystemInvariant budget s) : s.admitted.Nodup :=
  ((List.nodup_append.mp inv.unique).1).of_map _

theorem SystemInvariant.count_enqueued_le (inv : SystemInvariant budget s) (job : DispatchJob) :
    s.task.enqueued.count job ≤ 1 := by
  have distinct := inv.admitted_nodup
  rw [inv.admitted] at distinct
  exact List.nodup_iff_count_le_one.mp (List.nodup_append.mp distinct).1 job

theorem started_not_dropped (inv : SystemInvariant budget s) (job : DispatchJob) (started : job ∈ s.task.started)
    (key : ConflictKey) : job ∉ s.task.dropped key := by
  intro dropped
  have history := inv.task.history key
  have enqueued : job ∈ jobsOf key s.task.enqueued := by simp [history, dropped]
  obtain rfl : job.key = key := by simpa [jobsOf] using (List.mem_filter.mp enqueued).2
  have total := inv.task.count_enqueued job
  have once := inv.count_enqueued_le job
  have first := List.one_le_count_iff.mpr started
  have second := List.one_le_count_iff.mpr dropped
  omega

def outstanding (s : Scheduler) : Nat :=
  s.task.enqueued.length + s.task.inflight.length - s.task.started.length +
    if s.exited then 0 else 1

structure Draining (budget : Nat) (admitted : List DispatchJob) (s : Scheduler) : Prop where
  inv : SystemInvariant budget s
  closed : s.receiverClosed = true
  admitted : s.admitted = admitted

theorem Draining.shut (draining : Draining budget admitted s) : s.intakeOpen = false :=
  draining.inv.closed draining.closed

-- A completion takes one job off the books: what `pump` starts moves from the queues into the flights.
theorem settled_outstanding {middle : SchedulerTask} {index : Nat} (settled : Settled task middle index)
    (bound : index < task.inflight.length) :
    middle.pump.enqueued.length + middle.pump.inflight.length - middle.pump.started.length + 1 ≤
      task.enqueued.length + task.inflight.length - task.started.length := by
  have pumped := pump_spec settled.inv
  obtain ⟨new, inflight, started, -⟩ := pumped.flights
  have flying : middle.pump.inflight.length + 1 = task.inflight.length + new.length := by
    rw [inflight, settled.inflight, List.length_append, List.length_eraseIdx, if_pos bound]
    omega
  have launched : middle.pump.started.length = task.started.length + new.length := by
    rw [started, settled.started, List.length_append, List.length_map]
  have ordered := pumped.inv.started_le_enqueued
  have total : middle.pump.enqueued = task.enqueued := pumped.enqueued.trans settled.enqueued
  rw [total] at ordered ⊢
  omega

theorem draining_step {t : Scheduler} {action : Action} (draining : Draining budget admitted s)
    (enabled : s.step action = some t) :
    Draining budget admitted t ∧
      outstanding t + (if action.isLoop then 1 else 0) ≤ outstanding s := by
  -- Only a completion and the exit move the task while it drains.
  have inv := step_invariant draining.inv enabled
  cases schedulerStep_step enabled with
  | sends _ isOpen => cases draining.closed.symm.trans isOpen
  | cancels intake | receives _ intake | disconnects intake => cases draining.shut.symm.trans intake
  | completes found running =>
    refine ⟨⟨inv, draining.closed, draining.admitted⟩, ?_⟩
    obtain ⟨middle, settled, same⟩ := onComplete_spec draining.inv.task found
    have fewer := settled_outstanding settled (List.getElem?_eq_some_iff.mp found).1
    simp only [outstanding, same, running, Action.isLoop, Bool.false_eq_true, ↓reduceIte]
    omega
  | exits _ _ running =>
    refine ⟨⟨inv, draining.closed, draining.admitted⟩, ?_⟩
    simp [outstanding, running, Action.isLoop]
  | _ => exact ⟨⟨inv, draining.closed, draining.admitted⟩, le_rfl⟩

theorem draining_exited (draining : Draining budget admitted s)
    (stuck : ∀ action, action.isLoop = true → s.step action = none) : s.exited = true := by
  by_contra running
  cases inflight : s.task.inflight with
  | nil =>
    have exit := stuck .exit rfl
    simp [Scheduler.step, draining.shut, inflight, running] at exit
  | cons =>
    have completed := stuck (.completed 0) rfl
    simp [Scheduler.step, inflight, running] at completed

theorem exited_started_once (inv : SystemInvariant budget s) (closed : s.receiverClosed = true)
    (exited : s.exited = true) (job : DispatchJob) (member : job ∈ s.admitted) : s.task.started.count job = 1 := by
  obtain ⟨shut, idle⟩ := inv.finished exited
  have queue : s.task.queueOf job.key = [] := by
    by_contra nonempty
    exact inv.saturated.busy job.key nonempty idle
  have total := inv.task.count_enqueued job
  rw [queue, inv.clean (.inr closed)] at total
  rw [inv.admitted, inv.empty shut, List.append_nil] at member
  have once := inv.count_enqueued_le job
  have present := List.one_le_count_iff.mpr member
  omega

/-- The scheduler keeps working on what it has taken in. -/
structure NeverStrands (s : Scheduler) : Prop where
  busy : (∃ key, s.task.queueOf key ≠ []) → s.task.inflight ≠ []
  spare : s.task.inflight.length < s.task.budget →
    s.task.serialPending = true ∨ (∃ flight ∈ s.task.inflight, flight.key = .serial) ∨
      ∀ key, s.task.queueOf key ≠ [] → key ∈ s.task.active
  startedOnce : ∀ job, s.task.started.count job ≤ 1
  startedOrDropped : ∀ job ∈ s.task.started, ∀ key, job ∉ s.task.dropped key
  exitsEmpty : ∀ t, s.step .exit = some t → (∀ key, s.task.queueOf key = []) ∧ s.task.inflight = []
  drains : s.receiverClosed = true → ∀ actions t, exec Scheduler.step s actions = some t →
    t.admitted = s.admitted ∧ actions.countP Action.isLoop ≤ outstanding s ∧
    ((∀ action, action.isLoop = true → t.step action = none) → t.exited = true) ∧
    (t.exited = true → ∀ job ∈ s.admitted, t.task.started.count job = 1)

theorem scheduler_never_strands (budget : Nat) (s : Scheduler)
    (reachable : Reachable Scheduler.step (.spawn budget) s) : NeverStrands s := by
  have inv := reachable_invariant reachable
  refine ⟨?_, ?_, ?_, started_not_dropped inv, ?_, ?_⟩
  · rintro ⟨key, nonempty⟩
    exact inv.saturated.busy key nonempty
  · intro spare
    by_cases pending : s.task.serialPending = true
    · exact .inl pending
    · by_cases running : .serial ∈ s.task.active
      · obtain ⟨flight, member, same⟩ := List.mem_map.mp ((inv.task.active _).mp running)
        exact .inr (.inl ⟨flight, member, same⟩)
      · refine .inr (.inr fun key nonempty => ?_)
        rcases inv.saturated.spare key nonempty spare with barrier | barrier | active
        · exact absurd barrier pending
        · exact absurd barrier running
        · exact active
  · intro job
    have total := inv.task.count_enqueued job
    have once := inv.count_enqueued_le job
    omega
  · intro t enabled
    cases schedulerStep_step enabled with
    | exits _ idle =>
      refine ⟨fun key => ?_, idle⟩
      by_contra nonempty
      exact inv.saturated.busy key nonempty idle
  · intro closed actions t run
    have start : Draining budget s.admitted s := ⟨inv, closed, rfl⟩
    have finish : Draining budget s.admitted t :=
      exec_invariant (fun _ _ _ draining enabled => (draining_step draining enabled).1) start run
    have bounded := exec_measure Action.isLoop outstanding
      (fun _ _ _ draining enabled => (draining_step draining enabled).1)
      (fun _ _ _ draining enabled => (draining_step draining enabled).2) start run
    refine ⟨finish.admitted, by omega, draining_exited finish, fun exited job member => ?_⟩
    exact exited_started_once finish.inv finish.closed exited job (finish.admitted ▸ member)

theorem scheduler_never_strands_shutdown : ∃ s, Reachable Scheduler.step (.spawn 2) s ∧
    s.receiverClosed = true ∧ s.admitted.length = 2 ∧ s.task.inflight.length = 1 ∧ NeverStrands s := by
  have reachable : Reachable Scheduler.step (.spawn 2) _ :=
    ⟨[.submit (.scoped "d" [1]), .acquire 0, .send 0, .submit (.scoped "d" [1]), .acquire 0, .send 0,
      .received, .shutdown, .cancelObserved], rfl⟩
  exact ⟨_, reachable, by decide, by decide, by decide, scheduler_never_strands 2 _ reachable⟩

theorem spare_budget_behind_serial : ¬ ∀ s, Reachable Scheduler.step (.spawn 2) s →
    s.task.inflight.length < s.task.budget → (∃ key, s.task.queueOf key ≠ []) →
      s.task.serialPending = true ∨ ∀ key, s.task.queueOf key ≠ [] → key ∈ s.task.active := by
  intro claimed
  have waiting := claimed _ ⟨[.submit .serial, .acquire 0, .send 0, .submit (.scoped "d" [1]),
    .acquire 0, .send 0, .received, .received], rfl⟩ (by decide) ⟨.scoped "d" [1], by decide⟩
  rcases waiting with pending | active
  · exact absurd pending (by decide)
  · exact absurd (active (.scoped "d" [1]) (by decide)) (by decide)

end Actr.Proof.Dispatch
