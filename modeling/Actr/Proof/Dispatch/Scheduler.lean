import Actr.Proof.Dispatch.SchedulerTask

/-! # Isolation and draining of the dispatch scheduler -/

namespace Actr.Proof.Dispatch
open Hyper.Dispatch Library.Machine

variable {s t : Scheduler} {index budget : Nat} {job : DispatchJob}

inductive SchedulerStep (s : Scheduler) : Action → Scheduler → Prop
  | refused {key : ConflictKey} : SchedulerStep s (.submit key) s
  | submits {key : ConflictKey} (live : s.sendersGone = false) :
      SchedulerStep s (.submit key) { s with
        submitters := s.submitters ++ [⟨⟨key, s.nextTicket⟩, false⟩]
        nextTicket := s.nextTicket + 1 }
  | acquires {index : Nat} {job : DispatchJob} (found : s.submitters[index]? = some ⟨job, false⟩) :
      SchedulerStep s (.acquire index) { s with submitters := s.submitters.set index ⟨job, true⟩ }
  | lost {index : Nat} {job : DispatchJob} (found : s.submitters[index]? = some ⟨job, true⟩)
      (shut : s.receiverClosed = true ∨ s.exited = true) :
      SchedulerStep s (.send index) { s with submitters := s.submitters.eraseIdx index }
  | sends {index : Nat} {job : DispatchJob} (found : s.submitters[index]? = some ⟨job, true⟩)
      (isOpen : s.receiverClosed = false) :
      SchedulerStep s (.send index) { s with
        submitters := s.submitters.eraseIdx index
        channel := s.channel ++ [job]
        admitted := s.admitted ++ [job] }
  | abandons {index : Nat} : SchedulerStep s (.abandon index) { s with submitters := s.submitters.eraseIdx index }
  | shuts (quiet : s.submitters = []) : SchedulerStep s .shutdown { s with admission := false, cancelled := true }
  | dropsSenders (quiet : s.submitters = []) : SchedulerStep s .dropSenders { s with sendersGone := true }
  | cancels (intake : s.intakeOpen = true) (cancelled : s.cancelled = true) (running : s.exited = false) :
      SchedulerStep s .cancelObserved { s with
        intakeOpen := false
        receiverClosed := true
        channel := []
        task := (s.channel.foldl SchedulerTask.enqueue s.task).pump }
  | receives {job : DispatchJob} {rest : List DispatchJob} (buffered : s.channel = job :: rest)
      (intake : s.intakeOpen = true) (running : s.exited = false) :
      SchedulerStep s .received { s with channel := rest, task := (s.task.enqueue job).pump }
  | disconnects (intake : s.intakeOpen = true) (gone : s.sendersGone = true) (buffered : s.channel = [])
      (running : s.exited = false) :
      SchedulerStep s .disconnected { s with intakeOpen := false, task := s.task.dropQueued }
  | completes {index : Nat} {flight : Completion} (found : s.task.inflight[index]? = some flight)
      (running : s.exited = false) :
      SchedulerStep s (.completed index) { s with
        task := SchedulerTask.onComplete { s.task with inflight := s.task.inflight.eraseIdx index } flight.key }
  | exits (shut : s.intakeOpen = false) (idle : s.task.inflight = []) (running : s.exited = false) :
      SchedulerStep s .exit { s with exited := true }

theorem schedulerStep_step {action : Action} (enabled : s.step action = some t) : SchedulerStep s action t := by
  cases action with
  | submit =>
    simp only [Scheduler.step] at enabled
    split at enabled
    · cases enabled
    · next live =>
      split at enabled <;> cases enabled
      · exact .refused
      · exact .submits (by simpa using live)
  | acquire =>
    simp only [Scheduler.step] at enabled
    split at enabled <;> cases enabled
    next found => exact .acquires found
  | send =>
    simp only [Scheduler.step] at enabled
    split at enabled
    · next found =>
      split at enabled <;> cases enabled
      · next shut => exact .lost found (by simpa using shut)
      · next live =>
        simp only [Bool.or_eq_true, not_or, Bool.not_eq_true] at live
        exact .sends found live.1
    · cases enabled
  | abandon =>
    obtain ⟨-, rfl⟩ := of_guard enabled
    exact .abandons
  | shutdown =>
    obtain ⟨quiet, rfl⟩ := of_guard enabled
    simp only [Bool.and_eq_true, List.isEmpty_iff] at quiet
    exact .shuts quiet.1
  | dropSenders =>
    obtain ⟨quiet, rfl⟩ := of_guard enabled
    exact .dropsSenders (List.isEmpty_iff.mp quiet)
  | cancelObserved =>
    obtain ⟨ready, rfl⟩ := of_guard enabled
    simp only [Bool.and_eq_true, Bool.not_eq_true'] at ready
    exact .cancels ready.1.1 ready.1.2 ready.2
  | received =>
    simp only [Scheduler.step] at enabled
    split at enabled
    · next buffered =>
      obtain ⟨ready, rfl⟩ := of_guard enabled
      simp only [Bool.and_eq_true, Bool.not_eq_true'] at ready
      exact .receives buffered ready.1 ready.2
    · cases enabled
  | disconnected =>
    obtain ⟨ready, rfl⟩ := of_guard enabled
    simp only [Bool.and_eq_true, Bool.not_eq_true', List.isEmpty_iff] at ready
    exact .disconnects ready.1.1.1 ready.1.1.2 ready.1.2 ready.2
  | completed =>
    simp only [Scheduler.step] at enabled
    split at enabled
    · next found =>
      split at enabled <;> cases enabled
      next running => exact .completes found (by simpa using running)
    · cases enabled
  | exit =>
    obtain ⟨ready, rfl⟩ := of_guard enabled
    simp only [Bool.and_eq_true, Bool.not_eq_true', List.isEmpty_iff] at ready
    exact .exits ready.1.1 ready.1.2 ready.2

theorem step_gates {action : Action} (enabled : s.step action = some t) :
    (s.exited = true → t.exited = true) ∧ (action ≠ .shutdown → t.admission = s.admission) := by
  cases schedulerStep_step enabled with
  | shuts => exact ⟨id, fun other => absurd rfl other⟩
  | exits => exact ⟨fun _ => rfl, fun _ => rfl⟩
  | _ => exact ⟨id, fun _ => rfl⟩

def tickets (s : Scheduler) : List Nat :=
  s.admitted.map DispatchJob.ticket ++ s.submitters.map fun submitter => submitter.job.ticket

structure SystemInvariant (budget : Nat) (s : Scheduler) : Prop where
  task : Invariant s.task
  saturated : Saturated s.task
  budget : s.task.budget = max budget 1
  clean : s.intakeOpen = true ∨ s.receiverClosed = true → ∀ key, s.task.dropped key = []
  admitted : s.admitted = s.task.enqueued ++ s.channel
  issued : ∀ ticket ∈ tickets s, ticket < s.nextTicket
  unique : (tickets s).Nodup
  empty : s.intakeOpen = false → s.channel = []
  closed : s.receiverClosed = true → s.intakeOpen = false
  gone : s.sendersGone = true → s.submitters = []
  stopped : s.intakeOpen = false → s.receiverClosed = true ∨ s.sendersGone = true
  finished : s.exited = true → s.intakeOpen = false ∧ s.task.inflight = []

structure Prepared (before middle : SchedulerTask) : Prop where
  inv : Invariant middle
  started : middle.started = before.started
  pending : before.serialPending = true → middle.serialPending = true
  budget : middle.budget = before.budget
  dropped : middle.dropped = before.dropped

theorem enqueue_prepared {task : SchedulerTask} (inv : Invariant task) (job : DispatchJob)
    (clean : task.dropped job.key = []) : Prepared task (task.enqueue job) := by
  refine ⟨enqueue_invariant inv job clean, rfl, ?_, rfl, rfl⟩
  simp only [SchedulerTask.serialPending, queueOf_enqueue]
  split
  · simp
  · exact id

theorem enqueue_all_prepared {task : SchedulerTask} (inv : Invariant task) (jobs : List DispatchJob)
    (clean : ∀ key, task.dropped key = []) :
    Prepared task (jobs.foldl SchedulerTask.enqueue task) ∧
      (jobs.foldl SchedulerTask.enqueue task).enqueued = task.enqueued ++ jobs := by
  induction jobs generalizing task with
  | nil => exact ⟨⟨inv, rfl, id, rfl, rfl⟩, by simp⟩
  | cons job rest ih =>
    have first := enqueue_prepared inv job (clean _)
    obtain ⟨later, enqueued⟩ := ih first.inv clean
    exact ⟨⟨later.inv, later.started, fun pending => later.pending (first.pending pending),
      later.budget, later.dropped⟩, by simpa [SchedulerTask.enqueue] using enqueued⟩

theorem Settled.prepared {before middle : SchedulerTask} (settled : Settled before middle index) :
    Prepared before middle :=
  ⟨settled.inv, settled.started, by simp [SchedulerTask.serialPending, settled.queueOf],
    settled.budget, settled.dropped⟩

theorem dropQueued_saturated (task : SchedulerTask) : Saturated task.dropQueued := by
  constructor <;> simp [SchedulerTask.dropQueued, SchedulerTask.queueOf]

theorem spawn_invariant (budget : Nat) : SystemInvariant budget (.spawn budget) where
  task := new_invariant _ (by omega)
  saturated := by constructor <;> simp [Scheduler.spawn, SchedulerTask.new, SchedulerTask.queueOf]
  budget := rfl
  clean := fun _ _ => rfl
  admitted := rfl
  issued := by simp [tickets, Scheduler.spawn]
  unique := by simp [tickets, Scheduler.spawn]
  empty := fun _ => rfl
  closed := by simp [Scheduler.spawn]
  gone := by simp [Scheduler.spawn]
  stopped := by simp [Scheduler.spawn]
  finished := by simp [Scheduler.spawn]

theorem tickets_sublist (admitted : t.admitted = s.admitted) (submitters : t.submitters.Sublist s.submitters) :
    (tickets t).Sublist (tickets s) := by
  unfold tickets
  rw [admitted]
  exact (List.Sublist.refl _).append (submitters.map _)

theorem SystemInvariant.callers (inv : SystemInvariant budget s) {admission sendersGone cancelled : Bool}
    {submitters : List Submitter} {nextTicket : Nat}
    (issued : ∀ ticket ∈ tickets { s with submitters }, ticket < nextTicket)
    (unique : (tickets { s with submitters }).Nodup) (gone : sendersGone = true → submitters = [])
    (still : s.sendersGone = true → sendersGone = true) :
    SystemInvariant budget { s with admission, submitters, nextTicket, sendersGone, cancelled } where
  __ := inv
  issued := issued
  unique := unique
  gone := gone
  stopped shut := (inv.stopped shut).imp_right still

theorem SystemInvariant.pump (inv : SystemInvariant budget s) {middle : SchedulerTask} {intakeOpen receiverClosed : Bool}
    {channel : List DispatchJob} (prepared : Prepared s.task middle) (running : s.exited = false)
    (admitted : s.admitted = middle.enqueued ++ channel)
    (clean : intakeOpen = true ∨ receiverClosed = true → ∀ key, s.task.dropped key = [])
    (empty : intakeOpen = false → channel = []) (closed : receiverClosed = true → intakeOpen = false)
    (stopped : intakeOpen = false → receiverClosed = true ∨ s.sendersGone = true) :
    SystemInvariant budget { s with intakeOpen, receiverClosed, channel, task := middle.pump } := by
  have pumped := pump_spec prepared.inv
  refine ⟨pumped.inv, pumped.saturated, ?_, ?_, ?_, inv.issued, inv.unique, empty, closed, inv.gone,
    stopped, by simp [running]⟩
  · exact (pumped.budget.trans prepared.budget).trans inv.budget
  · intro kept key
    rw [pumped.dropped, prepared.dropped]
    exact clean kept key
  · rw [pumped.enqueued]
    exact admitted

theorem tickets_acquire (found : s.submitters[index]? = some ⟨job, false⟩) :
    tickets { s with submitters := s.submitters.set index ⟨job, true⟩ } = tickets s := by
  obtain ⟨bound, found⟩ := List.getElem?_eq_some_iff.mp found
  have same : (s.submitters.map fun submitter => submitter.job.ticket).set index job.ticket =
      s.submitters.map fun submitter => submitter.job.ticket := by
    have unchanged := @List.set_getElem_self _ (s.submitters.map fun submitter => submitter.job.ticket)
      index (by simpa using bound)
    simpa [found] using unchanged
  simp [tickets, List.map_set, same]

theorem tickets_send {permit : Bool} (found : s.submitters[index]? = some ⟨job, permit⟩)
    (channel : List DispatchJob) :
    (tickets { s with
      submitters := s.submitters.eraseIdx index, channel := channel,
      admitted := s.admitted ++ [job] }).Perm (tickets s) := by
  obtain ⟨bound, found⟩ := List.getElem?_eq_some_iff.mp found
  have moved : (⟨job, permit⟩ :: s.submitters.eraseIdx index).Perm s.submitters :=
    found ▸ List.getElem_cons_eraseIdx_perm bound
  have moved := (moved.map fun submitter => submitter.job.ticket).append_left
    (s.admitted.map DispatchJob.ticket)
  simpa [tickets] using moved

theorem SystemInvariant.submit (inv : SystemInvariant budget s) (live : s.sendersGone = false) (key : ConflictKey) :
    SystemInvariant budget { s with
      submitters := s.submitters ++ [⟨⟨key, s.nextTicket⟩, false⟩]
      nextTicket := s.nextTicket + 1 } := by
  have fresh : s.nextTicket ∉ tickets s := fun member => absurd (inv.issued _ member) (by omega)
  have extended : tickets { s with submitters := s.submitters ++ [⟨⟨key, s.nextTicket⟩, false⟩] } =
      tickets s ++ [s.nextTicket] := by simp [tickets]
  refine inv.callers ?_ ?_ (by simp [live]) id
  · intro ticket member
    rcases Library.Slots.mem_snoc (extended ▸ member) with old | rfl
    · exact Nat.lt_succ_of_lt (inv.issued ticket old)
    · exact Nat.lt_succ_self _
  · rw [extended]
    exact Library.Slots.nodup_snoc inv.unique fresh

theorem SystemInvariant.leave (inv : SystemInvariant budget s) (index : Nat) :
    SystemInvariant budget { s with submitters := s.submitters.eraseIdx index } := by
  have fewer := tickets_sublist (s := s)
    (t := { s with submitters := s.submitters.eraseIdx index }) rfl (List.eraseIdx_sublist ..)
  refine inv.callers ?_ (inv.unique.sublist fewer) ?_ id
  · intro ticket member
    exact inv.issued ticket (fewer.subset member)
  · intro gone
    simp [inv.gone gone]

theorem SystemInvariant.send (inv : SystemInvariant budget s) (found : s.submitters[index]? = some ⟨job, true⟩)
    (live : s.receiverClosed = false) :
    SystemInvariant budget { s with
      submitters := s.submitters.eraseIdx index
      channel := s.channel ++ [job]
      admitted := s.admitted ++ [job] } := by
  have moved := tickets_send found (s.channel ++ [job])
  have nonempty : s.submitters ≠ [] := by
    intro none
    simp [none] at found
  have intake : s.intakeOpen = true := by
    -- a sender is still there and the receiver is open, so the loop has not stopped reading
    by_contra shut
    rcases inv.stopped (by simpa using shut) with closed | gone
    · simp [live] at closed
    · exact nonempty (inv.gone gone)
  refine { inv with admitted := ?_, issued := ?_, unique := ?_, empty := ?_, gone := ?_ }
  · simp [inv.admitted]
  · exact fun ticket member => inv.issued ticket (moved.subset member)
  · exact moved.nodup_iff.mpr inv.unique
  · simp [intake]
  · exact fun gone => absurd (inv.gone gone) nonempty

theorem step_invariant {action : Action} (inv : SystemInvariant budget s) (enabled : s.step action = some t) :
    SystemInvariant budget t := by
  cases schedulerStep_step enabled with
  | refused => exact inv
  | submits live => exact inv.submit live _
  | acquires found =>
    refine inv.callers ?_ ?_ ?_ id
    · rw [tickets_acquire found]
      exact inv.issued
    · rw [tickets_acquire found]
      exact inv.unique
    · intro gone
      simp [inv.gone gone]
  | lost | abandons => exact inv.leave _
  | sends found isOpen => exact inv.send found isOpen
  | shuts => exact inv.callers inv.issued inv.unique inv.gone id
  | dropsSenders quiet => exact inv.callers inv.issued inv.unique (fun _ => quiet) fun _ => rfl
  | cancels intake _ running =>
    obtain ⟨prepared, enqueued⟩ := enqueue_all_prepared inv.task s.channel (inv.clean (.inl intake))
    exact inv.pump prepared running (by simp [enqueued, inv.admitted])
      (fun _ => inv.clean (.inl intake)) (fun _ => rfl) (fun _ => rfl) fun _ => .inl rfl
  | @receives job _ buffered intake running =>
    refine inv.pump (enqueue_prepared inv.task job (inv.clean (.inl intake) _)) running ?_
      (fun _ => inv.clean (.inl intake)) (fun shut => ?_) inv.closed inv.stopped
    · simp [inv.admitted, buffered, SchedulerTask.enqueue]
    · simp [intake] at shut
  | disconnects intake gone buffered running =>
    have open_ : s.receiverClosed = false := by
      by_contra closed
      simp [inv.closed (by simpa using closed)] at intake
    exact ⟨dropQueued_invariant inv.task (inv.clean (.inl intake)), dropQueued_saturated _,
      inv.budget, by simp [open_], inv.admitted, inv.issued, inv.unique, fun _ => buffered,
      fun _ => rfl, inv.gone, fun _ => .inr gone, by simp [running]⟩
  | completes found running =>
    obtain ⟨middle, settled, same⟩ := onComplete_spec inv.task found
    rw [same]
    exact inv.pump settled.prepared running (settled.enqueued ▸ inv.admitted) inv.clean inv.empty
      inv.closed inv.stopped
  | exits shut idle => exact { inv with finished := fun _ => ⟨shut, idle⟩ }

theorem reachable_invariant (reachable : Reachable Scheduler.step (.spawn budget) s) : SystemInvariant budget s :=
  reachable.invariant (spawn_invariant budget) fun _ _ _ => step_invariant

end Actr.Proof.Dispatch
