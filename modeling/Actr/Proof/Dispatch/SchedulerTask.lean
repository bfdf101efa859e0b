import Actr.Library.Slots
import Actr.Hyper.Dispatch.Scheduler

/-! # The inductive invariant of the scheduler task -/

namespace Actr.Proof.Dispatch
open Hyper.Dispatch SchedulerTask

variable {task : SchedulerTask} {key : ConflictKey} {index : Nat} {flight : Completion}

def jobsOf (key : ConflictKey) (log : List DispatchJob) : List DispatchJob :=
  log.filter fun job => job.key = key

theorem jobsOf_append (key : ConflictKey) (log more : List DispatchJob) :
    jobsOf key (log ++ more) = jobsOf key log ++ jobsOf key more :=
  List.filter_append ..

theorem jobsOf_singleton (key : ConflictKey) (job : DispatchJob) :
    jobsOf key [job] = if job.key = key then [job] else [] := by
  by_cases same : job.key = key <;> simp [jobsOf, same]

structure Invariant (task : SchedulerTask) : Prop where
  positive : 0 < task.budget
  within : task.inflight.length ≤ task.budget
  distinct : (task.inflight.map Completion.key).Nodup
  jobKey : ∀ flight ∈ task.inflight, flight.job.key = flight.key
  active : ∀ key, key ∈ task.active ↔ key ∈ task.inflight.map Completion.key
  alone : ConflictKey.serial ∈ task.active → task.inflight.length = 1
  readyDistinct : task.ready.Nodup
  ready : ∀ key, key ∈ task.ready ↔ key ≠ .serial ∧ task.queueOf key ≠ [] ∧ key ∉ task.active
  queued : ∀ key, ∀ job ∈ task.queueOf key, job.key = key
  history : ∀ key, jobsOf key task.enqueued =
    jobsOf key task.started ++ task.queueOf key ++ task.dropped key

theorem new_invariant (budget : Nat) (positive : 0 < budget) : Invariant (.new budget) := by
  constructor <;> simp [SchedulerTask.new, queueOf, jobsOf, positive]

theorem queueOf_enqueue (task : SchedulerTask) (job : DispatchJob) (key : ConflictKey) :
    (task.enqueue job).queueOf key = if key = job.key then task.queueOf job.key ++ [job] else task.queueOf key := by
  by_cases same : key = job.key <;> simp [enqueue, queueOf, Function.update, same]

theorem mem_ready_enqueue (task : SchedulerTask) (job : DispatchJob) (key : ConflictKey) :
    key ∈ (task.enqueue job).ready ↔ key ∈ task.ready ∨
      (key = job.key ∧ task.queueOf key = [] ∧ key ≠ .serial ∧ key ∉ task.active) := by
  simp only [enqueue]
  split
  · rename_i fresh
    simp only [Bool.and_eq_true, List.isEmpty_iff, Bool.not_eq_true', decide_eq_false_iff_not,
      ConflictKey.isSerial_eq_false] at fresh
    simp only [List.mem_append, List.mem_singleton]
    constructor
    · rintro (old | rfl)
      · exact .inl old
      · exact .inr ⟨rfl, fresh.1.1, fresh.1.2, fresh.2⟩
    · rintro (old | ⟨rfl, -⟩)
      · exact .inl old
      · exact .inr rfl
  · rename_i stale
    constructor
    · exact .inl
    · rintro (old | ⟨rfl, empty, keyed, inactive⟩)
      · exact old
      · refine absurd ?_ stale
        simp [empty, inactive, keyed]

theorem enqueue_invariant (inv : Invariant task) (job : DispatchJob) (clean : task.dropped job.key = []) :
    Invariant (task.enqueue job) where
  __ := inv
  readyDistinct := by
    simp only [enqueue]
    split
    · rename_i fresh
      simp only [Bool.and_eq_true, List.isEmpty_iff] at fresh
      exact Library.Slots.nodup_snoc inv.readyDistinct fun member => ((inv.ready _).mp member).2.1 fresh.1.1
    · exact inv.readyDistinct
  ready := by
    intro key
    rw [mem_ready_enqueue, inv.ready, queueOf_enqueue]
    change _ ↔ _ ∧ _ ∧ key ∉ task.active
    by_cases same : key = job.key
    · subst same
      by_cases empty : task.queueOf job.key = [] <;> simp [empty]
    · simp [same]
  queued := by
    intro key other member
    rw [queueOf_enqueue] at member
    split at member
    · rename_i same
      rcases Library.Slots.mem_snoc member with old | rfl
      · rw [same]; exact inv.queued _ _ old
      · rw [same]
    · exact inv.queued _ _ member
  history := by
    intro key
    change jobsOf key (task.enqueued ++ [job]) = jobsOf key task.started ++ _ ++ task.dropped key
    rw [jobsOf_append, inv.history, queueOf_enqueue, jobsOf_singleton]
    by_cases same : job.key = key
    · subst same
      simp [clean]
    · simp [same, Ne.symm same]

structure Started (before after : SchedulerTask) (key : ConflictKey) (job : DispatchJob)
    (rest : List DispatchJob) : Prop where
  budget : after.budget = before.budget
  ready : after.ready = before.ready
  active : after.active = insert key before.active
  inflight : after.inflight = before.inflight ++ [⟨key, job⟩]
  enqueued : after.enqueued = before.enqueued
  started : after.started = before.started ++ [job]
  dropped : after.dropped = before.dropped
  queueOf : ∀ other, after.queueOf other = if other = key then rest else before.queueOf other

theorem start_spec (task : SchedulerTask) {job : DispatchJob} {rest : List DispatchJob}
    (queue : task.queueOf key = job :: rest) : Started task (task.start key) key job rest := by
  have fields : task.start key = { task with
      queues := Function.update task.queues key (some rest)
      active := insert key task.active
      inflight := task.inflight ++ [⟨key, job⟩]
      started := task.started ++ [job] } := by
    unfold queueOf at queue
    cases found : task.queues key with
    | none => simp [found] at queue
    | some =>
      rw [found, Option.getD_some] at queue
      simp [start, found, queue]
  rw [fields]
  refine ⟨rfl, rfl, rfl, rfl, rfl, rfl, rfl, fun other => ?_⟩
  by_cases same : other = key <;> simp [Function.update, same, SchedulerTask.queueOf]

theorem start_invariant (inv : Invariant task) {job : DispatchJob} {rest : List DispatchJob}
    {remaining : List ConflictKey} (queue : task.queueOf key = job :: rest) (inactive : key ∉ task.active)
    (spare : task.inflight.length < task.budget) (barrier : .serial ∉ task.active)
    (solo : key = .serial → task.inflight = []) (readyDistinct : remaining.Nodup)
    (ready : ∀ other, other ∈ remaining ↔ other ∈ task.ready ∧ other ≠ key) :
    Invariant (start { task with ready := remaining } key) := by
  have did := start_spec { task with ready := remaining } queue
  generalize start { task with ready := remaining } key = after at did ⊢
  have jobKey : job.key = key := inv.queued key job (by simp [queue])
  have fresh : key ∉ task.inflight.map Completion.key := fun member =>
    inactive ((inv.active key).mpr member)
  have queueOf_after (other : ConflictKey) :
      after.queueOf other = if other = key then rest else task.queueOf other := did.queueOf other
  constructor
  case positive =>
    rw [did.budget]
    exact inv.positive
  case within =>
    rw [did.budget, did.inflight]
    simpa [Nat.succ_le_iff] using spare
  case distinct =>
    rw [did.inflight]
    simp only [List.map_append, List.map_cons, List.map_nil]
    exact Library.Slots.nodup_snoc inv.distinct fresh
  case jobKey =>
    intro flight member
    rw [did.inflight] at member
    rcases Library.Slots.mem_snoc member with old | rfl
    · exact inv.jobKey flight old
    · exact jobKey
  case active =>
    intro other
    rw [did.active, did.inflight]
    simp only [Finset.mem_insert, List.map_append, List.map_cons, List.map_nil, List.mem_append,
      List.mem_singleton, inv.active other]
    exact or_comm
  case alone =>
    intro serial
    rw [did.active] at serial
    rcases Finset.mem_insert.mp serial with same | old
    · simp [did.inflight, solo same.symm]
    · exact absurd old barrier
  case readyDistinct =>
    rw [did.ready]
    exact readyDistinct
  case ready =>
    intro other
    rw [did.ready, ready, inv.ready, queueOf_after, did.active, Finset.mem_insert]
    by_cases same : other = key <;> simp [same]
  case queued =>
    intro other queuedJob member
    rw [queueOf_after] at member
    split at member
    · rename_i same
      rw [same]
      exact inv.queued key queuedJob (by simp [queue, member])
    · exact inv.queued other queuedJob member
  case history =>
    intro other
    rw [queueOf_after, did.enqueued, did.started, did.dropped, inv.history, jobsOf_append,
      jobsOf_singleton]
    by_cases same : other = key
    · subst same
      simp [queue, jobKey]
    · simp [same, show job.key ≠ other from jobKey ▸ Ne.symm same]

theorem exists_head_of_serialPending (pending : task.serialPending = true) :
    ∃ job rest, task.queueOf .serial = job :: rest :=
  List.exists_cons_of_ne_nil (by simpa [serialPending] using pending)

theorem start_serial_invariant (inv : Invariant task) (pending : task.serialPending = true)
    (idle : task.inflight = []) : Invariant (task.start .serial) := by
  obtain ⟨job, rest, queue⟩ := exists_head_of_serialPending pending
  have inactive : ConflictKey.serial ∉ task.active := by simp [inv.active, idle]
  refine start_invariant inv queue inactive (by simpa [idle] using inv.positive) inactive
    (fun _ => idle) inv.readyDistinct fun other => ?_
  constructor
  · exact fun member => ⟨member, ((inv.ready other).mp member).1⟩
  · exact And.left

theorem start_ready_invariant (inv : Invariant task) {rest : List ConflictKey} (popped : task.ready = key :: rest)
    (spare : task.inflight.length < task.budget) (barrier : .serial ∉ task.active) :
    Invariant (start { task with ready := rest } key) := by
  obtain ⟨keyed, nonempty, inactive⟩ := (inv.ready key).mp (by simp [popped])
  obtain ⟨job, jobs, queue⟩ := List.exists_cons_of_ne_nil nonempty
  have distinct := inv.readyDistinct
  rw [popped, List.nodup_cons] at distinct
  refine start_invariant inv queue inactive spare barrier (fun same => absurd same keyed)
    distinct.2 fun other => ?_
  rw [popped, List.mem_cons]
  constructor
  · exact fun member => ⟨.inr member, fun same => distinct.1 (same ▸ member)⟩
  · rintro ⟨same | member, different⟩
    · exact absurd same different
    · exact member

theorem start_ready_spec (inv : Invariant task) {rest : List ConflictKey} (popped : task.ready = key :: rest) :
    key ≠ .serial ∧ ∃ job jobs,
      Started { task with ready := rest } (start { task with ready := rest } key) key job jobs := by
  obtain ⟨keyed, nonempty, -⟩ := (inv.ready key).mp (by simp [popped])
  obtain ⟨job, jobs, queue⟩ := List.exists_cons_of_ne_nil nonempty
  exact ⟨keyed, job, jobs, start_spec { task with ready := rest } queue⟩

structure PumpedReady (before after : SchedulerTask) : Prop where
  inv : Invariant after
  flights : ∃ new, after.inflight = before.inflight ++ new ∧
    after.started = before.started ++ new.map Completion.job
  serialQueue : after.queueOf .serial = before.queueOf .serial
  budget : after.budget = before.budget
  dropped : after.dropped = before.dropped
  enqueued : after.enqueued = before.enqueued
  stopped : after.ready = [] ∨ after.budget ≤ after.inflight.length

theorem pumpReady_spec (keys : List ConflictKey) (inv : Invariant task) (ready : task.ready = keys)
    (barrier : .serial ∉ task.active) : PumpedReady task (pumpReady keys task) := by
  -- The loop stops at the first key that exceeds the budget; until then each start keeps the invariant.
  induction keys generalizing task with
  | nil => exact ⟨inv, ⟨[], by simp [pumpReady], by simp [pumpReady]⟩, rfl, rfl, rfl, rfl, .inl ready⟩
  | cons key rest ih =>
    rw [pumpReady]
    split
    · rename_i spare
      obtain ⟨keyed, job, jobs, did⟩ := start_ready_spec inv ready
      have barrierAfter : .serial ∉ (start { task with ready := rest } key).active := by
        simp [did.active, Ne.symm keyed, barrier]
      have next := ih (start_ready_invariant inv ready spare barrier) did.ready barrierAfter
      refine ⟨next.inv, ?_, ?_, next.budget.trans did.budget, next.dropped.trans did.dropped,
        next.enqueued.trans did.enqueued, next.stopped⟩
      · obtain ⟨new, inflight, started⟩ := next.flights
        exact ⟨⟨key, job⟩ :: new, by simp [inflight, did.inflight], by simp [started, did.started]⟩
      · rw [next.serialQueue, did.queueOf, if_neg (Ne.symm keyed)]
        rfl
    · rename_i spent
      exact ⟨inv, ⟨[], by simp, by simp⟩, rfl, rfl, rfl, rfl, .inr (not_lt.mp spent)⟩

structure Saturated (task : SchedulerTask) : Prop where
  busy : ∀ key, task.queueOf key ≠ [] → task.inflight ≠ []
  spare : ∀ key, task.queueOf key ≠ [] → task.inflight.length < task.budget →
    task.serialPending = true ∨ .serial ∈ task.active ∨ key ∈ task.active

structure Pumped (before after : SchedulerTask) : Prop where
  inv : Invariant after
  saturated : Saturated after
  budget : after.budget = before.budget
  dropped : after.dropped = before.dropped
  enqueued : after.enqueued = before.enqueued
  flights : ∃ new, after.inflight = before.inflight ++ new ∧
    after.started = before.started ++ new.map Completion.job ∧
    (before.serialPending = true ∨ after.serialPending = true →
      ∀ flight ∈ new, flight.job.key = .serial)

theorem Invariant.active_busy (inv : Invariant task) (active : key ∈ task.active) : task.inflight ≠ [] := by
  have member := (inv.active key).mp active
  intro idle
  simp [idle] at member

theorem saturated_of_stopped (inv : Invariant task) (quiet : task.queueOf .serial = [])
    (stopped : task.ready = [] ∨ task.budget ≤ task.inflight.length) : Saturated task := by
  have waiting (key : ConflictKey) (nonempty : task.queueOf key ≠ []) :
      key ∈ task.active ∨ task.budget ≤ task.inflight.length := by
    rcases stopped with drained | spent
    · left
      by_contra inactive
      have keyed : key ≠ .serial := fun same => nonempty (same ▸ quiet)
      have member := (inv.ready key).mpr ⟨keyed, nonempty, inactive⟩
      simp [drained] at member
    · exact .inr spent
  constructor
  · intro key nonempty
    rcases waiting key nonempty with active | spent
    · exact inv.active_busy active
    · have positive := inv.positive
      intro idle
      simp [idle] at spent
      omega
  · intro key nonempty spare
    rcases waiting key nonempty with active | spent
    · exact .inr (.inr active)
    · omega

theorem pump_spec (inv : Invariant task) : Pumped task task.pump := by
  unfold pump
  split
  · rename_i running
    exact ⟨inv, ⟨fun _ _ => inv.active_busy running, fun _ _ _ => .inr (.inl running)⟩,
      rfl, rfl, rfl, [], by simp, by simp, by simp⟩
  · rename_i barrier
    split
    · rename_i pending
      split
      · rename_i idle
        have idle : task.inflight = [] := List.isEmpty_iff.mp idle
        have after := start_serial_invariant inv pending idle
        obtain ⟨job, rest, queue⟩ := exists_head_of_serialPending pending
        have did := start_spec task queue
        have running : ConflictKey.serial ∈ (task.start .serial).active := by simp [did.active]
        refine ⟨after, ⟨fun _ _ => after.active_busy running, fun _ _ _ => .inr (.inl running)⟩,
          did.budget, did.dropped, did.enqueued, [⟨.serial, job⟩], did.inflight, did.started, ?_⟩
        intro _ flight member
        rw [List.mem_singleton.mp member]
        exact inv.queued .serial job (by simp [queue])
      · rename_i busy
        have busy : task.inflight ≠ [] := by simpa using busy
        exact ⟨inv, ⟨fun _ _ => busy, fun _ _ _ => .inl pending⟩, rfl, rfl, rfl, [], by simp,
          by simp, by simp⟩
    · rename_i quiet
      have after := pumpReady_spec task.ready inv rfl barrier
      have quietAfter : (pumpReady task.ready task).queueOf .serial = [] := by
        rw [after.serialQueue]
        simpa [serialPending] using quiet
      obtain ⟨new, inflight, started⟩ := after.flights
      refine ⟨after.inv, saturated_of_stopped after.inv quietAfter after.stopped, after.budget, after.dropped,
        after.enqueued, new, inflight, started, ?_⟩
      rintro (pending | pending)
      · exact absurd pending quiet
      · simp [serialPending, quietAfter] at pending

structure Settled (before middle : SchedulerTask) (index : Nat) : Prop where
  inv : Invariant middle
  inflight : middle.inflight = before.inflight.eraseIdx index
  queueOf : ∀ key, middle.queueOf key = before.queueOf key
  budget : middle.budget = before.budget
  dropped : middle.dropped = before.dropped
  enqueued : middle.enqueued = before.enqueued
  started : middle.started = before.started

theorem key_not_mem_eraseIdx (inv : Invariant task) (found : task.inflight[index]? = some flight)
    (key : ConflictKey) :
    key ∈ (task.inflight.eraseIdx index).map Completion.key ↔
      key ∈ task.inflight.map Completion.key ∧ key ≠ flight.key := by
  have bound : index < (task.inflight.map Completion.key).length := by
    rw [List.length_map]
    exact (List.getElem?_eq_some_iff.mp found).1
  have erased : (task.inflight.eraseIdx index).map Completion.key =
      (task.inflight.map Completion.key).erase flight.key := by
    rw [← List.eraseIdx_map, ← inv.distinct.erase_getElem index bound]
    congr 1
    simp [(List.getElem?_eq_some_iff.mp found).2]
  rw [erased, inv.distinct.mem_erase_iff]
  exact and_comm

structure Landed (task : SchedulerTask) (key : ConflictKey) (rest : List Completion) : Prop where
  within : rest.length ≤ task.budget
  distinct : (rest.map Completion.key).Nodup
  jobKey : ∀ other ∈ rest, other.job.key = other.key
  active : ∀ other, other ∈ task.active.erase key ↔ other ∈ rest.map Completion.key
  alone : ConflictKey.serial ∈ task.active.erase key → rest.length = 1
  unready : key ∉ task.ready

theorem landed (inv : Invariant task)
    (found : task.inflight[index]? = some flight) : Landed task flight.key (task.inflight.eraseIdx index) := by
  have remaining := key_not_mem_eraseIdx inv found
  have sublist : (task.inflight.eraseIdx index).Sublist task.inflight := List.eraseIdx_sublist ..
  have running : flight.key ∈ task.active :=
    (inv.active _).mpr (List.mem_map.mpr ⟨flight, List.mem_of_getElem? found, rfl⟩)
  constructor
  case within => exact sublist.length_le.trans inv.within
  case distinct => exact inv.distinct.sublist (sublist.map _)
  case jobKey =>
    intro other member
    exact inv.jobKey other (sublist.subset member)
  case active =>
    intro key
    rw [Finset.mem_erase, remaining, inv.active]
    exact and_comm
  case alone =>
    intro serial
    obtain ⟨different, serial⟩ := Finset.mem_erase.mp serial
    obtain ⟨single, only⟩ := List.length_eq_one_iff.mp (inv.alone serial)
    rw [inv.active, only] at running serial
    simp only [List.map_cons, List.map_nil, List.mem_singleton] at running serial
    exact absurd (serial.trans running.symm) different
  case unready =>
    intro member
    exact ((inv.ready _).mp member).2.2 running

theorem onComplete_spec (inv : Invariant task) (found : task.inflight[index]? = some flight) :
    ∃ middle, Settled task middle index ∧
      onComplete { task with inflight := task.inflight.eraseIdx index } flight.key = middle.pump := by
  obtain ⟨within, distinct, jobKey, active, alone, unready⟩ := landed inv found
  unfold onComplete
  simp only
  by_cases empty : task.queueOf flight.key = []
  · rw [if_pos (by simpa [queueOf] using empty)]
    have queueOf_after (key : ConflictKey) :
        ((Function.update task.queues flight.key none) key).getD [] = task.queueOf key := by
      by_cases same : key = flight.key
      · simp [Function.update, same, empty]
      · simp [Function.update, same, queueOf]
    refine ⟨_, ?_, rfl⟩
    refine ⟨⟨inv.positive, within, distinct, jobKey, active, alone,
      inv.readyDistinct, fun key => ?_, fun key job member => ?_, fun key => ?_⟩,
      rfl, queueOf_after, rfl, rfl, rfl, rfl⟩
    · rw [queueOf, queueOf_after, inv.ready, Finset.mem_erase]
      by_cases same : key = flight.key <;> simp [same, empty]
    · rw [queueOf, queueOf_after] at member
      exact inv.queued key job member
    · rw [queueOf, queueOf_after]
      exact inv.history key
  · rw [if_neg (by simpa [queueOf] using empty)]
    by_cases serial : flight.key = .serial
    · rw [if_neg (by simp [serial])]
      refine ⟨_, ?_, rfl⟩
      refine ⟨⟨inv.positive, within, distinct, jobKey, active, alone,
        inv.readyDistinct, fun key => ?_, inv.queued, inv.history⟩,
        rfl, fun _ => rfl, rfl, rfl, rfl, rfl⟩
      change key ∈ task.ready ↔ _ ∧ task.queueOf key ≠ [] ∧ _
      rw [inv.ready, Finset.mem_erase, serial]
      by_cases same : key = .serial <;> simp [same]
    · rw [if_pos (by simpa using serial)]
      refine ⟨_, ?_, rfl⟩
      refine ⟨⟨inv.positive, within, distinct, jobKey, active, alone,
        ?_, fun key => ?_, inv.queued, inv.history⟩,
        rfl, fun _ => rfl, rfl, rfl, rfl, rfl⟩
      · exact Library.Slots.nodup_snoc inv.readyDistinct unready
      · change key ∈ task.ready ++ [flight.key] ↔ _ ∧ task.queueOf key ≠ [] ∧ _
        rw [List.mem_append, List.mem_singleton, inv.ready, Finset.mem_erase]
        by_cases same : key = flight.key <;> simp [same, serial, empty]

theorem dropQueued_invariant (inv : Invariant task) (clean : ∀ key, task.dropped key = []) :
    Invariant task.dropQueued where
  __ := inv
  readyDistinct := List.nodup_nil
  ready := by simp [dropQueued, queueOf]
  queued := by simp [dropQueued, queueOf]
  history := by
    intro key
    change jobsOf key task.enqueued = jobsOf key task.started ++ [] ++ (task.dropped key ++ task.queueOf key)
    rw [inv.history, clean]
    simp

end Actr.Proof.Dispatch
