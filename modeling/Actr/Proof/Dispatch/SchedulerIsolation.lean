import Actr.Proof.Dispatch.ConflictKeyProjection
import Actr.Proof.Dispatch.Scheduler

namespace Actr.Proof.Dispatch
open Hyper.Dispatch Library.Machine Library.Protobuf

variable {task : SchedulerTask}

structure Isolated (budget : Nat) (s : Scheduler) : Prop where
  withinBudget : s.task.inflight.length ≤ max budget 1
  onePerKey : ∀ key, (s.task.inflight.filter fun flight => flight.job.key = key).length ≤ 1
  enqueueOrder : ∀ key, jobsOf key s.task.started <+: jobsOf key s.task.enqueued
  serialAlone : ∀ flight ∈ s.task.inflight, flight.job.key = .serial → s.task.inflight = [flight]
  serialFirst : ∀ action t, s.step action = some t →
    s.task.serialPending = true ∨ t.task.serialPending = true →
      ∃ new, t.task.started = s.task.started ++ new ∧ ∀ job ∈ new, job.key = .serial
  activeExact : ∀ key, key ∈ s.task.active ↔ ∃ flight ∈ s.task.inflight, flight.job.key = key
  readyDistinct : s.task.ready.Nodup
  readyExact : ∀ key, key ∈ s.task.ready ↔
    key ≠ .serial ∧ s.task.queueOf key ≠ [] ∧ key ∉ s.task.active

theorem Invariant.mem_active (inv : Invariant task) (key : ConflictKey) :
    key ∈ task.active ↔ ∃ flight ∈ task.inflight, flight.job.key = key := by
  rw [inv.active, List.mem_map]
  constructor
  · rintro ⟨flight, member, same⟩
    exact ⟨flight, member, (inv.jobKey flight member).trans same⟩
  · rintro ⟨flight, member, same⟩
    exact ⟨flight, member, (inv.jobKey flight member).symm.trans same⟩

theorem Invariant.onePerKey (inv : Invariant task) (key : ConflictKey) :
    (task.inflight.filter fun flight => flight.job.key = key).length ≤ 1 := by
  have counted : (task.inflight.filter fun flight => flight.job.key = key).length =
      (task.inflight.map Completion.key).count key := by
    rw [List.count_eq_countP, List.countP_map, List.countP_eq_length_filter]
    congr 1
    apply List.filter_congr
    intro flight member
    rw [inv.jobKey flight member]
    rfl
  rw [counted]
  exact List.nodup_iff_count_le_one.mp inv.distinct key

theorem Invariant.serialAlone (inv : Invariant task) (flight : Completion) (member : flight ∈ task.inflight)
    (serial : flight.job.key = .serial) : task.inflight = [flight] := by
  obtain ⟨single, only⟩ := List.length_eq_one_iff.mp
    (inv.alone ((inv.mem_active .serial).mpr ⟨flight, member, serial⟩))
  rw [only, List.mem_singleton] at member
  rw [only, member]

theorem pump_starts_serial {before middle : SchedulerTask} (prepared : Prepared before middle)
    (pending : before.serialPending = true ∨ middle.pump.serialPending = true) :
    ∃ new, middle.pump.started = before.started ++ new ∧ ∀ job ∈ new, job.key = .serial := by
  obtain ⟨new, -, started, serial⟩ := (pump_spec prepared.inv).flights
  refine ⟨new.map Completion.job, by rw [started, prepared.started], ?_⟩
  intro job member
  obtain ⟨flight, started, rfl⟩ := List.mem_map.mp member
  exact serial (pending.imp_left prepared.pending) flight started

theorem step_starts_serial {budget : Nat} {s t : Scheduler} {action : Action}
    (inv : SystemInvariant budget s) (enabled : s.step action = some t)
    (pending : s.task.serialPending = true ∨ t.task.serialPending = true) :
    ∃ new, t.task.started = s.task.started ++ new ∧ ∀ job ∈ new, job.key = .serial := by
  cases schedulerStep_step enabled with
  | cancels intake =>
    exact pump_starts_serial
      (enqueue_all_prepared inv.task s.channel (inv.clean (.inl intake))).1 pending
  | @receives job _ _ intake =>
    exact pump_starts_serial (enqueue_prepared inv.task job (inv.clean (.inl intake) _)) pending
  | completes found =>
    obtain ⟨middle, settled, same⟩ := onComplete_spec inv.task found
    rw [same] at pending ⊢
    exact pump_starts_serial settled.prepared pending
  | _ => exact ⟨[], (List.append_nil _).symm, nofun⟩

theorem scheduler_isolation (budget : Nat) (s : Scheduler)
    (reachable : Reachable Scheduler.step (.spawn budget) s) : Isolated budget s := by
  have inv := reachable_invariant reachable
  refine ⟨inv.budget ▸ inv.task.within, inv.task.onePerKey, ?_, inv.task.serialAlone,
    fun _ _ enabled pending => step_starts_serial inv enabled pending, inv.task.mem_active,
    inv.task.readyDistinct, inv.task.ready⟩
  intro key
  rw [inv.task.history, List.append_assoc]
  exact List.prefix_append ..

theorem scheduler_isolation_two : ∃ s, Reachable Scheduler.step (.spawn 2) s ∧
    s.task.inflight.length = 2 ∧ s.task.queueOf (.scoped "d" [1]) ≠ [] ∧ Isolated 2 s := by
  have reachable : Reachable Scheduler.step (.spawn 2) _ :=
    ⟨[.submit (.scoped "d" [1]), .acquire 0, .send 0, .submit (.scoped "d" [2]), .acquire 0, .send 0,
      .submit (.scoped "d" [1]), .acquire 0, .send 0, .received, .received, .received], rfl⟩
  exact ⟨_, reachable, by decide, by decide, scheduler_isolation 2 _ reachable⟩

theorem active_not_scoped_only : ¬ ∀ s, Reachable Scheduler.step (.spawn 1) s → ∀ key, key ∈ s.task.active ↔
      key ≠ .serial ∧ ∃ flight ∈ s.task.inflight, flight.job.key = key := by
  intro claimed
  have exact_ := claimed _ ⟨[.submit .serial, .acquire 0, .send 0, .received], rfl⟩ .serial
  exact (exact_.mp (by decide)).1 rfl

theorem Invariant.same_flight (inv : Invariant task) {i j : Nat} {first second : Completion}
    (here : task.inflight[i]? = some first) (there : task.inflight[j]? = some second)
    (conflict : first.job.key = .serial ∨ first.job.key = second.job.key) : i = j := by
  have listed := List.mem_of_getElem? here
  have inside := (List.getElem?_eq_some_iff.mp here).1
  rcases conflict with serial | same
  · have inside' := (List.getElem?_eq_some_iff.mp there).1
    rw [inv.serialAlone first listed serial, List.length_singleton] at inside inside'
    omega
  · rw [inv.jobKey first listed, inv.jobKey second (List.mem_of_getElem? there)] at same
    apply (List.getElem?_inj (by simpa using inside) inv.distinct).mp
    simp [here, there, same]

/-- Two requests in flight differ in the declared field, also when they come in on two routes of one domain. -/
theorem conflicting_requests_never_overlap (spec : ConflictKeySpec) (budget : Nat) (actions : List Action) :
    Along Scheduler.step (fun _ _ t => ∀ routeKey routeKey' domain domain' tag kind,
      spec.rules.lookup routeKey = some ⟨.payloadField tag kind, domain⟩ →
      spec.rules.lookup routeKey' = some ⟨.payloadField tag kind, domain'⟩ →
      domain.getD routeKey = domain'.getD routeKey' →
      ∀ p q records records', WellFormed false p records → WellFormed false q records' →
        fieldValue (scalarOf kind) tag records = fieldValue (scalarOf kind) tag records' →
      ∀ (i j : Nat) first second callerId callerId',
        t.task.inflight[i]? = some first → first.job.key = spec.extract routeKey callerId p →
        t.task.inflight[j]? = some second → second.job.key = spec.extract routeKey' callerId' q → i = j)
      (.spawn budget) actions := by
  refine along_of_invariant (spawn_invariant budget) (fun s action t inv (_ : True) taken => ?_) fun _ _ => trivial
  have inv := step_invariant inv taken
  refine ⟨?_, inv⟩
  intro routeKey routeKey' domain domain' tag kind declared declared' shared p q records records' formed formed' equal
    i j first second callerId callerId' here keyed there keyed'
  rcases extract_payloadField declared callerId p with serial | ⟨_, _, _, own, projection⟩
  · exact inv.task.same_flight here there (.inl (keyed.trans serial))
  rcases extract_payloadField declared' callerId' q with serial | ⟨_, _, _, own', projection'⟩
  · exact (inv.task.same_flight there here (.inl (keyed'.trans serial))).symm
  · have same := (projected_keys projection projection' formed formed').mp equal
    exact inv.task.same_flight here there (.inr (by rw [keyed, keyed', own, own', same, shared]))

end Actr.Proof.Dispatch
