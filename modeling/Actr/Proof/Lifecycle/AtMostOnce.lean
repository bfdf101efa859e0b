import Actr.Proof.Lifecycle.Replies

/-! # At most one handler run for an id -/

namespace Actr.Proof.Lifecycle
open Actr.Protocol Hyper.Lifecycle Hyper.Lifecycle.Runtime Library.Machine

/-- Between two flights of one id the older one was completed, and its time to live since then is over. -/
def AtMostOnce (flights : List Flight) : Prop :=
  flights.Pairwise fun newer older => newer.requestId = older.requestId →
    ∃ time result, older.completion = some (time, result) ∧ time + dedupTtl ≤ newer.markedAt

/-- The check comes for an id whose result is too old by the arrival of its request, but not by its
completion. -/
def Check.Late (check : Check) : Prop :=
  ∃ flight ∈ check.flights, flight.requestId = check.requestId ∧
    ∃ time result, flight.completion = some (time, result) ∧
      flight.markedAt + dedupTtl ≤ check.time ∧ check.time < time + dedupTtl

def NoLateCheck (checks : List Check) : Prop := ∀ check ∈ checks, ¬Check.Late check

theorem pairwise_find? {α : Type} {R : α → α → Prop} {p : α → Bool} {l : List α} {first other : α}
    (pairwise : l.Pairwise R) (found : l.find? p = some first) (member : other ∈ l) (holds : p other = true)
    (different : other ≠ first) : R first other := by
  obtain ⟨-, before, after, rfl, none⟩ := List.find?_eq_some_iff_append.mp found
  rcases List.mem_append.mp member with member | member
  · have fails := none other member
    simp [holds] at fails
  · rcases List.mem_cons.mp member with same | member
    · exact absurd same different
    · exact List.rel_of_pairwise_cons (List.pairwise_append.mp pairwise).2.1 member

section Window

variable {node : Node} {s : Runtime} {now : Nat} {id : String}

theorem absent_flights (ledger : Ledger s) (later : s.clock ≤ now)
    (absent : (s.dedup.evictExpired now).entries id = none) {flight : Flight} (member : flight ∈ s.flights)
    (mine : flight.requestId = id) :
    ∃ time result, flight.completion = some (time, result) ∧ flight.markedAt + dedupTtl ≤ now := by
  have entry := evicted_entries ledger later id
  rw [absent] at entry
  cases isLast : s.lastFlight id with
  | none =>
    have none := List.find?_eq_none.mp isLast flight member
    simp [mine] at none
  | some last =>
    have old : ∃ time result, last.completion = some (time, result) ∧ last.markedAt + dedupTtl ≤ now := by
      cases completion : last.completion with
      | none => simp [isLast, EntryOf, completion] at entry
      | some done =>
        simp only [isLast, EntryOf, completion, reduceCtorEq, false_or, true_and] at entry
        exact ⟨done.1, done.2, rfl, entry⟩
    by_cases same : flight = last
    · rw [same]
      exact old
    · obtain ⟨_, _, -, expired⟩ := old
      have order := pairwise_find? ledger.ordered isLast member (by simpa using mine) same
      have completed := pairwise_find? ledger.superseded isLast member (by simpa using mine) same
        ((lastFlight_requestId isLast).2.trans mine.symm)
      obtain ⟨⟨time, result⟩, done⟩ := Option.isSome_iff_exists.mp completed
      exact ⟨time, result, done, by omega⟩

theorem present_not_late {entry : Entry} (ledger : Ledger s) (later : s.clock ≤ now) (once : AtMostOnce s.flights)
    (present : (s.dedup.evictExpired now).entries id = some entry) : ¬Check.Late ⟨id, now, s.flights⟩ := by
  rintro ⟨flight, member, mine, time, result, done, expired, early⟩
  obtain ⟨stored, retained⟩ := Option.filter_eq_some_iff.mp present
  cases isLast : s.lastFlight id with
  | none =>
    have none := List.find?_eq_none.mp isLast flight member
    simp [mine] at none
  | some last =>
    by_cases same : flight = last
    · subst same
      have held := ledger.entries id
      simp only [isLast, EntryOf, done, stored, Option.some.injEq, reduceCtorEq, false_and, or_false] at held
      rw [held] at retained
      simp only [DedupState.retained, ledger.ttl, decide_eq_true_eq] at retained
      simp only at expired
      omega
    · have before := pairwise_find? once isLast member (by simpa using mine) same
        ((lastFlight_requestId isLast).2.trans mine.symm)
      obtain ⟨time', result', done', elapsed⟩ := before
      rw [done, Option.some.injEq, Prod.mk.injEq] at done'
      have clock := ledger.times last (lastFlight_requestId isLast).1
      simp only at early
      omega

theorem atMostOnce_settle {ticket time : Nat} {cached : ActorResult Bytes} {task : Admission} (ledger : Ledger s)
    (found : s.tasks[ticket]? = some task) (running : task.phase = .dispatching) :
    AtMostOnce (s.flights.map (settle ticket time cached)) ↔ AtMostOnce s.flights := by
  obtain ⟨flight, member, mine, -, unfinished, -⟩ := dispatching_flight ledger found running
  -- A flight with a newer one for its id was completed, so it is not the one that ends now.
  have other {older : Flight} (listed : older ∈ s.flights) (completed : older.completion.isSome = true) :
      settle ticket time cached older = older := by
    apply settle_other
    intro same
    rw [flight_unique ledger listed member (same.trans mine.symm), unfinished] at completed
    cases completed
  unfold AtMostOnce
  rw [List.pairwise_map]
  constructor
  · intro once
    apply (once.and ledger.superseded).imp_of_mem
    rintro newer older - listed ⟨apart, completed⟩ same
    have result := apart (by simpa using same)
    rw [other listed (completed same)] at result
    simpa using result
  · intro once
    apply (once.and ledger.superseded).imp_of_mem
    rintro newer older - listed ⟨apart, completed⟩ same
    have id : newer.requestId = older.requestId := by simpa using same
    rw [other listed (completed id)]
    simpa using apart id

theorem window_step {t : Runtime} (ledger : Ledger s) (effect : Effect node s t)
    (before : AtMostOnce s.flights ↔ NoLateCheck s.checks) : AtMostOnce t.flights ↔ NoLateCheck t.checks := by
  cases effect with
  | refused | woken | expired => exact before
  | marked callerId envelope now phase later admitted absent =>
    have window : (∀ flight ∈ s.flights, envelope.requestId = flight.requestId →
        ∃ time result, flight.completion = some (time, result) ∧ time + dedupTtl ≤ now) ↔
        ¬Check.Late ⟨envelope.requestId, now, s.flights⟩ := by
      constructor
      · rintro elapsed ⟨flight, member, mine, time, result, done, -, early⟩
        obtain ⟨time', result', done', bound⟩ := elapsed flight member mine.symm
        rw [done, Option.some.injEq, Prod.mk.injEq] at done'
        simp only at early
        omega
      · intro notLate flight member mine
        obtain ⟨time, result, done, expired⟩ := absent_flights ledger later absent member mine.symm
        refine ⟨time, result, done, ?_⟩
        by_contra early
        exact notLate ⟨flight, member, mine.symm, time, result, done, expired, Nat.not_le.mp early⟩
    simp only [withCheck, AtMostOnce, NoLateCheck, List.pairwise_cons, List.forall_mem_cons]
    rw [window]
    exact and_congr_right fun _ => before
  | joined _ _ _ _ _ later _ present | hit _ _ _ _ _ later _ present =>
    have notLate (once : AtMostOnce s.flights) := present_not_late ledger later once present
    simp only [withCheck, NoLateCheck, List.forall_mem_cons]
    exact ⟨fun once => ⟨notLate once, before.mp once⟩, fun both => before.mpr both.2⟩
  | finished ticket task result dispatched now later found running =>
    exact (atMostOnce_settle ledger found running).trans before

theorem window_reachable (reachable : Reachable (step node) .initial s) :
    AtMostOnce s.flights ↔ NoLateCheck s.checks := by
  have both : Ledger s ∧ (AtMostOnce s.flights ↔ NoLateCheck s.checks) := by
    apply reachable.invariant
    · exact ⟨ledger_initial, by simp [Runtime.initial, AtMostOnce, NoLateCheck]⟩
    · rintro before action after ⟨ledger, window⟩ taken
      have effect := effect_of_step taken
      exact ⟨ledger_step ledger effect, window_step ledger effect window⟩
  exact both.2

end Window

theorem dedup_at_most_once {node : Node} {s : Runtime} (reachable : Reachable (step node) .initial s) :
    (AtMostOnce s.flights ↔ NoLateCheck s.checks) ∧
    (∀ flight ∈ s.flights, flight.completion = none →
      s.dedup.entries flight.requestId = some ⟨flight.markedAt, .inFlight flight.ticket⟩) ∧
    (∀ (ticket : Nat) task owner reply, s.tasks[ticket]? = some task → task.phase = .resolved reply →
      task.role = .waited owner ∨ task.role = .cached owner →
      ∃ flight ∈ s.flights, flight.ticket = owner ∧ flight.requestId = task.envelope.requestId ∧
        ((∃ time, flight.completion = some (time, reply)) ∨
          (task.role = .waited owner ∧ reply = .error (duplicateTimedOut (waitTimeout task))))) := by
  have sound := sound_reachable reachable
  refine ⟨window_reachable reachable, ?_, ?_⟩
  · intro flight member unfinished
    have entry := sound.ledger.entries flight.requestId
    simpa only [sound.ledger.last flight member unfinished, EntryOf, unfinished] using entry
  · intro ticket task owner reply found resolved role
    have holds := sound.accounted ticket task found
    rcases role with role | role
    · simp only [RoleHolds, role, WaitedHolds, resolved] at holds
      obtain ⟨flight, ⟨member, mine, -, id⟩, ⟨_, impossible⟩ | ⟨time, _, same, done⟩ | same⟩ := holds
      · cases impossible
      · cases same
        exact ⟨flight, member, mine, id, .inl ⟨time, done⟩⟩
      · cases same
        exact ⟨flight, member, mine, id, .inr ⟨role, rfl⟩⟩
    · simp only [RoleHolds, role, resolved] at holds
      obtain ⟨flight, ⟨member, mine, -, id⟩, time, _, same, done⟩ := holds
      cases same
      exact ⟨flight, member, mine, id, .inl ⟨time, done⟩⟩

def startedNode : Node where
  actorId := some ⟨⟨1⟩, 1, ⟨"acme", "docs", "1.0.0"⟩⟩
  acl := none
  hasCredentialState := true
  hasDispatchScheduler := false
  conflictKeys := ⟨[]⟩

def requestFor (id : String) : RpcEnvelope := ⟨"doc.Docs.Update", none, none, some 1, id, 60000⟩

def second : Nat := 1000000000

theorem slow_handler_runs_twice : ∃ s, Reachable (step startedNode) .initial s ∧ ¬AtMostOnce s.flights ∧
    s.tasks.map Admission.phase = [.resolved (.ok [1]), .dispatching] := by
  let actions : List Action := [.incoming none (requestFor "r") 0, .dispatched 0 (.ok [1]) (31 * second),
    .incoming none (requestFor "r") (31 * second)]
  refine ⟨_, ⟨actions, rfl⟩, ?_, by decide⟩
  intro once
  obtain ⟨time, result, done, elapsed⟩ := List.rel_of_pairwise_cons once List.mem_cons_self rfl
  cases done
  exact absurd elapsed (by decide)

theorem dedup_at_most_once_retry : ∃ s, Reachable (step startedNode) .initial s ∧ AtMostOnce s.flights ∧
    s.tasks.map Admission.phase = [.resolved (.ok [1]), .resolved (.ok [1])] := by
  let actions : List Action := [.incoming none (requestFor "r") 0, .dispatched 0 (.ok [1]) second,
    .incoming none (requestFor "r") (6 * second)]
  have reachable : Reachable (step startedNode) .initial _ := ⟨actions, rfl⟩
  refine ⟨_, reachable, (dedup_at_most_once reachable).1.mpr ?_, by decide⟩
  intro check member
  rcases List.mem_pair.mp member with rfl | rfl
  · rintro ⟨flight, listed, -, _, _, done, expired, -⟩
    cases List.mem_singleton.mp listed
    exact absurd expired (by decide)
  · rintro ⟨flight, listed, -⟩
    cases listed

end Actr.Proof.Lifecycle
