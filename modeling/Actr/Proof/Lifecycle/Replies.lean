import Actr.Proof.Lifecycle.Ledger

/-! # Where replies come from -/

namespace Actr.Proof.Lifecycle
open Actr.Protocol Hyper.Lifecycle Hyper.Lifecycle.Runtime Library.Machine
  Actr.Library

variable {result : ActorResult Bytes} {now : Nat}

def Met (flights : List Flight) (ticket owner : Nat) (task : Admission) (flight : Flight) : Prop :=
  flight ∈ flights ∧ flight.ticket = owner ∧ owner < ticket ∧ flight.requestId = task.envelope.requestId

def OriginalHolds (node : Node) (task : Admission) (flight : Flight) : Prop :=
  (task.phase = .dispatching ∧ flight.completion = none ∧ node.hasCredentialState = true) ∨
  (task.phase = .resolved (.error credentialNotSet) ∧ flight.completion = none ∧
    node.hasCredentialState = false) ∨
  ∃ time result, task.phase = .resolved result ∧
    flight.completion = some (time, cachedResult (envelopeIsTell task.envelope) result) ∧
    (task.dispatched = some result ∨ result = .error schedulerTerminated)

def waitTimeout (task : Admission) : Nat := duplicateWaitTimeout task.envelope.timeoutMs

def WaitedHolds (owner : Nat) (task : Admission) (flight : Flight) : Prop :=
  (∃ since, task.phase = .waiting owner since (waitTimeout task)) ∨
  (∃ time reply, task.phase = .resolved reply ∧ flight.completion = some (time, reply)) ∨
  task.phase = .resolved (.error (duplicateTimedOut (waitTimeout task)))

def RoleHolds (node : Node) (flights : List Flight) (ticket : Nat) (task : Admission) : Prop :=
  match task.role with
  | .refused => ∃ error, node.refusal task.callerId = some error ∧ task.phase = .resolved (.error error)
  | .original => ∃ flight ∈ flights, flight.ticket = ticket ∧
      flight.requestId = task.envelope.requestId ∧ OriginalHolds node task flight
  | .waited owner => ∃ flight, Met flights ticket owner task flight ∧ WaitedHolds owner task flight
  | .cached owner => ∃ flight, Met flights ticket owner task flight ∧
      ∃ time reply, task.phase = .resolved reply ∧ flight.completion = some (time, reply)
  | .dropped owner => ∃ flight, Met flights ticket owner task flight ∧
      envelopeIsTell task.envelope = true ∧ task.phase = .resolved (.ok [])

structure Grown (flights flights' : List Flight) (ticket : Nat) : Prop where
  kept : ∀ flight ∈ flights, ∃ flight' ∈ flights', flight'.ticket = flight.ticket ∧
    flight'.requestId = flight.requestId ∧
    (∀ completion, flight.completion = some completion → flight'.completion = some completion) ∧
    (flight.ticket = ticket → flight' = flight)

section Grown

variable {node : Node} {flights flights' : List Flight} {ticket owner : Nat} {task : Admission} {flight : Flight}

theorem met_grown (grown : Grown flights flights' ticket) (met : Met flights ticket owner task flight) :
    ∃ flight', Met flights' ticket owner task flight' ∧
      ∀ completion, flight.completion = some completion → flight'.completion = some completion := by
  obtain ⟨member, mine, earlier, id⟩ := met
  obtain ⟨flight', member', mine', id', completed, -⟩ := grown.kept flight member
  exact ⟨flight', ⟨member', mine'.trans mine, earlier, id'.trans id⟩, completed⟩

theorem roleHolds_grown (grown : Grown flights flights' ticket) (holds : RoleHolds node flights ticket task) :
    RoleHolds node flights' ticket task := by
  unfold RoleHolds at holds ⊢
  cases role : task.role with
  | refused => simpa only [role] using holds
  | original =>
    simp only [role] at holds ⊢
    obtain ⟨flight, member, mine, id, state⟩ := holds
    obtain ⟨flight', member', -, -, -, same⟩ := grown.kept flight member
    obtain rfl := same mine
    exact ⟨flight', member', mine, id, state⟩
  | waited =>
    simp only [role] at holds ⊢
    obtain ⟨flight, met, state⟩ := holds
    obtain ⟨flight', met', completed⟩ := met_grown grown met
    refine ⟨flight', met', ?_⟩
    rcases state with waiting | ⟨time, reply, phase, done⟩ | timedOut
    · exact .inl waiting
    · exact .inr (.inl ⟨time, reply, phase, completed _ done⟩)
    · exact .inr (.inr timedOut)
  | cached =>
    simp only [role] at holds ⊢
    obtain ⟨flight, met, time, reply, phase, done⟩ := holds
    obtain ⟨flight', met', completed⟩ := met_grown grown met
    exact ⟨flight', met', time, reply, phase, completed _ done⟩
  | dropped =>
    simp only [role] at holds ⊢
    obtain ⟨flight, met, state⟩ := holds
    obtain ⟨flight', met', -⟩ := met_grown grown met
    exact ⟨flight', met', state⟩

theorem grown_cons (flight : Flight) (flights : List Flight) (ticket : Nat) :
    Grown flights (flight :: flights) ticket :=
  ⟨fun old member => ⟨old, List.mem_cons_of_mem _ member, rfl, rfl, fun _ done => done, fun _ => rfl⟩⟩

theorem grown_settle {finishing : Nat} {cached : ActorResult Bytes}
    (unfinished : ∀ flight ∈ flights, flight.ticket = finishing → flight.completion = none)
    (other : ticket ≠ finishing) : Grown flights (flights.map (settle finishing now cached)) ticket := by
  constructor
  intro flight member
  refine ⟨settle finishing now cached flight, List.mem_map_of_mem member, by simp, by simp, ?_, ?_⟩
  · intro completion done
    have different : flight.ticket ≠ finishing := by
      intro same
      rw [unfinished flight member same] at done
      cases done
    rw [settle_other different]
    exact done
  · rintro rfl
    exact settle_other other

end Grown

section Entries

variable {s : Runtime} {now receivedAt : Nat} {id : String}

theorem inFlight_entry {channel : Nat} (ledger : Ledger s) (later : s.clock ≤ now)
    (present : (s.dedup.evictExpired now).entries id = some ⟨receivedAt, .inFlight channel⟩) :
    ∃ flight, s.lastFlight id = some flight ∧ flight.completion = none ∧ flight.ticket = channel := by
  have entry := evicted_entries ledger later id
  rw [present] at entry
  cases last : s.lastFlight id with
  | none => simp [last, EntryOf] at entry
  | some flight =>
    cases completion : flight.completion with
    | none =>
      simp only [last, EntryOf, completion, Option.some.injEq, Entry.mk.injEq,
        CachedResult.inFlight.injEq] at entry
      exact ⟨flight, rfl, completion, entry.2.symm⟩
    | some => simp [last, EntryOf, completion] at entry

theorem done_entry (ledger : Ledger s) (later : s.clock ≤ now)
    (present : (s.dedup.evictExpired now).entries id = some ⟨receivedAt, .done result⟩) :
    ∃ flight time, s.lastFlight id = some flight ∧ flight.completion = some (time, result) ∧
      flight.markedAt = receivedAt := by
  have entry := evicted_entries ledger later id
  rw [present] at entry
  cases last : s.lastFlight id with
  | none => simp [last, EntryOf] at entry
  | some flight =>
    cases completion : flight.completion with
    | none => simp [last, EntryOf, completion] at entry
    | some done =>
      obtain ⟨time, stored⟩ := done
      simp only [last, EntryOf, completion, Option.some.injEq, Entry.mk.injEq, CachedResult.done.injEq,
        reduceCtorEq, false_and, or_false] at entry
      exact ⟨flight, time, rfl, by rw [completion, entry.2], entry.1.symm⟩

theorem last_met {task : Admission} {flight : Flight} (ledger : Ledger s) (mine : task.envelope.requestId = id)
    (last : s.lastFlight id = some flight) : Met s.flights s.tasks.length flight.ticket task flight := by
  obtain ⟨member, same⟩ := lastFlight_requestId last
  exact ⟨member, rfl, ledger.below flight member, same.trans mine.symm⟩

end Entries

def Accounted (node : Node) (s : Runtime) : Prop :=
  ∀ ticket task, s.tasks[ticket]? = some task → RoleHolds node s.flights ticket task

section Steps

variable {node : Node} {s : Runtime} {waiter ticket since timeout : Nat} {task : Admission} {t : Runtime}

theorem joined_holds {callerId : Option ActrId} {envelope : RpcEnvelope} {receivedAt : Nat} (ledger : Ledger s)
    (later : s.clock ≤ now)
    (present : (s.dedup.evictExpired now).entries envelope.requestId = some ⟨receivedAt, .inFlight waiter⟩) :
    RoleHolds node s.flights s.tasks.length (joinedTask callerId envelope now waiter) := by
  obtain ⟨flight, last, -, rfl⟩ := inFlight_entry ledger later present
  unfold joinedTask
  split
  · rename_i tell
    exact ⟨flight, last_met ledger rfl last, tell, rfl⟩
  · exact ⟨flight, last_met ledger rfl last, .inl ⟨now, rfl⟩⟩

theorem role_of_dispatching {flights : List Flight} (holds : RoleHolds node flights ticket task)
    (running : task.phase = .dispatching) : task.role = .original ∧ node.hasCredentialState = true := by
  unfold RoleHolds at holds
  cases role : task.role with
  | refused | cached | dropped => simp [role, running] at holds
  | original =>
    simp only [role, OriginalHolds, running] at holds
    obtain ⟨_, _, _, _, ⟨-, -, credential⟩ | ⟨impossible, -⟩ | ⟨_, _, impossible, -⟩⟩ := holds
    · exact ⟨rfl, credential⟩
    · cases impossible
    · cases impossible
  | waited => simp [role, running, WaitedHolds] at holds

theorem role_of_waiting {flights : List Flight} (holds : RoleHolds node flights ticket task)
    (waiting : task.phase = .waiting waiter since timeout) :
    task.role = .waited waiter ∧ timeout = waitTimeout task ∧
      ∃ flight, Met flights ticket waiter task flight := by
  unfold RoleHolds at holds
  cases role : task.role with
  | refused | cached | dropped => simp [role, waiting] at holds
  | original => simp [role, waiting, OriginalHolds] at holds
  | waited =>
    simp only [role, WaitedHolds, waiting, Phase.waiting.injEq] at holds
    obtain ⟨flight, met, ⟨_, rfl, -, same⟩ | ⟨_, _, impossible, -⟩ | impossible⟩ := holds
    · exact ⟨rfl, same, flight, met⟩
    · cases impossible
    · cases impossible

theorem finished_holds {dispatched : Option (ActorResult Bytes)}
    (ledger : Ledger s) (accounted : Accounted node s) (found : s.tasks[ticket]? = some task)
    (running : task.phase = .dispatching)
    (origin : dispatched = some result ∨ (dispatched = none ∧ result = .error schedulerTerminated)) :
    RoleHolds node (s.finish ticket task result dispatched now).flights ticket
      { task with phase := .resolved result, dispatched := dispatched } := by
  obtain ⟨role, -⟩ := role_of_dispatching (accounted ticket task found) running
  obtain ⟨flight, member, mine, id, -⟩ := dispatching_flight ledger found running
  simp only [RoleHolds, role]
  refine ⟨settle ticket now (cachedResult (envelopeIsTell task.envelope) result) flight,
    List.mem_map_of_mem member, by simpa using mine, by simpa using id, .inr (.inr ?_)⟩
  exact ⟨now, result, rfl, by simp [settle, mine], origin.imp_right And.right⟩

theorem woken_holds (ledger : Ledger s) (accounted : Accounted node s)
    (found : s.tasks[ticket]? = some task) (waiting : task.phase = .waiting waiter since timeout)
    (value : (s.dedup.channels waiter).bind pollWaiter = some result) :
    RoleHolds node s.flights ticket { task with phase := .resolved result } := by
  obtain ⟨role, -, flight, met⟩ := role_of_waiting (accounted ticket task found) waiting
  have channel := ledger.channels flight met.1
  rw [met.2.1] at channel
  simp only [RoleHolds, role]
  refine ⟨flight, met, .inr (.inl ?_)⟩
  cases completion : flight.completion with
  | none => simp [channel, completion, pollWaiter] at value
  | some done =>
    obtain ⟨time, stored⟩ := done
    simp only [channel, completion, Option.map_some, Option.bind_some, pollWaiter, Option.some.injEq] at value
    exact ⟨time, result, rfl, by rw [value]⟩

theorem expired_holds (accounted : Accounted node s) (found : s.tasks[ticket]? = some task)
    (waiting : task.phase = .waiting waiter since timeout) :
    RoleHolds node s.flights ticket { task with phase := .resolved (.error (duplicateTimedOut timeout)) } := by
  obtain ⟨role, rfl, flight, met⟩ := role_of_waiting (accounted ticket task found) waiting
  simp only [RoleHolds, role]
  exact ⟨flight, met, .inr (.inr rfl)⟩

theorem accounted_step (ledger : Ledger s) (accounted : Accounted node s) (effect : Effect node s t) :
    Accounted node t := by
  intro number admission listed
  cases effect with
  | refused callerId envelope now error later refusal =>
    rcases Slots.of_snoc listed with listed | ⟨rfl, rfl⟩
    · exact accounted number admission listed
    · exact ⟨error, refusal, rfl⟩
  | marked callerId envelope now phase later admitted absent started =>
    rcases Slots.of_snoc listed with listed | ⟨rfl, rfl⟩
    · exact roleHolds_grown (grown_cons _ _ _) (accounted number admission listed)
    · refine ⟨_, List.mem_cons_self, rfl, rfl, ?_⟩
      rcases started with ⟨credential, rfl⟩ | ⟨credential, rfl⟩
      · exact .inl ⟨rfl, rfl, credential⟩
      · exact .inr (.inl ⟨rfl, rfl, credential⟩)
  | joined callerId envelope now receivedAt waiter later admitted present =>
    rcases Slots.of_snoc listed with listed | ⟨rfl, rfl⟩
    · exact accounted number admission listed
    · exact joined_holds ledger later present
  | hit callerId envelope now receivedAt result later admitted present =>
    rcases Slots.of_snoc listed with listed | ⟨rfl, rfl⟩
    · exact accounted number admission listed
    · obtain ⟨flight, time, last, done, -⟩ := done_entry ledger later present
      simp only [last, Option.map_some, Option.getD_some]
      exact ⟨flight, last_met ledger rfl last, time, result, rfl, done⟩
  | finished ticket task result dispatched now later found running origin =>
    rcases Slots.of_set listed with ⟨rfl, rfl⟩ | ⟨different, listed⟩
    · exact finished_holds ledger accounted found running origin
    · obtain ⟨flight, member, mine, -, unfinished, -⟩ := dispatching_flight ledger found running
      apply roleHolds_grown _ (accounted number admission listed)
      apply grown_settle _ different
      intro other listed' same
      rw [flight_unique ledger listed' member (same.trans mine.symm)]
      exact unfinished
  | woken ticket task waiter since timeout result now later found waiting value =>
    rcases Slots.of_set listed with ⟨rfl, rfl⟩ | ⟨-, listed⟩
    · have held := woken_holds ledger accounted found waiting value
      exact held
    · exact accounted number admission listed
  | expired ticket task waiter since timeout now later found waiting =>
    rcases Slots.of_set listed with ⟨rfl, rfl⟩ | ⟨-, listed⟩
    · have held := expired_holds accounted found waiting
      exact held
    · exact accounted number admission listed

def Originals (s : Runtime) : Prop :=
  ∀ flight ∈ s.flights, ∃ origin, s.tasks[flight.ticket]? = some origin ∧ origin.role = .original ∧
    origin.envelope.requestId = flight.requestId

theorem originals_snoc (originals : Originals s) (flights : t.flights = s.flights)
    (tasks : t.tasks = s.tasks ++ [task]) : Originals t := by
  intro flight member
  obtain ⟨origin, found, rest⟩ := originals flight (flights ▸ member)
  refine ⟨origin, ?_, rest⟩
  rw [tasks, List.getElem?_append_left (List.getElem?_eq_some_iff.mp found).1]
  exact found

theorem originals_set {changed : Admission} (originals : Originals s) (found : s.tasks[ticket]? = some task)
    (role : changed.role = task.role) (envelope : changed.envelope = task.envelope)
    (tasks : t.tasks = s.tasks.set ticket changed)
    (flights : ∀ flight ∈ t.flights, ∃ old ∈ s.flights, old.ticket = flight.ticket ∧ old.requestId = flight.requestId) :
    Originals t := by
  intro flight member
  obtain ⟨old, member, number, id⟩ := flights flight member
  obtain ⟨origin, listed, originRole, originId⟩ := originals old member
  rw [tasks, ← number, ← id]
  by_cases same : ticket = old.ticket
  · subst same
    cases found.symm.trans listed
    refine ⟨changed, ?_, role.trans originRole, envelope ▸ originId⟩
    rw [List.getElem?_set_self (List.getElem?_eq_some_iff.mp found).1]
  · exact ⟨origin, by rw [List.getElem?_set_ne same, listed], originRole, originId⟩

theorem originals_step (originals : Originals s) (effect : Effect node s t) : Originals t := by
  cases effect with
  | refused => exact originals_snoc originals rfl rfl
  | marked =>
    intro flight member
    rcases List.mem_cons.mp member with rfl | member
    · exact ⟨_, List.getElem?_concat_length, rfl, rfl⟩
    · obtain ⟨origin, found, rest⟩ := originals flight member
      refine ⟨origin, ?_, rest⟩
      rw [withCheck, List.getElem?_append_left (List.getElem?_eq_some_iff.mp found).1]
      exact found
  | joined | hit =>
    exact originals_snoc originals rfl rfl
  | finished ticket task result dispatched now later found =>
    refine originals_set originals found ?_ ?_ rfl ?_
    · rfl
    · rfl
    · intro flight mapped
      obtain ⟨old, member, rfl⟩ := List.mem_map.mp mapped
      exact ⟨old, member, by split <;> rfl, by split <;> rfl⟩
  | woken ticket task waiter since timeout result now later found =>
    refine originals_set originals found ?_ ?_ rfl fun flight member => ⟨flight, member, rfl, rfl⟩
    · rfl
    · rfl
  | expired ticket task waiter since timeout now later found =>
    refine originals_set originals found ?_ ?_ rfl fun flight member => ⟨flight, member, rfl, rfl⟩
    · rfl
    · rfl

structure Sound (node : Node) (s : Runtime) : Prop where
  ledger : Ledger s
  accounted : Accounted node s
  originals : Originals s

theorem sound_reachable (reachable : Reachable (step node) .initial s) : Sound node s := by
  apply reachable.invariant
  · refine ⟨ledger_initial, fun _ _ found => ?_, fun _ member => ?_⟩
    · simp [Runtime.initial] at found
    · cases member
  · rintro before action after ⟨ledger, accounted, originals⟩ taken
    have effect := effect_of_step taken
    exact ⟨ledger_step ledger effect, accounted_step ledger accounted effect, originals_step originals effect⟩

end Steps

end Actr.Proof.Lifecycle
