import Actr.Hyper.Lifecycle.Admission

/-! # What one step of a node does -/

namespace Actr.Proof.Lifecycle
open Actr.Protocol Hyper.Lifecycle Hyper.Lifecycle.Runtime Library.Machine

def joinedTask (callerId : Option ActrId) (envelope : RpcEnvelope) (now waiter : Nat) : Admission :=
  if envelopeIsTell envelope then ⟨callerId, envelope, .resolved (.ok []), .dropped waiter, none⟩
  else ⟨callerId, envelope, .waiting waiter now (duplicateWaitTimeout envelope.timeoutMs), .waited waiter, none⟩

def withCheck (s : Runtime) (envelope : RpcEnvelope) (now : Nat) (dedup : DedupState) (task : Admission)
    (flights : List Flight) : Runtime where
  dedup := dedup
  clock := now
  tasks := s.tasks ++ [task]
  flights := flights
  checks := ⟨envelope.requestId, now, s.flights⟩ :: s.checks

inductive Effect (node : Node) (s : Runtime) : Runtime → Prop
  | refused (callerId : Option ActrId) (envelope : RpcEnvelope) (now : Nat) (error : ActrError)
      (later : s.clock ≤ now) (refusal : node.refusal callerId = some error) :
      Effect node s { s with
        clock := now
        tasks := s.tasks ++ [⟨callerId, envelope, .resolved (.error error), .refused, none⟩] }
  | marked (callerId : Option ActrId) (envelope : RpcEnvelope) (now : Nat) (phase : Phase)
      (later : s.clock ≤ now) (admitted : node.refusal callerId = none)
      (absent : (s.dedup.evictExpired now).entries envelope.requestId = none)
      (started : (node.hasCredentialState = true ∧ phase = .dispatching) ∨
        (node.hasCredentialState = false ∧ phase = .resolved (.error credentialNotSet))) :
      Effect node s (withCheck s envelope now
        (s.dedup.checkOrMark now envelope.requestId s.tasks.length).1
        ⟨callerId, envelope, phase, .original, none⟩
        (⟨s.tasks.length, envelope.requestId, now, none⟩ :: s.flights))
  | joined (callerId : Option ActrId) (envelope : RpcEnvelope) (now receivedAt waiter : Nat)
      (later : s.clock ≤ now) (admitted : node.refusal callerId = none)
      (present : (s.dedup.evictExpired now).entries envelope.requestId =
        some ⟨receivedAt, .inFlight waiter⟩) :
      Effect node s (withCheck s envelope now (s.dedup.evictExpired now)
        (joinedTask callerId envelope now waiter) s.flights)
  | hit (callerId : Option ActrId) (envelope : RpcEnvelope) (now receivedAt : Nat) (result : ActorResult Bytes)
      (later : s.clock ≤ now) (admitted : node.refusal callerId = none)
      (present : (s.dedup.evictExpired now).entries envelope.requestId = some ⟨receivedAt, .done result⟩) :
      Effect node s (withCheck s envelope now (s.dedup.evictExpired now)
        ⟨callerId, envelope, .resolved result,
          .cached (((s.lastFlight envelope.requestId).map Flight.ticket).getD 0), none⟩ s.flights)
  | finished (ticket : Nat) (task : Admission) (result : ActorResult Bytes)
      (dispatched : Option (ActorResult Bytes)) (now : Nat) (later : s.clock ≤ now)
      (found : s.tasks[ticket]? = some task) (running : task.phase = .dispatching)
      (origin : dispatched = some result ∨ (dispatched = none ∧ result = .error schedulerTerminated)) :
      Effect node s (s.finish ticket task result dispatched now)
  | woken (ticket : Nat) (task : Admission) (waiter since timeout : Nat) (result : ActorResult Bytes) (now : Nat)
      (later : s.clock ≤ now) (found : s.tasks[ticket]? = some task)
      (waiting : task.phase = .waiting waiter since timeout)
      (value : (s.dedup.channels waiter).bind pollWaiter = some result) :
      Effect node s (s.resolve ticket task result now)
  | expired (ticket : Nat) (task : Admission) (waiter since timeout : Nat) (now : Nat)
      (later : s.clock ≤ now) (found : s.tasks[ticket]? = some task)
      (waiting : task.phase = .waiting waiter since timeout) (due : since + timeout ≤ now) :
      Effect node s (s.resolve ticket task (.error (duplicateTimedOut timeout)) now)

theorem effect_incoming {node : Node} {s : Runtime} {callerId : Option ActrId} {envelope : RpcEnvelope}
    {now : Nat} (later : s.clock ≤ now) : Effect node s (s.handleIncoming node callerId envelope now) := by
  cases refusal : node.refusal callerId with
  | some error =>
    simp only [Runtime.handleIncoming, Node.admitIncoming, refusal, admitted]
    exact .refused callerId envelope now error later refusal
  | none =>
    cases present : (s.dedup.evictExpired now).entries envelope.requestId with
    | none =>
      have marked := Effect.marked callerId envelope now
        (if node.hasCredentialState then .dispatching else .resolved (.error credentialNotSet))
        later refusal present (by cases node.hasCredentialState <;> simp)
      cases credential : node.hasCredentialState <;>
        simpa [Runtime.handleIncoming, Node.admitIncoming, refusal, DedupState.checkOrMark, present, credential,
          admitted, roleOf, withCheck] using marked
    | some entry =>
      obtain ⟨receivedAt, cached⟩ := entry
      cases cached with
      | inFlight waiter =>
        have joined := Effect.joined callerId envelope now receivedAt waiter later refusal present
        cases tell : envelopeIsTell envelope <;>
          simpa [Runtime.handleIncoming, Node.admitIncoming, refusal, DedupState.checkOrMark, present, tell,
            admitted, roleOf, withCheck, joinedTask] using joined
      | done result =>
        have hit := Effect.hit callerId envelope now receivedAt result later refusal present
        simpa [Runtime.handleIncoming, Node.admitIncoming, refusal, DedupState.checkOrMark, present,
          admitted, roleOf, withCheck] using hit

section

variable {node : Node} {s t : Runtime} {action : Action} {ticket now : Nat} (taken : step node s action = some t)
include taken

theorem finished_of_step {result : ActorResult Bytes} (finishes : action = .dispatched ticket result now ∨
      action = .terminated ticket now ∧ result = .error schedulerTerminated) :
    ∃ task dispatched, s.clock ≤ now ∧ s.tasks[ticket]? = some task ∧ task.phase = .dispatching ∧
      (dispatched = some result ∨ dispatched = none ∧ result = .error schedulerTerminated) ∧
      t = s.finish ticket task result dispatched now := by
  obtain ⟨later, taken⟩ := Option.ite_none_right_eq_some.mp taken
  rcases finishes with rfl | ⟨rfl, rfl⟩
  all_goals
    simp only [perform] at taken
    split at taken
    · next found =>
      obtain ⟨enabled, rfl⟩ := of_guard taken
      exact ⟨_, _, later, found, by simp [enabled], by simp, rfl⟩
    · cases taken

theorem waited_of_step (ticket now : Nat) (waits : action = .woken ticket now ∨ action = .expired ticket now) :
    ∃ task waiter since timeout result, s.clock ≤ now ∧ s.tasks[ticket]? = some task ∧
      task.phase = .waiting waiter since timeout ∧
      ((s.dedup.channels waiter).bind pollWaiter = some result ∨
        since + timeout ≤ now ∧ result = .error (duplicateTimedOut timeout)) ∧
      t = s.resolve ticket task result now := by
  obtain ⟨later, taken⟩ := Option.ite_none_right_eq_some.mp taken
  rcases waits with rfl | rfl
  all_goals
    simp only [perform] at taken
    split at taken
    · next found =>
      split at taken
      · next waiting =>
        first
        | obtain ⟨_, value, rfl⟩ := Option.map_eq_some_iff.mp taken
          exact ⟨_, _, _, _, _, later, found, waiting, .inl value, rfl⟩
        | obtain ⟨due, rfl⟩ := of_guard taken
          exact ⟨_, _, _, _, _, later, found, waiting, .inr ⟨due, rfl⟩, rfl⟩
      · cases taken
    · cases taken

theorem effect_of_step : Effect node s t := by
  cases action with
  | incoming =>
    obtain ⟨later, rfl⟩ := of_guard taken
    exact effect_incoming later
  | dispatched ticket result now =>
    obtain ⟨task, dispatched, later, found, running, origin, rfl⟩ := finished_of_step taken (.inl rfl)
    exact .finished ticket task result dispatched now later found running origin
  | terminated ticket now =>
    obtain ⟨task, dispatched, later, found, running, origin, rfl⟩ := finished_of_step taken (.inr ⟨rfl, rfl⟩)
    exact .finished ticket task _ dispatched now later found running origin
  | woken ticket now | expired ticket now =>
    obtain ⟨task, waiter, since, timeout, result, later, found, waiting, value | ⟨due, rfl⟩, rfl⟩ :=
      waited_of_step taken ticket now (by simp)
    · exact .woken ticket task waiter since timeout result now later found waiting value
    · exact .expired ticket task waiter since timeout now later found waiting due

end

end Actr.Proof.Lifecycle
