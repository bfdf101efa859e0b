import Actr.Proof.Lifecycle.AtMostOnce

/-! # In-flight entries and the requests that complete them -/

namespace Actr.Proof.Lifecycle
open Actr.Protocol Actr.Runtime Hyper.Lifecycle Hyper.Lifecycle.Runtime Library.Machine
  Actr.Library

structure Owned (s : Runtime) : Prop where
  entries : ∀ id receivedAt channel, s.dedup.entries id = some ⟨receivedAt, .inFlight channel⟩ →
    ∃ task, s.tasks[channel]? = some task ∧ task.phase = .dispatching ∧ task.envelope.requestId = id
  waiters : ∀ (ticket : Nat) task waiter since timeout, s.tasks[ticket]? = some task →
    task.phase = .waiting waiter since timeout →
    (∃ owner, s.tasks[waiter]? = some owner ∧ owner.phase = .dispatching) ∨
      ∃ result, (s.dedup.channels waiter).bind pollWaiter = some result

/-- A request that was found fresh and resolves in this step leaves no in-flight entry for its id. -/
def Settles (s t : Runtime) : Prop :=
  ∀ (ticket : Nat) task reply, t.tasks[ticket]? = some task → task.role = .original →
    task.phase = .resolved reply → (∀ before, s.tasks[ticket]? = some before → before.phase = .dispatching) →
    ∀ receivedAt channel, t.dedup.entries task.envelope.requestId ≠ some ⟨receivedAt, .inFlight channel⟩

def NeverLeaks (node : Node) : Prop :=
  ∀ s, Reachable (step node) .initial s →
    Owned s ∧ ∀ action t, step node s action = some t → Settles s t

section Owners

variable {node : Node} {s : Runtime}

theorem refusal_unset {callerId : Option ActrId} (unset : node.actorId = none) :
    node.refusal callerId = some actorIdNotSet := by
  simp only [Node.refusal, unset]

def Dispatches (node : Node) (s : Runtime) : Prop := node.hasCredentialState = true ∨ s.flights = []

theorem marked_credential {callerId : Option ActrId} (able : node.hasCredentialState = true ∨ node.actorId = none)
    (admitted : node.refusal callerId = none) : node.hasCredentialState = true := by
  rcases able with credential | unset
  · exact credential
  · cases (refusal_unset unset).symm.trans admitted

theorem dispatches_reachable (able : node.hasCredentialState = true ∨ node.actorId = none)
    (reachable : Reachable (step node) .initial s) : Dispatches node s := by
  apply reachable.invariant
  · exact .inr rfl
  · intro before action after dispatches taken
    rcases dispatches with credential | empty
    · exact .inl credential
    · cases effect_of_step taken with
      | refused | joined | hit | woken | expired => exact .inr empty
      | marked callerId envelope now phase later admitted => exact .inl (marked_credential able admitted)
      | finished => exact .inr (by simp [finish, empty])

theorem unfinished_dispatching {flight : Flight} (sound : Sound node s) (dispatches : Dispatches node s)
    (member : flight ∈ s.flights) (unfinished : flight.completion = none) :
    ∃ task, s.tasks[flight.ticket]? = some task ∧ task.phase = .dispatching ∧
      task.envelope.requestId = flight.requestId := by
  obtain ⟨task, found, role, id⟩ := sound.originals flight member
  refine ⟨task, found, ?_, id⟩
  have holds := sound.accounted flight.ticket task found
  simp only [RoleHolds, role] at holds
  obtain ⟨own, listed, mine, -, state⟩ := holds
  obtain rfl := flight_unique sound.ledger listed member mine
  rcases state with ⟨running, -⟩ | ⟨-, -, credential⟩ | ⟨_, _, -, done, -⟩
  · exact running
  · rcases dispatches with present | empty
    · cases credential.symm.trans present
    · rw [empty] at member
      cases member
  · cases unfinished.symm.trans done

theorem owned_of_sound (sound : Sound node s) (dispatches : Dispatches node s) : Owned s := by
  constructor
  · intro id receivedAt channel present
    have entry := sound.ledger.entries id
    rw [present] at entry
    cases last : s.lastFlight id with
    | none => simp [last, EntryOf] at entry
    | some flight =>
      obtain ⟨member, rfl⟩ := lastFlight_requestId last
      cases completion : flight.completion with
      | none =>
        simp only [last, EntryOf, completion, Option.some.injEq, Entry.mk.injEq,
          CachedResult.inFlight.injEq] at entry
        rw [entry.2]
        exact unfinished_dispatching sound dispatches member completion
      | some => simp [last, EntryOf, completion] at entry
  · intro ticket task waiter since timeout found waiting
    obtain ⟨-, -, flight, member, rfl, -⟩ := role_of_waiting (sound.accounted ticket task found) waiting
    cases completion : flight.completion with
    | none =>
      obtain ⟨owner, listed, running, -⟩ := unfinished_dispatching sound dispatches member completion
      exact .inl ⟨owner, listed, running⟩
    | some done =>
      refine .inr ⟨done.2, ?_⟩
      simp [sound.ledger.channels flight member, completion, pollWaiter]

theorem complete_settles (state : DedupState) (id : String) (result : ActorResult Bytes) (receivedAt channel : Nat) :
    (state.complete id result).entries id ≠ some ⟨receivedAt, .inFlight channel⟩ := by
  unfold DedupState.complete
  cases present : state.entries id with
  | none => simp [present]
  | some => simp

theorem settles_of_effect {t : Runtime} (able : node.hasCredentialState = true ∨ node.actorId = none)
    (effect : Effect node s t) : Settles s t := by
  intro ticket task reply listed role resolved unresolved
  have pending (old : s.tasks[ticket]? = some task) : False := by
    cases (unresolved task old).symm.trans resolved
  cases effect with
  | refused | hit =>
    rcases Slots.of_snoc listed with old | ⟨rfl, rfl⟩
    · exact (pending old).elim
    · cases role
  | marked callerId envelope now phase later admitted absent started =>
    rcases Slots.of_snoc listed with old | ⟨rfl, rfl⟩
    · exact (pending old).elim
    · rcases started with ⟨-, rfl⟩ | ⟨missing, -⟩
      · cases resolved
      · cases missing.symm.trans (marked_credential able admitted)
  | joined =>
    rcases Slots.of_snoc listed with old | ⟨rfl, rfl⟩
    · exact (pending old).elim
    · unfold joinedTask at role
      split at role <;> cases role
  | finished =>
    rcases Slots.of_set listed with ⟨rfl, rfl⟩ | ⟨-, old⟩
    · exact complete_settles _ _ _
    · exact (pending old).elim
  | woken number running waiter since timeout result now later found waiting =>
    rcases Slots.of_set listed with ⟨rfl, rfl⟩ | ⟨-, old⟩
    · cases (unresolved running found).symm.trans waiting
    · exact (pending old).elim
  | expired number running waiter since timeout now later found waiting =>
    rcases Slots.of_set listed with ⟨rfl, rfl⟩ | ⟨-, old⟩
    · cases (unresolved running found).symm.trans waiting
    · exact (pending old).elim

theorem missing_credential_leaks {actorId : ActrId} (set : node.actorId = some actorId)
    (missing : node.hasCredentialState = false) : ∃ s, Reachable (step node) .initial s ∧ ¬Owned s := by
  let envelope := requestFor "r"
  refine ⟨Runtime.initial.handleIncoming node none envelope 0, ⟨[.incoming none envelope 0], rfl⟩, ?_⟩
  have refusal : node.refusal none = none := by
    simp [Node.refusal, set, checkAclPermission]
  intro owned
  obtain ⟨task, found, running, -⟩ := owned.entries "r" 0 0 (by
    simp [Runtime.handleIncoming, Node.admitIncoming, refusal, Runtime.initial, DedupState.checkOrMark, missing,
      DedupState.evictExpired, DedupState.new, envelope, requestFor])
  simp only [Runtime.handleIncoming, Node.admitIncoming, refusal, Runtime.initial, DedupState.checkOrMark, missing,
    DedupState.evictExpired, DedupState.new, admitted] at found
  cases found
  cases running

end Owners

theorem never_leaks_iff (node : Node) : NeverLeaks node ↔ node.hasCredentialState = true ∨ node.actorId = none := by
  constructor
  · intro never
    cases credential : node.hasCredentialState with
    | true => exact .inl rfl
    | false =>
      right
      cases set : node.actorId with
      | none => rfl
      | some =>
        obtain ⟨s, reachable, leaked⟩ := missing_credential_leaks set credential
        exact absurd (never s reachable).1 leaked
  · intro able s reachable
    refine ⟨owned_of_sound (sound_reachable reachable) (dispatches_reachable able reachable), ?_⟩
    intro action t taken
    exact settles_of_effect able (effect_of_step taken)

theorem entry_outlives_its_request :
    ∃ s, Reachable (step { startedNode with hasCredentialState := false }) .initial s ∧
    ¬Owned s ∧ s.dedup.entries "r" = some ⟨0, .inFlight 0⟩ ∧
    s.tasks.map Admission.phase =
      [.resolved (.error credentialNotSet), .waiting 0 second (60 * second)] := by
  let actions : List Action := [.incoming none (requestFor "r") 0, .incoming none (requestFor "r") second]
  refine ⟨_, ⟨actions, rfl⟩, ?_, rfl, by decide⟩
  intro owned
  obtain ⟨task, found, running, -⟩ := owned.entries "r" 0 0 rfl
  cases found
  cases running

end Actr.Proof.Lifecycle
