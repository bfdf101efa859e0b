import Actr.Proof.Lifecycle.AtMostOnce

/-! # Whose result a caller gets -/

namespace Actr.Proof.Lifecycle
open Actr.Protocol Hyper.Lifecycle Hyper.Lifecycle.Runtime Library.Machine

inductive OwnError (node : Node) (task : Admission) : ActorResult Bytes → Prop
  | refused (error : ActrError) : node.refusal task.callerId = some error → OwnError node task (.error error)
  | credential : node.hasCredentialState = false → OwnError node task (.error credentialNotSet)
  | timedOut : OwnError node task (.error (duplicateTimedOut (waitTimeout task)))
  | terminated : OwnError node task (.error schedulerTerminated)

def Outcome (origin : Admission) (reply : ActorResult Bytes) : Prop :=
  ∃ result, reply = cachedResult (envelopeIsTell origin.envelope) result ∧
    (origin.dispatched = some result ∨ result = .error schedulerTerminated)

def Isolated (node : Node) (s : Runtime) : Prop :=
  ∀ (ticket : Nat) task reply, s.tasks[ticket]? = some task → task.phase = .resolved reply →
    OwnError node task reply ∨ ∃ (other : Nat) (origin : Admission), s.tasks[other]? = some origin ∧
      origin.callerId = task.callerId ∧ origin.envelope.requestId = task.envelope.requestId ∧
      origin.dispatched = some reply

def Earlier (s : Runtime) (ticket : Nat) (task origin : Admission) : Prop :=
  ∃ earlier < ticket, s.tasks[earlier]? = some origin ∧ origin.role = .original ∧
    origin.envelope.requestId = task.envelope.requestId

section Sources

variable {node : Node} {s : Runtime} {ticket owner : Nat} {task : Admission} {flight : Flight}

theorem met_earlier (sound : Sound node s) (met : Met s.flights ticket owner task flight) :
    ∃ origin, Earlier s ticket task origin ∧ s.tasks[owner]? = some origin := by
  obtain ⟨member, rfl, earlier, id⟩ := met
  obtain ⟨origin, found, role, originId⟩ := sound.originals flight member
  exact ⟨origin, ⟨flight.ticket, earlier, found, role, originId.trans id⟩, found⟩

theorem met_outcome {time : Nat} {reply : ActorResult Bytes} (sound : Sound node s)
    (met : Met s.flights ticket owner task flight) (done : flight.completion = some (time, reply)) :
    ∃ origin, Earlier s ticket task origin ∧ Outcome origin reply := by
  obtain ⟨origin, earlier, found⟩ := met_earlier sound met
  refine ⟨origin, earlier, ?_⟩
  obtain ⟨-, -, -, role, -⟩ := earlier
  have holds := sound.accounted owner origin found
  simp only [RoleHolds, role] at holds
  obtain ⟨own, member, mine, -, state⟩ := holds
  obtain rfl := flight_unique sound.ledger member met.1 (mine.trans met.2.1.symm)
  rcases state with ⟨-, unfinished, -⟩ | ⟨-, unfinished, -⟩ | ⟨time', result, -, completed, origin⟩
  · cases unfinished.symm.trans done
  · cases unfinished.symm.trans done
  · cases completed.symm.trans done
    exact ⟨result, rfl, origin⟩

end Sources

theorem replies_by_request_id {node : Node} {s : Runtime} (reachable : Reachable (step node) .initial s)
    {ticket : Nat} {task : Admission} (found : s.tasks[ticket]? = some task) :
    (∀ reply, task.phase = .resolved reply →
      OwnError node task reply ∨ task.dispatched = some reply ∨
        ∃ origin, Earlier s ticket task origin ∧
          (Outcome origin reply ∨ (envelopeIsTell task.envelope = true ∧ reply = .ok []))) ∧
    (task.role ≠ .original →
      (∃ error, node.refusal task.callerId = some error) ∨ ∃ origin, Earlier s ticket task origin) := by
  have sound := sound_reachable reachable
  have holds := sound.accounted ticket task found
  unfold RoleHolds at holds
  cases role : task.role with
  | refused =>
    simp only [role] at holds
    obtain ⟨error, refusal, phase⟩ := holds
    refine ⟨fun reply resolved => ?_, fun _ => .inl ⟨error, refusal⟩⟩
    cases phase.symm.trans resolved
    exact .inl (.refused error refusal)
  | original =>
    simp only [role] at holds
    obtain ⟨flight, -, -, -, state⟩ := holds
    refine ⟨fun reply resolved => ?_, fun different => absurd rfl different⟩
    rcases state with ⟨phase, -⟩ | ⟨phase, -, credential⟩ | ⟨_, result, phase, -, origin⟩
    · cases phase.symm.trans resolved
    · cases phase.symm.trans resolved
      exact .inl (.credential credential)
    · cases phase.symm.trans resolved
      rcases origin with dispatched | rfl
      · exact .inr (.inl dispatched)
      · exact .inl .terminated
  | waited =>
    simp only [role] at holds
    obtain ⟨flight, met, state⟩ := holds
    obtain ⟨origin, earlier, -⟩ := met_earlier sound met
    refine ⟨fun reply resolved => ?_, fun _ => .inr ⟨origin, earlier⟩⟩
    rcases state with ⟨_, phase⟩ | ⟨_, result, phase, done⟩ | phase
    · cases phase.symm.trans resolved
    · cases phase.symm.trans resolved
      obtain ⟨origin, earlier, outcome⟩ := met_outcome sound met done
      exact .inr (.inr ⟨origin, earlier, .inl outcome⟩)
    · cases phase.symm.trans resolved
      exact .inl .timedOut
  | cached =>
    simp only [role] at holds
    obtain ⟨flight, met, _, result, phase, done⟩ := holds
    obtain ⟨origin, earlier, outcome⟩ := met_outcome sound met done
    refine ⟨fun reply resolved => ?_, fun _ => .inr ⟨origin, earlier⟩⟩
    cases phase.symm.trans resolved
    exact .inr (.inr ⟨origin, earlier, .inl outcome⟩)
  | dropped =>
    simp only [role] at holds
    obtain ⟨flight, met, tell, phase⟩ := holds
    obtain ⟨origin, earlier, -⟩ := met_earlier sound met
    refine ⟨fun reply resolved => ?_, fun _ => .inr ⟨origin, earlier⟩⟩
    cases phase.symm.trans resolved
    exact .inr (.inr ⟨origin, earlier, .inr ⟨tell, rfl⟩⟩)

def alice : ActrId := ⟨⟨1⟩, 7, ⟨"acme", "client", "1.0.0"⟩⟩

def mallory : ActrId := ⟨⟨1⟩, 8, ⟨"acme", "client", "1.0.0"⟩⟩

theorem result_crosses_callers : ∃ s, Reachable (step startedNode) .initial s ∧ ¬Isolated startedNode s := by
  let actions : List Action := [.incoming (some alice) (requestFor "r") 0, .dispatched 0 (.ok [1]) second,
    .incoming (some mallory) (requestFor "r") second]
  refine ⟨_, ⟨actions, rfl⟩, ?_⟩
  intro isolated
  rcases isolated 1 _ (.ok [1]) rfl rfl with own | ⟨other, origin, found, caller, -, dispatched⟩
  · cases own
  · match other, found with
    | 0, found =>
      cases found
      revert caller
      decide
    | 1, found =>
      cases found
      cases dispatched
    | _ + 2, found => cases found

theorem replies_by_request_id_collision : ∃ s task, Reachable (step startedNode) .initial s ∧
    s.tasks[1]? = some task ∧ task.callerId = some mallory ∧ ∃ origin, Earlier s 1 task origin := by
  let actions : List Action := [.incoming (some alice) (requestFor "r") 0, .dispatched 0 (.ok [1]) second,
    .incoming (some mallory) (requestFor "r") second]
  have reachable : Reachable (step startedNode) .initial _ := ⟨actions, rfl⟩
  refine ⟨_, _, reachable, rfl, rfl, ?_⟩
  rcases (@replies_by_request_id startedNode _ reachable 1 _ rfl).2 (by decide) with ⟨error, refusal⟩ | earlier
  · cases refusal
  · exact earlier

end Actr.Proof.Lifecycle
