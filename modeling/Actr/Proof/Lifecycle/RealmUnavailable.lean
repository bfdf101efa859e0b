import Actr.Proof.Lifecycle.SessionIdentity

/-! # Renewal after the realm became unavailable -/

namespace Actr.Proof.Lifecycle.Renewal
open Hyper.Lifecycle.CredentialManager
open Library Machine

variable {manager : Manager} {s t : State} {attempt : Attempt} {outcome : Outcome} {event : Event} {action : Action}
variable {session : SessionState} {index : Nat} {phase next : AttemptPhase} {result : Except String Unit}

def triggers : Action → Bool
  | .triggerRenewal => true
  | .heartbeat result => result.renews
  | _ => false

/-- No renewal is started for a session whose realm is unavailable. -/
def NoneStarted (s : State) (action : Action) (_ : State) : Prop :=
  s.session.phase = .realmUnavailable → triggers action = true → s.renewing = true
  deriving Decidable

/-- A session whose realm is unavailable stays so, and nothing is sent for it. -/
def StaysUnavailable (s : State) (_ : Action) (t : State) : Prop :=
  s.session.phase = .realmUnavailable → t.requests = s.requests ∧ t.session.phase = .realmUnavailable

def AllEnded (s : State) : Prop :=
  s.session.phase = .realmUnavailable → ∀ (index : Nat) (attempt : Attempt), s.attempts[index]? = some attempt →
    inProgress attempt = true → ∃ result, attempt.phase = .ended result

theorem initial_allEnded (snapshot : SessionSnapshot) (now : Int) : AllEnded (initial snapshot now) := by
  intro unavailable
  cases unavailable

theorem triggerRenewal_of_renewing (renewing : s.renewing = true) : triggerRenewal s = s := by
  rw [triggerRenewal, if_pos renewing]

theorem triggerRenewal_allEnded (ended : AllEnded s)
    (guard : s.session.phase = .realmUnavailable → s.renewing = true) : AllEnded (triggerRenewal s) := by
  intro unavailable
  rw [triggerRenewal_session] at unavailable
  rw [triggerRenewal_of_renewing (guard unavailable)]
  exact ended unavailable

theorem triggerRenewal_stays (guard : s.session.phase = .realmUnavailable → s.renewing = true) :
    s.session.phase = .realmUnavailable →
      (triggerRenewal s).requests = s.requests ∧ (triggerRenewal s).session.phase = .realmUnavailable := by
  intro unavailable
  rw [triggerRenewal_of_renewing (guard unavailable)]
  exact ⟨rfl, unavailable⟩

theorem Quiet.not_ended {sent : List AisRequest} (quiet : Quiet manager s phase next sent) :
    phase ≠ .ended result := by
  cases quiet <;> simp

section

variable {handles : Bool} {commit : Option Commit} (writes : Writes s handles phase next commit session)
include writes

theorem Writes.not_ended : phase ≠ .ended result := by
  cases writes <;> simp

theorem Writes.unavailable_ended (available : s.session.phase ≠ .realmUnavailable)
    (unavailable : session.phase = .realmUnavailable) : ∃ result, next = .ended result := by
  cases writes with
  | updating | committing => exact absurd unavailable available
  | unavailable => exact ⟨_, rfl⟩
  | entering | activating => cases unavailable

end

theorem act_ended (ended : attempt.phase = .ended result) (taken : act manager s attempt event = some outcome) :
    outcome = ⟨{ attempt with phase := .finished result }, s.session, [], false⟩ := by
  obtain ⟨phase, handles, sent, quiet, rfl⟩ | ⟨phase, commit, session, rfl, writes, rfl⟩ | ⟨other, same, rfl⟩ :=
    act_cases taken
  · exact absurd ended quiet.not_ended
  · exact absurd ended writes.not_ended
  · cases same.symm.trans ended
    rfl

theorem act_unavailable (available : s.session.phase ≠ .realmUnavailable)
    (taken : act manager s attempt event = some outcome) (unavailable : outcome.session.phase = .realmUnavailable) :
    ∃ result, outcome.attempt.phase = .ended result := by
  obtain ⟨phase, handles, sent, quiet, rfl⟩ | ⟨phase, commit, session, rfl, writes, rfl⟩ | ⟨other, same, rfl⟩ :=
    act_cases taken
  · exact absurd unavailable available
  · exact writes.unavailable_ended available unavailable
  · exact absurd unavailable available

theorem attempt_unavailable (ok : Ok manager s) (ended : AllEnded s)
    (taken : step manager s (.attempt index event) = some t) :
    StaysUnavailable s (.attempt index event) t ∧ AllEnded t := by
  obtain ⟨attempt, outcome, listed, acted, rfl⟩ := step_attempt taken
  have spec := act_ok (ok.attempts index attempt listed) ok.current acted
  constructor
  · intro unavailable
    obtain ⟨result, last⟩ := ended unavailable index attempt listed spec.running
    obtain rfl := act_ended last acted
    exact ⟨List.append_nil _, unavailable⟩
  · intro unavailable other found now running
    obtain rfl := act_single ok listed spec other ⟨found, now, running⟩
    cases (Slots.set_self listed).symm.trans now
    by_cases before : s.session.phase = .realmUnavailable
    · obtain ⟨result, last⟩ := ended before other attempt listed spec.running
      obtain rfl := act_ended last acted
      cases running
    · exact act_unavailable before acted unavailable

theorem step_unavailable (ok : Ok manager s) (ended : AllEnded s) (guard : NoneStarted s action t)
    (taken : step manager s action = some t) : StaysUnavailable s action t ∧ AllEnded t := by
  cases action with
  | triggerRenewal =>
    cases taken
    have renewing := fun unavailable => guard unavailable rfl
    exact ⟨triggerRenewal_stays renewing, triggerRenewal_allEnded ended renewing⟩
  | heartbeat result =>
    cases taken
    cases renews : result.renews
    · exact ⟨fun unavailable => ⟨rfl, unavailable⟩, ended⟩
    · have renewing := fun unavailable => guard unavailable renews
      exact ⟨triggerRenewal_stays renewing, triggerRenewal_allEnded ended renewing⟩
  | installHardRebindHandles | tick =>
    cases taken
    exact ⟨fun unavailable => ⟨rfl, unavailable⟩, ended⟩
  | attempt => exact attempt_unavailable ok ended taken

structure Stopping (manager : Manager) (s : State) : Prop where
  ok : Ok manager s
  ended : AllEnded s

theorem unavailable_realm_stops_renewal (manager : Manager) (snapshot : SessionSnapshot) (now : Int)
    (actions : List Action) (quiet : Along (step manager) NoneStarted (initial snapshot now) actions) :
    Along (step manager) StaysUnavailable (initial snapshot now) actions := by
  have start : Stopping manager (initial snapshot now) :=
    ⟨initial_ok manager snapshot now, initial_allEnded snapshot now⟩
  refine along_of_guarded start ?_ quiet
  intro s action t stopping guard taken
  obtain ⟨stays, next⟩ := step_unavailable stopping.ok stopping.ended guard taken
  exact ⟨stays, (step_ok stopping.ok taken).1, next⟩

def tokenSnapshot : SessionSnapshot :=
  { workerSnapshot with renewalToken := [1], renewalTokenExpiresAt := ⟨3600, 0⟩ }

def untilUnavailable : List Action :=
  [.heartbeat (.pong true), .attempt 0 .advance, .attempt 0 .advance,
    .attempt 0 (.renewReplied (.error .realmUnavailable)), .attempt 0 .advance, .attempt 0 .advance]

theorem unavailable_realm_stops_renewal_of_one :
    (exec (step workerManager) (initial tokenSnapshot 0) untilUnavailable).any
        (fun s => s.session.phase = .realmUnavailable) = true ∧
      Along (step workerManager) StaysUnavailable (initial tokenSnapshot 0)
        (untilUnavailable ++ [.heartbeat (.pong false), .heartbeat .timedOut]) :=
  ⟨by decide +kernel, unavailable_realm_stops_renewal workerManager tokenSnapshot 0 _ (by decide +kernel)⟩

def afterUnavailable : List Action :=
  [.heartbeat .credentialExpired, .attempt 1 .advance, .attempt 1 .advance,
    .attempt 1 (.renewReplied (.error .tokenRejected)), .attempt 1 .advance,
    .attempt 1 (.registerReplied (.ok (.success (registered tokenSnapshot)))), .attempt 1 .advance,
    .attempt 1 .advance, .attempt 1 .advance]

theorem unavailable_realm_renews_again :
    ∃ s, exec (step workerManager) (initial tokenSnapshot 0) untilUnavailable = some s ∧
      s.session.phase = .realmUnavailable ∧ s.requests = [.renew none workerId [1]] ∧
      ∃ t, exec (step workerManager) s afterUnavailable = some t ∧ t.session.phase = .active ∧
        t.requests = s.requests ++ [.renew none workerId [1], .register none workerRequest] := by
  have run : ∃ s, exec (step workerManager) (initial tokenSnapshot 0) untilUnavailable = some s ∧
      (s.session.phase = .realmUnavailable ∧ s.requests = [.renew none workerId [1]]) ∧
      (exec (step workerManager) s afterUnavailable).any (fun t => t.session.phase = .active ∧
        t.requests = s.requests ++ [.renew none workerId [1], .register none workerRequest]) = true :=
    exec_of_any (by decide +kernel)
  obtain ⟨s, moved, ⟨unavailable, requests⟩, later⟩ := run
  exact ⟨s, moved, unavailable, requests, exec_of_any later⟩

end Actr.Proof.Lifecycle.Renewal
