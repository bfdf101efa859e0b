import Actr.Hyper.Outbound.Recovery
import Actr.Library.Slots

/-! # Who may let a recovering peer go -/

namespace Actr.Proof.Outbound
open Hyper.Outbound RecoveryGate Library Machine

def eventSession : Listener → Option Nat
  | .checkingActive sessionId _ | .remembering sessionId _ _ | .deciding sessionId | .asking sessionId _
  | .clearing sessionId | .updating sessionId | .failing sessionId | .closing sessionId | .expiring sessionId
  | .connecting sessionId | .marking sessionId | .closingTransport sessionId => some sessionId
  | .idle | .blocking | .unblocking => none

/-- No event of another session touches the guard of the current one. -/
def SparesGuard (s : RecoveryGate) (action : Action) (t : RecoveryGate) : Prop :=
  ∀ (answer : Bool) (status : NetworkRecoveryStatus), action = .listen answer → s.recovering = some status →
    s.session = some status.sessionId → eventSession s.listener ≠ some status.sessionId →
      t.recovering = some status

def blocksStale (s : RecoveryGate) : Action → Bool
  | .listen _ =>
    match s.listener with
    | .remembering sessionId _ _ => !s.isActiveSession sessionId
    | _ => false
  | _ => false

def Current (s : RecoveryGate) (action : Action) (_ : RecoveryGate) : Prop := blocksStale s action = false
  deriving Decidable

/-- An event of the session lets its guard go, or a send finds the window timed out or the session sendable. -/
def releases (sessionId : Nat) (s : RecoveryGate) : Action → Bool
  | .listen _ =>
    match s.listener with
    | .clearing event | .closing event => event = sessionId
    | _ => false
  | .send index _ =>
    match s.sends[index]? with
    | some .preflight => s.peerRecoveryStatus.any (·.isTimedOut s.now)
    | some (.comparing status) => status.sessionId = sessionId && status.isTimedOut s.now
    | some (.asking status) =>
      status.sessionId = sessionId && (status.isTimedOut s.now || s.isPeerSendableSession sessionId)
    | _ => false
  | _ => false

def Recovers (sessionId : Nat) (s : RecoveryGate) (action : Action) (t : RecoveryGate) : Prop :=
  releases sessionId s action = false ∧ t.session = some sessionId
  deriving Decidable

def relies : Listener → Option Nat
  | .asking sessionId true | .clearing sessionId | .failing sessionId => some sessionId
  | _ => none

def ListenerOk (s : RecoveryGate) : Prop := ∀ sessionId, relies s.listener = some sessionId → s.concerns sessionId = true

section Steps

variable {s t : RecoveryGate} {action : Action} {index sessionId : Nat} {answer : Bool} {phase : SendPhase}
variable {status : NetworkRecoveryStatus} {listener : Listener} {held : NetworkRecoveryStatus} {first : Nat}

structure AdvanceFacts (s : RecoveryGate) (index : Nat) (phase : SendPhase) (t : RecoveryGate) : Prop where
  listener : t.listener = s.listener
  session : t.session = s.session
  guard : t.recovering = s.recovering ∨ t.recovering = none ∧
    ∃ status cause, phase = .clearing status cause ∧ s.recovering.any (·.sessionId = status.sessionId) = true
  sends : ∃ next, t.sends = s.sends.set index next

theorem advanceFacts_advance (taken : s.advance index answer phase = some t) : AdvanceFacts s index phase t := by
  cases phase with
  | clearing status cause =>
    cases taken
    refine ⟨rfl, rfl, ?_, _, rfl⟩
    by_cases own : s.recovering.any (·.sessionId = status.sessionId) = true
    · exact .inr ⟨if_pos own, status, cause, rfl, own⟩
    · exact .inl (if_neg own)
  | returned => cases taken
  | _ =>
    cases taken
    exact ⟨rfl, rfl, .inl rfl, _, rfl⟩

theorem concerns_of_less (less : t.recovering = s.recovering ∨ t.recovering = none)
    (concerns : s.concerns sessionId = true) : t.concerns sessionId = true := by
  unfold RecoveryGate.concerns at concerns ⊢
  rcases less with same | gone
  · rw [same]
    exact concerns
  · rw [gone]
    rfl

theorem relies_dispatch (event : ConnectionEvent) : relies (dispatch event) = none := by
  cases event with
  | stateChanged _ state | iceRestartCompleted _ state => cases state <;> rfl
  | _ => rfl

theorem listenerOk_listen (ok : ListenerOk s) (same : s.listener = listener)
    (taken : s.listen answer listener = some t) : ListenerOk t := by
  cases listener with
  | idle => cases taken
  | deciding event =>
    cases taken
    intro sessionId found
    cases look : s.concerns event with
    | true =>
      simp only [listening, look, relies, Option.some.injEq] at found
      exact found ▸ look
    | false => simp [listening, look, relies] at found
  | asking event shouldClear =>
    cases taken
    intro sessionId found
    cases shouldClear with
    | true =>
      have look := ok event (by rw [same]; rfl)
      split at found
      · cases found
        exact look
      · cases found
    | false => simp [listening, relies] at found
  | updating event =>
    cases taken
    intro sessionId found
    cases look : s.concerns event with
    | true =>
      simp only [listening, look, if_true, relies, Option.some.injEq] at found
      exact found ▸ look
    | false => simp [listening, look, relies] at found
  | checkingActive =>
    cases taken
    intro sessionId found
    split at found <;> cases found
  | remembering event reason blocks =>
    cases taken
    intro sessionId found
    cases blocks <;> cases found
  | connecting =>
    cases taken
    intro sessionId found
    cases answer <;> cases found
  | _ =>
    cases taken
    intro sessionId found
    cases found

theorem listenerOk_of_less (ok : ListenerOk s) (listener : t.listener = s.listener)
    (less : t.recovering = s.recovering ∨ t.recovering = none) : ListenerOk t := by
  intro sessionId found
  rw [listener] at found
  exact concerns_of_less less (ok sessionId found)

theorem listenerOk_step (ok : ListenerOk s) (taken : step s action = some t) : ListenerOk t := by
  cases action with
  | event event =>
    obtain ⟨-, rfl⟩ := of_guard taken
    intro sessionId found
    cases (relies_dispatch event).symm.trans found
  | listen => exact listenerOk_listen ok rfl taken
  | send =>
    obtain ⟨phase, -, moves⟩ := Option.bind_eq_some_iff.mp taken
    have facts := advanceFacts_advance moves
    exact listenerOk_of_less ok facts.listener (facts.guard.imp id And.left)
  | preflightSend | coordinate | wait =>
    cases taken
    exact listenerOk_of_less ok rfl (.inl rfl)

theorem remember_same {now : Nat} {reason : String} (own : status.sessionId = sessionId) :
    (rememberRecoveringPeer (some status) now sessionId reason).sessionId = status.sessionId ∧
      (rememberRecoveringPeer (some status) now sessionId reason).startedAt = status.startedAt := by
  simp only [rememberRecoveringPeer, if_pos own]
  split <;> exact ⟨rfl, rfl⟩

theorem concerns_iff (guard : s.recovering = some status) :
    s.concerns sessionId = true ↔ status.sessionId = sessionId := by
  simp [concerns, guard]

theorem listen_guard (ok : ListenerOk s) (same : s.listener = listener) (taken : s.listen answer listener = some t)
    (guard : s.recovering = some status) (active : s.session = some status.sessionId)
    (current : Current s (.listen answer) t) :
    t.recovering = some status ∨ eventSession listener = some status.sessionId ∧
      ((listener = .clearing status.sessionId ∨ listener = .closing status.sessionId) ∨
        ∃ kept, t.recovering = some kept ∧ kept.sessionId = status.sessionId ∧
          kept.startedAt = status.startedAt) := by
  cases listener with
  | idle => cases taken
  | remembering event =>
    cases taken
    have own : status.sessionId = event := by
      simpa [Current, blocksStale, same, isActiveSession, active] using current
    refine .inr ⟨congrArg some own.symm, .inr ⟨_, rfl, ?_⟩⟩
    rw [guard]
    exact remember_same own
  | clearing event =>
    have own := (concerns_iff guard).mp (ok event (by rw [same]; rfl))
    subst own
    exact .inr ⟨rfl, .inl (.inl rfl)⟩
  | failing event =>
    have own := (concerns_iff guard).mp (ok event (by rw [same]; rfl))
    cases taken
    refine .inr ⟨congrArg some own.symm, .inr ⟨_, rfl, ?_⟩⟩
    rw [guard]
    exact remember_same own
  | closing event =>
    cases taken
    by_cases own : status.sessionId = event
    · subst own
      exact .inr ⟨rfl, .inl (.inr rfl)⟩
    · refine .inl ((if_neg ?_).trans guard)
      simp [guard, own]
  | _ =>
    cases taken
    exact .inl guard

theorem sparesGuard_step (ok : ListenerOk s) (current : Current s action t) (taken : step s action = some t) :
    SparesGuard s action t := by
  intro answer status same guard active foreign
  subst same
  rcases listen_guard ok rfl taken guard active current with kept | ⟨own, -⟩
  · exact kept
  · exact absurd own foreign

def Blocked (sessionId : Nat) : SendPhase → Prop
  | .preflight | .reading => True
  | .comparing status | .asking status => status.sessionId = sessionId
  | .returned result => ∃ retryAfterMs, result = .error (.connectionNotReady retryAfterMs)
  | _ => False

/-- A send is not about to clear the guard of the session, and a late one is still held back by it. -/
def HeldBack (sessionId : Nat) (late : Prop) (phase : SendPhase) : Prop :=
  (∀ status cause, phase = .clearing status cause → status.sessionId ≠ sessionId) ∧ (late → Blocked sessionId phase)

structure Standing (held : NetworkRecoveryStatus) (first : Nat) (s : RecoveryGate) : Prop where
  guard : ∃ kept, s.recovering = some kept ∧ kept.sessionId = held.sessionId ∧ kept.startedAt = held.startedAt
  session : s.session = some held.sessionId
  listener : ListenerOk s
  bound : first ≤ s.sends.length
  sends : ∀ index phase, s.sends[index]? = some phase → HeldBack held.sessionId (first ≤ index) phase

theorem heldBack_judge {late : Prop} (unexpired : status.isTimedOut s.now = false) :
    HeldBack sessionId late (s.judge status) := by
  rw [judge, unexpired]
  exact ⟨nofun, fun _ => ⟨_, rfl⟩⟩

theorem heldBack_advance {late : Prop} (standing : Standing held first s) (waits : HeldBack held.sessionId late phase)
    (listed : s.sends[index]? = some phase) (unreleased : releases held.sessionId s (.send index answer) = false)
    (taken : s.advance index answer phase = some t) :
    ∃ next, t.sends = s.sends.set index next ∧ HeldBack held.sessionId late next := by
  simp only [releases, listed] at unreleased
  cases phase with
  | preflight =>
    cases taken
    refine ⟨_, rfl, ?_⟩
    cases found : s.peerRecoveryStatus with
    | some status =>
      rw [found] at unreleased
      exact heldBack_judge unreleased
    | none => exact ⟨nofun, fun _ => trivial⟩
  | reading =>
    cases taken
    obtain ⟨kept, found, own, -⟩ := standing.guard
    refine ⟨_, rfl, ?_⟩
    rw [found]
    exact ⟨nofun, fun _ => own⟩
  | comparing status =>
    cases taken
    refine ⟨_, rfl, ?_⟩
    unfold RecoveryGate.compare
    rw [standing.session]
    by_cases own : status.sessionId = held.sessionId
    · simp only [own, decide_true, Bool.true_and] at unreleased
      simp only [own, ne_eq, not_true_eq_false, if_false]
      split
      · exact ⟨nofun, fun _ => own⟩
      · exact heldBack_judge unreleased
    · simp only [ne_eq, Ne.symm own, not_false_eq_true, if_true]
      refine ⟨fun _ _ same => ?_, fun after => absurd (waits.2 after) own⟩
      cases same
      exact own
  | asking status =>
    cases taken
    refine ⟨_, rfl, ?_⟩
    by_cases own : status.sessionId = held.sessionId
    · simp only [own, decide_true, Bool.true_and, Bool.or_eq_false_iff] at unreleased
      rw [own, unreleased.2]
      exact heldBack_judge unreleased.1
    · refine ⟨fun _ _ same => ?_, fun after => absurd (waits.2 after) own⟩
      unfold judge at same
      split at same
      · cases same
        exact own
      · split at same
        all_goals cases same
        exact own
  | returned => cases taken
  | unblocking _ cause =>
    cases taken
    refine ⟨_, rfl, ?_, fun after => (waits.2 after).elim⟩
    cases cause <;> exact nofun
  | checkingPeer =>
    cases taken
    refine ⟨_, rfl, ?_, fun after => (waits.2 after).elim⟩
    split <;> exact nofun
  | clearing | expiring | checkingTransport =>
    cases taken
    exact ⟨_, rfl, nofun, fun after => (waits.2 after).elim⟩

theorem standing_send (standing : Standing held first s)
    (recovers : Recovers held.sessionId s (.send index answer) t) (listed : s.sends[index]? = some phase)
    (taken : s.advance index answer phase = some t) : Standing held first t := by
  have facts := advanceFacts_advance taken
  obtain ⟨kept, found, own, start⟩ := standing.guard
  obtain ⟨next, sends⟩ := facts.sends
  constructor
  case guard =>
    refine ⟨kept, ?_, own, start⟩
    rcases facts.guard with same | ⟨-, status, cause, clearing, matching⟩
    · rw [same, found]
    · simp only [found, Option.any_some, decide_eq_true_eq] at matching
      exact absurd (matching.symm.trans own) ((standing.sends index phase listed).1 status cause clearing)
  case session => exact recovers.2
  case listener => exact listenerOk_of_less standing.listener facts.listener (facts.guard.imp id And.left)
  case bound =>
    rw [sends, List.length_set]
    exact standing.bound
  case sends =>
    intro other after here
    by_cases moved : index = other
    · subst moved
      obtain ⟨following, same, waits⟩ := heldBack_advance standing (standing.sends index phase listed) listed recovers.1 taken
      rw [same, Slots.set_self listed] at here
      cases here
      exact waits
    · rw [sends, List.getElem?_set_ne moved] at here
      exact standing.sends other after here

theorem sends_listen (taken : s.listen answer listener = some t) : t.sends = s.sends := by
  cases listener with
  | idle => cases taken
  | _ =>
    cases taken
    rfl

theorem standing_listen (standing : Standing held first s) (current : Current s (.listen answer) t)
    (recovers : Recovers held.sessionId s (.listen answer) t) (taken : s.listen answer s.listener = some t) :
    Standing held first t := by
  obtain ⟨kept, found, own, start⟩ := standing.guard
  have sends := sends_listen taken
  constructor
  case guard =>
    rcases listen_guard standing.listener rfl taken found (own ▸ standing.session) current with
      same | ⟨-, released | ⟨after, here, session, began⟩⟩
    · exact ⟨kept, same, own, start⟩
    · have unreleased := recovers.1
      rcases released with clearing | closing
      · simp [releases, clearing, own] at unreleased
      · simp [releases, closing, own] at unreleased
    · exact ⟨after, here, session.trans own, began.trans start⟩
  case session => exact recovers.2
  case listener => exact listenerOk_listen standing.listener rfl taken
  case bound => exact sends ▸ standing.bound
  case sends =>
    rw [sends]
    exact standing.sends

theorem standing_outside (standing : Standing held first s) (session : t.session = some held.sessionId)
    (guard : t.recovering = s.recovering) (listener : ListenerOk t)
    (sends : t.sends = s.sends ∨ t.sends = s.sends ++ [.preflight]) : Standing held first t := by
  constructor
  case guard =>
    rw [guard]
    exact standing.guard
  case session => exact session
  case listener => exact listener
  case bound =>
    rcases sends with same | more
    · exact same ▸ standing.bound
    · rw [more, List.length_append]
      exact Nat.le_add_right_of_le standing.bound
  case sends =>
    intro index phase listed
    rcases sends with same | more
    · exact standing.sends index phase (same ▸ listed)
    · rw [more] at listed
      rcases Slots.of_snoc listed with old | ⟨-, rfl⟩
      · exact standing.sends index phase old
      · exact ⟨nofun, fun _ => trivial⟩

theorem standing_step (standing : Standing held first s) (current : Current s action t)
    (recovers : Recovers held.sessionId s action t) (taken : step s action = some t) : Standing held first t := by
  have listener := listenerOk_step standing.listener taken
  cases action with
  | event =>
    obtain ⟨-, rfl⟩ := of_guard taken
    exact standing_outside standing recovers.2 rfl listener (.inl rfl)
  | listen => exact standing_listen standing current recovers taken
  | preflightSend =>
    cases taken
    exact standing_outside standing recovers.2 rfl listener (.inr rfl)
  | send =>
    obtain ⟨phase, listed, moves⟩ := Option.bind_eq_some_iff.mp taken
    exact standing_send standing recovers listed moves
  | coordinate | wait =>
    cases taken
    exact standing_outside standing recovers.2 rfl listener (.inl rfl)

theorem listenerOk_initial : ListenerOk initial := by
  intro sessionId found
  cases found

theorem standing_run {after : List Action} (ok : ListenerOk s) (guard : s.recovering = some status)
    (session : s.session = some status.sessionId)
    (undecided : ∀ found cause, SendPhase.clearing found cause ∈ s.sends → found.sessionId ≠ status.sessionId)
    (current : Along step Current s after) (recovers : Along step (Recovers status.sessionId) s after)
    (run : exec step s after = some t) : Standing status s.sends.length t := by
  have start : Standing status s.sends.length s := by
    refine ⟨⟨status, guard, rfl, rfl⟩, session, ok, Nat.le_refl _, fun index phase listed => ⟨?_, fun late => ?_⟩⟩
    · rintro found cause rfl
      exact undecided found cause (List.mem_of_getElem? listed)
    · have below := (List.getElem?_eq_some_iff.mp listed).1
      omega
  refine along_invariant ?_ (along_and current recovers) start run
  intro before action next standing undisturbed taken
  exact standing_step standing undisturbed.1 undisturbed.2 taken

end Steps

theorem late_events_spare_recovery (before after : List Action)
    (current : Along step Current initial (before ++ after)) : Along step SparesGuard initial (before ++ after) ∧
    ∀ s t status, exec step initial before = some s → exec step s after = some t →
      s.recovering = some status → s.session = some status.sessionId →
      (∀ found cause, SendPhase.clearing found cause ∈ s.sends → found.sessionId ≠ status.sessionId) →
        Along step (Recovers status.sessionId) s after →
      (∃ kept, t.recovering = some kept ∧ kept.sessionId = status.sessionId ∧ kept.startedAt = status.startedAt) ∧
        ∀ index result, s.sends.length ≤ index → t.sends[index]? = some (.returned result) →
          ∃ retryAfterMs, result = .error (.connectionNotReady retryAfterMs) := by
  constructor
  · refine along_of_guarded listenerOk_initial ?_ current
    intro s action t ok current taken
    exact ⟨sparesGuard_step ok current taken, listenerOk_step ok taken⟩
  · intro s t status run rest guard session undecided recovers
    have ok := exec_invariant (fun _ _ _ ok taken => listenerOk_step ok taken) listenerOk_initial run
    have standing := standing_run ok guard session undecided (along_rest current run) recovers rest
    exact ⟨standing.guard, fun index result late listed => (standing.sends index _ listed).2 late⟩

def blocksPeer : List Action :=
  [.coordinate (some 2) false none, .event (.stateChanged 2 .disconnected), .listen false, .listen false, .listen false]

def sendsOnce (sections : Nat) : List Action := .preflightSend :: List.replicate sections (.send 0 false)

theorem late_events_spare_recovery_of_one :
    Along step Current initial (blocksPeer ++ ([.event (.stateChanged 1 .connected), .listen false, .listen false] ++
      sendsOnce 4)) ∧ ∃ s t, exec step initial blocksPeer = some s ∧
      exec step s ([.event (.stateChanged 1 .connected), .listen false, .listen false] ++ sendsOnce 4) = some t ∧
      (∃ kept, t.recovering = some kept ∧ kept.sessionId = 2 ∧ kept.startedAt = 0) ∧
      t.sends = [.returned (.error (.connectionNotReady (some 6300)))] := by
  have current : Along step Current initial (blocksPeer ++
      ([.event (.stateChanged 1 .connected), .listen false, .listen false] ++ sendsOnce 4)) := by decide +kernel
  refine ⟨current, _, _, rfl, rfl, ?_, by decide +kernel⟩
  exact ((late_events_spare_recovery _ _ current).2 _ _ ⟨2, 0, recoveryReasonPeerDisconnected⟩ rfl rfl
    (by decide +kernel) (by decide +kernel) nofun (by decide +kernel)).1

theorem late_restart_unblocks : (∃ s, exec step initial (blocksPeer ++ [.wait 1000]) = some s ∧ s.session = some 2 ∧
      s.recovering = some ⟨2, 0, recoveryReasonPeerDisconnected⟩) ∧
    (∃ s, exec step initial (blocksPeer ++ [.wait 1000, .event (.iceRestartStarted 1), .listen false]) = some s ∧
      s.session = some 2 ∧ s.recovering = some ⟨1, 1000, recoveryReasonIceNetworkStarted⟩) ∧
    (∃ s, exec step initial (blocksPeer ++ [.wait 1000, .event (.iceRestartStarted 1), .listen false] ++
        sendsOnce 7) = some s ∧ s.session = some 2 ∧ s.sendable = false ∧ s.sends = [.returned (.ok ())]) ∧
    ∃ s, exec step initial (blocksPeer ++ [.coordinate (some 2) true none] ++ sendsOnce 8) = some s ∧
      s.session = some 2 ∧ s.sends = [.returned (.ok ())] :=
  ⟨exec_of_any (by decide +kernel), exec_of_any (by decide +kernel), exec_of_any (by decide +kernel),
    exec_of_any (by decide +kernel)⟩

end Actr.Proof.Outbound
