import Actr.Hyper.Lifecycle.CredentialManager
import Actr.Library.Slots

/-! # The identity of a session -/

namespace Actr.Proof.Lifecycle.Renewal
open Hyper.Lifecycle.CredentialManager
open Actr.Protocol Actrix.Platform Actrix.Ais
open Library Machine

variable {manager : Manager} {s t : State} {attempt : Attempt} {outcome : Outcome} {event : Event} {action : Action}
variable {next : AttemptPhase} {sent : List AisRequest}
variable {session before : SessionState} {committed : Option Commit} {index : Nat}
variable {phase : AttemptPhase} {handles : Bool} {commit : Option Commit}

def inProgress (attempt : Attempt) : Bool :=
  match attempt.phase with
  | .finished _ => false
  | _ => true

def InProgress (s : State) (index : Nat) : Prop :=
  ∃ attempt, s.attempts[index]? = some attempt ∧ inProgress attempt = true

def isCommitting : AttemptPhase → Bool
  | .committing _ => true
  | _ => false

def commits (s : State) : Action → Bool
  | .attempt index .advance => (s.attempts[index]?).any fun attempt => isCommitting attempt.phase
  | _ => false

def Names (manager : Manager) (credential : AIdCredential) (actorId : ActrId) : Prop :=
  ∃ claims, manager.decodeClaims credential.claims = .ok claims ∧ claims.actorId = actorId.toStringRepr

structure Softly (manager : Manager) (before session : SessionState) : Prop where
  actorId : session.snapshot.actorId = before.snapshot.actorId
  generation : session.snapshot.generation = before.snapshot.generation
  phase : session.phase = before.phase
  credential : Names manager session.snapshot.credential session.snapshot.actorId

def Known (manager : Manager) (session before : SessionState) : Option Commit → Prop
  | none => session.snapshot = before.snapshot
  | some .soft => Softly manager before session
  | some .hard => True

def Untouched (session before : SessionState) (committed : Option Commit) : Prop :=
  committed = none ∧ session = before

def PhaseOk (manager : Manager) (session before : SessionState) (committed : Option Commit) : AttemptPhase → Prop
  | .starting => Untouched session before committed
  | .snapshotting => Untouched session before committed
  | .renewing snapshot => Untouched session before committed ∧ snapshot = session.snapshot
  | .delayed _ => Untouched session before committed
  | .updating update =>
    Untouched session before committed ∧ Names manager update.credential session.snapshot.actorId
  | .propagating => committed = some .soft ∧ Softly manager before session
  | .unavailable => Untouched session before committed
  | .rebinding => Untouched session before committed
  | .resigning old _ => Untouched session before committed ∧ old = session.snapshot
  | .registering old => Untouched session before committed ∧ old = session.snapshot
  | .entering new =>
    Untouched session before committed ∧ new.generation = nextGeneration session.snapshot.generation
  | .committing new =>
    (committed = none ∧ session.snapshot = before.snapshot) ∧
      new.generation = nextGeneration session.snapshot.generation
  | .reconnecting => committed = some .hard
  | .activating => committed = some .hard
  | .ended _ => Known manager session before committed
  | .finished _ => True

def AttemptOk (manager : Manager) (session : SessionState) (attempt : Attempt) : Prop :=
  PhaseOk manager session attempt.before attempt.committed attempt.phase

theorem Untouched.known (untouched : Untouched session before committed) :
    Known manager session before committed := by
  obtain ⟨rfl, rfl⟩ := untouched
  exact rfl

theorem acceptRenewal_names {snapshot : SessionSnapshot} {ok : RegisterOk} {update : CredentialUpdate}
    (accepted : acceptRenewal manager snapshot ok = .ok update) :
    Names manager update.credential snapshot.actorId := by
  unfold acceptRenewal at accepted
  by_cases renamed : ok.actrId ≠ snapshot.actorId
  · rw [if_pos renamed] at accepted
    cases accepted
  · rw [if_neg renamed] at accepted
    cases decoded : manager.decodeClaims ok.credential.claims with
    | error =>
      rw [decoded] at accepted
      cases accepted
    | ok claims =>
      rw [decoded] at accepted
      by_cases other : claims.actorId ≠ snapshot.actorId.toStringRepr
      · simp only [if_pos other] at accepted
        cases accepted
      · simp only [if_neg other] at accepted
        split at accepted <;> cases accepted
        exact ⟨claims, decoded, not_not.mp other⟩

theorem renewReplied_ok (reply : Except RenewError Response) (untouched : Untouched session before committed) :
    PhaseOk manager session before committed (renewReplied manager session.snapshot reply) := by
  rcases reply with error | response
  · cases error
    case tokenRejected | realmUnavailable | rateLimited | retryable => exact untouched
    case invalidRequest | protocol => exact untouched.known
  · cases response
    case error | missing => exact untouched.known
    case success ok =>
      simp only [renewReplied]
      cases accepted : acceptRenewal manager session.snapshot ok with
      | error => exact untouched.known
      | ok => exact ⟨untouched, acceptRenewal_names accepted⟩

theorem runHardRebind_ok (untouched : Untouched session before committed) :
    PhaseOk manager session before committed (runHardRebind manager session.snapshot).1 := by
  unfold runHardRebind
  split
  · exact ⟨untouched, rfl⟩
  · exact ⟨untouched, rfl⟩
  · split
    · exact untouched.known
    · exact untouched.known
    · exact ⟨untouched, rfl⟩

theorem resigned_ok (request : RegisterRequest) (proof : Except String FreshProof)
    (untouched : Untouched session before committed) :
    PhaseOk manager session before committed (resigned manager session.snapshot request proof).1 := by
  cases proof with
  | error => exact untouched.known
  | ok => exact ⟨untouched, rfl⟩

theorem registerReplied_ok (reply : Except String Response) (untouched : Untouched session before committed) :
    PhaseOk manager session before committed (registerReplied session.snapshot reply) := by
  rcases reply with message | response
  · exact untouched.known
  · cases response
    case error | missing => exact untouched.known
    case success ok =>
      simp only [registerReplied]
      split
      · exact untouched.known
      · exact untouched.known
      · exact untouched.known
      · exact ⟨untouched, rfl⟩

theorem reconnected_ok (result : Except String Unit) (hard : committed = some .hard) :
    PhaseOk manager session before committed (reconnected result) := by
  subst hard
  cases result with
  | error => trivial
  | ok => rfl

inductive Quiet (manager : Manager) (s : State) : AttemptPhase → AttemptPhase → List AisRequest → Prop where
  | snapshotting : Quiet manager s .starting .snapshotting []
  | empty : Quiet manager s .snapshotting .rebinding []
  | renewing (request : AisRequest) : Quiet manager s .snapshotting (.renewing s.session.snapshot) [request]
  | delayed (error : String) : Quiet manager s (.delayed error) (.ended (.error error)) []
  | propagating : Quiet manager s .propagating (.ended (.ok ())) []
  | rebinding :
      Quiet manager s .rebinding (runHardRebind manager s.session.snapshot).1
        (runHardRebind manager s.session.snapshot).2
  | renewReplied (snapshot : SessionSnapshot) (reply : Except RenewError Response) :
      Quiet manager s (.renewing snapshot) (renewReplied manager snapshot reply) []
  | resigned (old : SessionSnapshot) (request : RegisterRequest) (proof : Except String FreshProof) :
      Quiet manager s (.resigning old request) (resigned manager old request proof).1
        (resigned manager old request proof).2
  | registerReplied (old : SessionSnapshot) (reply : Except String Response) :
      Quiet manager s (.registering old) (registerReplied old reply) []
  | reconnected (result : Except String Unit) : Quiet manager s .reconnecting (reconnected result) []

inductive Writes (s : State) (handles : Bool) : AttemptPhase → AttemptPhase → Option Commit → SessionState → Prop where
  | updating (update : CredentialUpdate) :
      Writes s handles (.updating update) .propagating (some .soft) (s.session.updateCredentials update)
  | unavailable :
      Writes s handles .unavailable (.ended (.error "realm unavailable during renewal")) none
        s.session.setRealmUnavailable
  | entering (new : SessionSnapshot) :
      Writes s handles (.entering new) (.committing new) none s.session.enterRebinding
  | committing (new : SessionSnapshot) :
      Writes s handles (.committing new) (if handles then .reconnecting else .activating) (some .hard)
        (s.session.commitHardRebind new)
  | activating : Writes s handles .activating (.ended (.ok ())) none s.session.setActive

theorem act_cases (taken : act manager s attempt event = some outcome) :
    (∃ phase handles sent, Quiet manager s attempt.phase phase sent ∧
      outcome = ⟨{ attempt with phase, handles }, s.session, sent, s.renewing⟩) ∨
    (∃ phase commit session, event = .advance ∧ Writes s attempt.handles attempt.phase phase commit session ∧
      outcome = ⟨{ attempt with phase, committed := commit.or attempt.committed }, session, [], s.renewing⟩) ∨
    ∃ result, attempt.phase = .ended result ∧
      outcome = ⟨{ attempt with phase := .finished result }, s.session, [], false⟩ := by
  obtain ⟨phase, handles, before, committed⟩ := attempt
  cases event with
  | advance =>
    cases phase
    case starting | delayed | propagating | rebinding =>
      cases taken
      exact .inl ⟨_, _, _, by constructor, rfl⟩
    case updating | unavailable | entering | committing | activating =>
      cases taken
      exact .inr (.inl ⟨_, _, _, rfl, by constructor, rfl⟩)
    case snapshotting =>
      simp only [act, advance] at taken
      split at taken
      · cases taken
        exact .inl ⟨_, _, _, .empty, rfl⟩
      · split at taken
        · cases taken
          exact .inl ⟨_, _, _, .empty, rfl⟩
        · cases taken
          exact .inl ⟨_, _, _, .renewing _, rfl⟩
    case ended result =>
      cases taken
      exact .inr (.inr ⟨result, rfl, rfl⟩)
    all_goals cases taken
  | renewReplied | resigned | registerReplied | reconnected =>
    cases phase <;> cases taken
    exact .inl ⟨_, _, _, by constructor, rfl⟩

theorem Quiet.ok (quiet : Quiet manager s phase next sent)
    (ok : PhaseOk manager s.session before committed phase) : PhaseOk manager s.session before committed next := by
  cases quiet with
  | snapshotting | empty => exact ok
  | renewing => exact ⟨ok, rfl⟩
  | delayed => exact Untouched.known ok
  | propagating =>
    obtain ⟨rfl, softly⟩ := ok
    exact softly
  | rebinding => exact runHardRebind_ok ok
  | renewReplied snapshot reply =>
    obtain ⟨untouched, rfl⟩ := ok
    exact renewReplied_ok reply untouched
  | resigned old request proof =>
    obtain ⟨untouched, rfl⟩ := ok
    exact resigned_ok request proof untouched
  | registerReplied old reply =>
    obtain ⟨untouched, rfl⟩ := ok
    exact registerReplied_ok reply untouched
  | reconnected result => exact reconnected_ok result ok

theorem Writes.ok (writes : Writes s handles phase next commit session)
    (ok : PhaseOk manager s.session before committed phase) :
    PhaseOk manager session before (commit.or committed) next := by
  cases writes with
  | updating =>
    obtain ⟨⟨rfl, rfl⟩, names⟩ := ok
    exact ⟨rfl, rfl, rfl, rfl, names⟩
  | unavailable =>
    obtain ⟨rfl, rfl⟩ := ok
    exact rfl
  | entering =>
    obtain ⟨⟨rfl, rfl⟩, generation⟩ := ok
    exact ⟨⟨rfl, rfl⟩, generation⟩
  | committing =>
    cases handles <;> exact rfl
  | activating =>
    obtain rfl : committed = some .hard := ok
    trivial

inductive Moves (session next : SessionState) : Bool → Prop where
  | stays (actorId : next.snapshot.actorId = session.snapshot.actorId)
      (generation : next.snapshot.generation = session.snapshot.generation) : Moves session next false
  | commits (generation : next.snapshot.generation = nextGeneration session.snapshot.generation) :
      Moves session next true

theorem Writes.moves (writes : Writes s handles phase next commit session)
    (ok : PhaseOk manager s.session before committed phase) : Moves s.session session (isCommitting phase) := by
  cases writes with
  | committing => exact .commits ok.2
  | updating | unavailable | entering | activating => exact .stays rfl rfl

theorem Writes.current (writes : Writes s handles phase next commit session)
    (current : s.session.currentGeneration = s.session.snapshot.generation) :
    session.currentGeneration = session.snapshot.generation := by
  cases writes with
  | committing => exact rfl
  | updating | unavailable | entering | activating => exact current

structure Ok (manager : Manager) (s : State) : Prop where
  current : s.session.currentGeneration = s.session.snapshot.generation
  flagged : ∀ index, InProgress s index → s.renewing = true
  single : ∀ first second, InProgress s first → InProgress s second → first = second
  attempts : ∀ (index : Nat) (attempt : Attempt), s.attempts[index]? = some attempt →
    AttemptOk manager s.session attempt

theorem initial_ok (manager : Manager) (snapshot : SessionSnapshot) (now : Int) :
    Ok manager (initial snapshot now) := by
  constructor
  case current => rfl
  case flagged =>
    rintro index ⟨attempt, listed, -⟩
    cases listed
  case single =>
    rintro first second ⟨attempt, listed, -⟩
    cases listed
  case attempts =>
    intro index attempt listed
    cases listed

theorem attemptOk_of_finished (finished : inProgress attempt = false) : AttemptOk manager session attempt := by
  obtain ⟨phase, handles, before, committed⟩ := attempt
  cases phase
  case finished => trivial
  all_goals cases finished

theorem triggerRenewal_ok (ok : Ok manager s) : Ok manager (triggerRenewal s) := by
  unfold triggerRenewal
  split
  · exact ok
  · next idle =>
    have only : ∀ index,
        InProgress { s with
          renewing := true
          attempts := s.attempts ++ [⟨.starting, false, s.session, none⟩] } index → index = s.attempts.length := by
      rintro index ⟨attempt, listed, running⟩
      obtain old | ⟨here, -⟩ := Slots.of_snoc listed
      · exact absurd (ok.flagged index ⟨attempt, old, running⟩) idle
      · exact here
    constructor
    case current => exact ok.current
    case flagged =>
      intro index running
      rfl
    case single =>
      intro first second running other
      exact (only first running).trans (only second other).symm
    case attempts =>
      intro index attempt listed
      obtain old | ⟨-, rfl⟩ := Slots.of_snoc listed
      · exact ok.attempts index attempt old
      · exact ⟨rfl, rfl⟩

structure ActOk (manager : Manager) (s : State) (attempt : Attempt) (event : Event) (outcome : Outcome) : Prop where
  running : inProgress attempt = true
  renewing : inProgress outcome.attempt = true → outcome.renewing = s.renewing
  kept : AttemptOk manager outcome.session outcome.attempt
  current : outcome.session.currentGeneration = outcome.session.snapshot.generation
  moves : Moves s.session outcome.session (event = .advance && isCommitting attempt.phase)

theorem Writes.running {flag : Bool} (writes : Writes s handles phase next commit session) :
    inProgress ⟨phase, flag, before, committed⟩ = true := by
  cases writes <;> rfl

theorem Quiet.running (quiet : Quiet manager s phase next sent) :
    inProgress ⟨phase, handles, before, committed⟩ = true ∧ isCommitting phase = false := by
  cases quiet <;> exact ⟨rfl, rfl⟩

theorem act_ok (ok : AttemptOk manager s.session attempt)
    (current : s.session.currentGeneration = s.session.snapshot.generation)
    (taken : act manager s attempt event = some outcome) : ActOk manager s attempt event outcome := by
  obtain ⟨phase, handles, sent, quiet, rfl⟩ | ⟨phase, commit, session, rfl, writes, rfl⟩ | ⟨result, ended, rfl⟩ :=
    act_cases taken
  · obtain ⟨running, quietly⟩ := quiet.running
    refine ⟨running, fun _ => rfl, quiet.ok ok, current, ?_⟩
    rw [quietly, Bool.and_false]
    exact .stays rfl rfl
  · exact ⟨writes.running, fun _ => rfl, writes.ok ok, writes.current current, writes.moves ok⟩
  · refine ⟨?_, ?_, trivial, current, ?_⟩
    · unfold inProgress
      rw [ended]
    · intro running
      cases running
    · rw [ended, show isCommitting (.ended result) = false from rfl, Bool.and_false]
      exact .stays rfl rfl

section

variable (ok : Ok manager s) (listed : s.attempts[index]? = some attempt)
  (acted : ActOk manager s attempt event outcome)
include ok listed acted

theorem act_single (other : Nat) (running : InProgress (s.after index outcome) other) : other = index := by
  obtain ⟨found, now, running⟩ := running
  obtain ⟨here, -⟩ | ⟨-, old⟩ := Slots.of_set now
  · exact here
  · exact ok.single other index ⟨found, old, running⟩ ⟨attempt, listed, acted.running⟩

theorem after_ok : Ok manager (s.after index outcome) := by
  constructor
  case current => exact acted.current
  case flagged =>
    intro other running
    obtain rfl := act_single ok listed acted other running
    obtain ⟨found, now, running⟩ := running
    cases (Slots.set_self listed).symm.trans now
    exact (acted.renewing running).trans (ok.flagged other ⟨attempt, listed, acted.running⟩)
  case single =>
    intro first second running other
    exact (act_single ok listed acted first running).trans (act_single ok listed acted second other).symm
  case attempts =>
    intro other found now
    obtain ⟨-, rfl⟩ | ⟨away, old⟩ := Slots.of_set now
    · exact acted.kept
    · apply attemptOk_of_finished
      apply Bool.eq_false_iff.mpr
      intro running
      exact away (ok.single other index ⟨found, old, running⟩ ⟨attempt, listed, acted.running⟩)

end

theorem step_attempt (taken : step manager s (.attempt index event) = some t) :
    ∃ attempt outcome, s.attempts[index]? = some attempt ∧ act manager s attempt event = some outcome ∧
      t = s.after index outcome := by
  obtain ⟨attempt, listed, taken⟩ := Option.bind_eq_some_iff.mp taken
  obtain ⟨outcome, acted, rfl⟩ := Option.map_eq_some_iff.mp taken
  exact ⟨attempt, outcome, listed, acted, rfl⟩

theorem triggerRenewal_session : (triggerRenewal s).session = s.session := by
  unfold triggerRenewal
  split <;> rfl

theorem step_ok (ok : Ok manager s) (taken : step manager s action = some t) :
    Ok manager t ∧ Moves s.session t.session (commits s action) := by
  cases action with
  | triggerRenewal =>
    cases taken
    exact ⟨triggerRenewal_ok ok, .stays (by rw [triggerRenewal_session]) (by rw [triggerRenewal_session])⟩
  | heartbeat result =>
    cases taken
    cases result.renews
    · exact ⟨ok, .stays rfl rfl⟩
    · exact ⟨triggerRenewal_ok ok, .stays (by simp [triggerRenewal_session]) (by simp [triggerRenewal_session])⟩
  | installHardRebindHandles | tick =>
    cases taken
    exact ⟨⟨ok.current, ok.flagged, ok.single, ok.attempts⟩, .stays rfl rfl⟩
  | attempt index event =>
    obtain ⟨attempt, outcome, listed, acted, rfl⟩ := step_attempt taken
    have acted := act_ok (ok.attempts index attempt listed) ok.current acted
    refine ⟨after_ok ok listed acted, ?_⟩
    have same : commits s (.attempt index event) = (event = .advance && isCommitting attempt.phase) := by
      cases event <;> simp [commits, listed]
    rw [same]
    exact acted.moves

theorem toNat_nextGeneration (generation : UInt64) :
    (nextGeneration generation).toNat = min (generation.toNat + 1) (2 ^ 64 - 1) := by
  have below := generation.toNat_lt
  unfold nextGeneration
  split
  · rw [UInt64.toNat_add, UInt64.toNat_one]
    omega
  · omega

theorem Moves.generation_le {committing : Bool} {next : SessionState} (moves : Moves session next committing) :
    session.snapshot.generation.toNat ≤ next.snapshot.generation.toNat := by
  cases moves with
  | stays actorId generation => exact Nat.le_of_eq (congrArg UInt64.toNat generation.symm)
  | commits generation =>
    have below := session.snapshot.generation.toNat_lt
    rw [generation, toNat_nextGeneration]
    omega

theorem attemptOk_softly (ok : AttemptOk manager session attempt) (running : inProgress attempt = true)
    (soft : attempt.committed = some .soft) : Softly manager attempt.before session := by
  obtain ⟨phase, handles, before, committed⟩ := attempt
  subst soft
  cases phase
  case propagating => exact ok.2
  case ended => exact ok
  case finished => cases running
  case starting | snapshotting | delayed | unavailable | rebinding => cases ok.1
  case renewing | updating | resigning | registering | entering | committing => cases ok.1.1
  case reconnecting | activating => cases ok

structure KeepsIdentity (manager : Manager) (s : State) (action : Action) (t : State) : Prop where
  single : ∀ first second, InProgress t first → InProgress t second → first = second
  current : t.session.currentGeneration = t.session.snapshot.generation
  monotone : s.session.snapshot.generation.toNat ≤ t.session.snapshot.generation.toNat
  commit : commits s action = true →
    t.session.snapshot.generation.toNat = min (s.session.snapshot.generation.toNat + 1) (2 ^ 64 - 1)
  generation : commits s action = false → t.session.snapshot.generation = s.session.snapshot.generation
  actorId : commits s action = false → t.session.snapshot.actorId = s.session.snapshot.actorId
  soft : ∀ (index : Nat) (attempt : Attempt), t.attempts[index]? = some attempt → inProgress attempt = true →
    attempt.committed = some .soft → Softly manager attempt.before t.session
  failed : ∀ (index : Nat) (attempt : Attempt) (error : String), t.attempts[index]? = some attempt →
    attempt.phase = .ended (.error error) → attempt.committed = none →
      t.session.snapshot = attempt.before.snapshot

theorem keepsIdentity_step (ok : Ok manager s) (taken : step manager s action = some t) :
    KeepsIdentity manager s action t := by
  obtain ⟨next, moves⟩ := step_ok ok taken
  constructor
  case single => exact next.single
  case current => exact next.current
  case monotone => exact moves.generation_le
  case commit =>
    intro commit
    rw [commit] at moves
    cases moves with
    | commits generation => rw [generation, toNat_nextGeneration]
  case generation =>
    intro other
    rw [other] at moves
    cases moves with
    | stays actorId generation => exact generation
  case actorId =>
    intro other
    rw [other] at moves
    cases moves with
    | stays actorId => exact actorId
  case soft =>
    intro index attempt listed running soft
    exact attemptOk_softly (next.attempts index attempt listed) running soft
  case failed =>
    intro index attempt error listed ended uncommitted
    have ok := next.attempts index attempt listed
    rw [AttemptOk, ended, uncommitted] at ok
    exact ok

theorem identity_changes_by_commit (manager : Manager) (snapshot : SessionSnapshot) (now : Int)
    (actions : List Action) : Along (step manager) (KeepsIdentity manager) (initial snapshot now) actions := by
  refine along_of_invariant (initial_ok manager snapshot now) ?_ (fun _ _ => trivial)
  intro s action t ok (_ : True) taken
  exact ⟨keepsIdentity_step ok taken, (step_ok ok taken).1⟩

section Saturation

def workerId : ActrId := ⟨⟨1⟩, 7, ⟨"acme", "worker", "1.0.0"⟩⟩

def workerRequest : RegisterRequest :=
  { realm := ⟨1⟩, actrType := ⟨"acme", "worker", "1.0.0"⟩, target := none, manifestRaw := none
    mfrSignature := none, manufacturerAuthSignature := none, manufacturerAuthSignedAt := none
    manufacturerAuthNonce := none }

def workerSnapshot : SessionSnapshot :=
  { actorId := workerId, credential := ⟨1, [], []⟩, credentialExpiresAt := ⟨0, 0⟩
    turnCredential := ⟨"", "", 0⟩, renewalToken := [], renewalTokenExpiresAt := ⟨0, 0⟩, generation := 1 }

def workerManager : Manager := ⟨.linked workerRequest none, none, fun _ => .error "no claims"⟩

def registered (snapshot : SessionSnapshot) : RegisterOk :=
  { actrId := { snapshot.actorId with serialNumber := snapshot.actorId.serialNumber + 1 }
    credential := ⟨1, [], []⟩, turnCredential := ⟨"", "", 0⟩, credentialExpiresAt := some ⟨0, 0⟩
    renewalToken := some [], renewalTokenExpiresAt := some ⟨0, 0⟩ }

def rebound (snapshot : SessionSnapshot) : SessionSnapshot :=
  { workerSnapshot with
    actorId := (registered snapshot).actrId
    generation := nextGeneration snapshot.generation }

def untilCommit (s : State) : List Action :=
  [.triggerRenewal, .attempt s.attempts.length .advance, .attempt s.attempts.length .advance,
    .attempt s.attempts.length .advance,
    .attempt s.attempts.length (.registerReplied (.ok (.success (registered s.session.snapshot)))),
    .attempt s.attempts.length .advance]

def fromCommit (s : State) : List Action :=
  [.attempt s.attempts.length .advance, .attempt s.attempts.length .advance, .attempt s.attempts.length .advance]

structure Idle (s : State) : Prop where
  renewing : s.renewing = false
  handles : s.hardRebindHandles = false
  renewalToken : s.session.snapshot.renewalToken = []

theorem step_last {attempts : List Attempt} {renewing : Bool} {now : Int} {requests : List AisRequest} :
    step manager ⟨session, renewing, handles, attempts ++ [attempt], now, requests⟩ (.attempt attempts.length event) =
      (act manager ⟨session, renewing, handles, attempts ++ [attempt], now, requests⟩ attempt event).map
        fun outcome =>
          ⟨outcome.session, outcome.renewing, handles, attempts ++ [outcome.attempt], now, requests ++ outcome.sent⟩ := by
  rw [step, List.getElem?_concat_length, Option.bind_some]
  congr 1
  funext outcome
  simp [State.after]

def committingState (s : State) : State :=
  { session := s.session.enterRebinding, renewing := true, hardRebindHandles := false
    attempts := s.attempts ++ [⟨.committing (rebound s.session.snapshot), false, s.session, none⟩]
    now := s.now, requests := s.requests ++ [.register none workerRequest] }

def reboundState (s : State) : State :=
  { session := (s.session.enterRebinding.commitHardRebind (rebound s.session.snapshot)).setActive
    renewing := false, hardRebindHandles := false
    attempts := s.attempts ++ [⟨.finished (.ok ()), false, s.session, some .hard⟩]
    now := s.now, requests := s.requests ++ [.register none workerRequest] }

theorem exec_untilCommit (idle : Idle s) :
    exec (step workerManager) s (untilCommit s) = some (committingState s) := by
  obtain ⟨session, renewing, handles, attempts, now, requests⟩ := s
  obtain ⟨renews, installed, token⟩ := idle
  dsimp only at renews installed token
  subst renews installed
  have triggered : step workerManager ⟨session, false, false, attempts, now, requests⟩ .triggerRenewal =
      some ⟨session, true, false, attempts ++ [⟨.starting, false, session, none⟩], now, requests⟩ := rfl
  rw [untilCommit, exec, triggered, Option.bind_some]
  simp [exec, step_last, act, advance, token, Attempt.goTo, runHardRebind, workerManager, registerReplied, registered,
    rebound, workerSnapshot, committingState]

theorem exec_fromCommit : exec (step workerManager) (committingState s) (fromCommit s) = some (reboundState s) := by
  simp [committingState, fromCommit, exec, step_last, act, advance, Attempt.goTo, reboundState]

theorem reboundState_idle : Idle (reboundState s) := ⟨rfl, rfl, rfl⟩

theorem reaches_generation (n : Nat) :
    ∃ s, Reachable (step workerManager) (initial workerSnapshot 0) s ∧ Idle s ∧
      s.session.snapshot.generation.toNat = min (n + 1) (2 ^ 64 - 1) := by
  induction n with
  | zero => exact ⟨_, ⟨[], rfl⟩, ⟨rfl, rfl, rfl⟩, rfl⟩
  | succ n ih =>
    obtain ⟨s, ⟨actions, run⟩, idle, generation⟩ := ih
    refine ⟨reboundState s, ⟨actions ++ (untilCommit s ++ fromCommit s), ?_⟩, reboundState_idle, ?_⟩
    · rw [exec_append, run, Option.bind_some, exec_append, exec_untilCommit idle, Option.bind_some, exec_fromCommit]
    · have next : (reboundState s).session.snapshot.generation = nextGeneration s.session.snapshot.generation := rfl
      rw [next, toNat_nextGeneration, generation]
      omega

theorem last_generation_stays : ∃ s t index, Reachable (step workerManager) (initial workerSnapshot 0) s ∧
      commits s (.attempt index .advance) = true ∧ step workerManager s (.attempt index .advance) = some t ∧
      t.session.snapshot.actorId ≠ s.session.snapshot.actorId ∧
      t.session.snapshot.generation = s.session.snapshot.generation := by
  obtain ⟨s, ⟨actions, run⟩, idle, generation⟩ := reaches_generation (2 ^ 64 - 2)
  have listed : (committingState s).attempts[s.attempts.length]? =
      some ⟨.committing (rebound s.session.snapshot), false, s.session, none⟩ := List.getElem?_concat_length ..
  have taken : step workerManager (committingState s) (.attempt s.attempts.length .advance) =
      some ((committingState s).after s.attempts.length
        ⟨⟨.activating, false, s.session, some .hard⟩,
          s.session.enterRebinding.commitHardRebind (rebound s.session.snapshot), [], true⟩) := by
    rw [step, listed]
    rfl
  refine ⟨committingState s, _, s.attempts.length, ⟨actions ++ untilCommit s, ?_⟩, ?_, taken, ?_, ?_⟩
  · rw [exec_append, run, Option.bind_some, exec_untilCommit idle]
  · simp [commits, listed, isCommitting]
  · intro same
    have serial := congrArg ActrId.serialNumber same
    exact absurd serial (Nat.succ_ne_self _)
  · have saturated : nextGeneration s.session.snapshot.generation = s.session.snapshot.generation := by
      apply UInt64.toNat_inj.mp
      rw [toNat_nextGeneration, generation]
      omega
    exact saturated

end Saturation

end Actr.Proof.Lifecycle.Renewal
