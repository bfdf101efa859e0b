import Actr.Actrix.Ais.ManufacturerIdentity
import Actr.Protocol.Envelope

/-!
# Renewal of credentials

The session of a node and the attempts of its credential manager, cut where they wait.
-/

namespace Actr.Hyper.Lifecycle.CredentialManager
open Protocol Actrix.Platform Actrix.Ais

structure Timestamp where
  seconds : Int
  nanos : Int
  deriving DecidableEq, Repr

structure TurnCredential where
  username : String
  password : String
  expiresAt : UInt64
  deriving DecidableEq, Repr

inductive SessionPhase where
  | active
  | rebinding
  | realmUnavailable
  deriving DecidableEq, Repr

structure SessionSnapshot where
  actorId : ActrId
  credential : AIdCredential
  credentialExpiresAt : Timestamp
  turnCredential : TurnCredential
  renewalToken : List UInt8
  renewalTokenExpiresAt : Timestamp
  generation : UInt64
  deriving DecidableEq, Repr

structure SessionState where
  phase : SessionPhase
  snapshot : SessionSnapshot
  currentGeneration : UInt64
  deriving DecidableEq, Repr

def SessionState.new (snapshot : SessionSnapshot) : SessionState := ⟨.active, snapshot, snapshot.generation⟩

structure CredentialUpdate where
  credential : AIdCredential
  credentialExpiresAt : Timestamp
  turnCredential : TurnCredential
  renewalToken : List UInt8
  renewalTokenExpiresAt : Timestamp
  deriving DecidableEq, Repr

def SessionState.updateCredentials (session : SessionState) (update : CredentialUpdate) : SessionState :=
  { session with
    snapshot :=
      { session.snapshot with
        credential := update.credential
        credentialExpiresAt := update.credentialExpiresAt
        turnCredential := update.turnCredential
        renewalToken := update.renewalToken
        renewalTokenExpiresAt := update.renewalTokenExpiresAt } }

def SessionState.enterRebinding (session : SessionState) : SessionState := { session with phase := .rebinding }

def SessionState.commitHardRebind (session : SessionState) (snapshot : SessionSnapshot) : SessionState :=
  { session with snapshot, currentGeneration := snapshot.generation }

def SessionState.setActive (session : SessionState) : SessionState := { session with phase := .active }

def SessionState.setRealmUnavailable (session : SessionState) : SessionState :=
  { session with phase := .realmUnavailable }

structure RegisterOk where
  actrId : ActrId
  credential : AIdCredential
  turnCredential : TurnCredential
  credentialExpiresAt : Option Timestamp
  renewalToken : Option (List UInt8)
  renewalTokenExpiresAt : Option Timestamp
  deriving DecidableEq, Repr

inductive Response where
  | success (ok : RegisterOk)
  | error (error : ErrorResponse)
  | missing
  deriving DecidableEq, Repr

inductive RenewError where
  | invalidRequest (message : String)
  | tokenRejected
  | realmUnavailable
  | rateLimited (retryAfter : Option Nat)
  | retryable (message : String)
  | protocol (message : String)
  deriving DecidableEq, Repr

def RenewError.display : RenewError → String
  | .invalidRequest message => "invalid renewal request: " ++ message
  | .tokenRejected => "renewal token rejected"
  | .realmUnavailable => "realm unavailable"
  | .rateLimited _ => "renewal rate limited"
  | .retryable message => "retryable renewal error: " ++ message
  | .protocol message => "renewal protocol error: " ++ message

inductive AisRequest where
  | renew (realmSecret : Option String) (actrId : ActrId) (renewalToken : List UInt8)
  | register (realmSecret : Option String) (request : RegisterRequest)
  deriving DecidableEq, Repr

structure FreshProof where
  signature : List UInt8
  signedAt : UInt64
  nonce : List UInt8
  deriving DecidableEq, Repr

-- `resign` tells whether there is a provider that can sign again.
inductive RegistrationContext where
  | package (request : RegisterRequest) (resign : Bool)
  | linked (request : RegisterRequest) (realmSecret : Option String)
  deriving DecidableEq, Repr

structure Manager where
  registrationCtx : RegistrationContext
  realmSecret : Option String
  decodeClaims : List UInt8 → Except String IdentityClaims

def nextGeneration (generation : UInt64) : UInt64 :=
  if generation.toNat + 1 < 2 ^ 64 then generation + 1 else generation

def isExpired (now expiresAt : Int) : Bool := expiresAt ≤ now

inductive AttemptPhase where
  | starting
  | snapshotting
  | renewing (snapshot : SessionSnapshot)
  | delayed (error : String)
  | updating (update : CredentialUpdate)
  | propagating
  | unavailable
  | rebinding
  | resigning (old : SessionSnapshot) (request : RegisterRequest)
  | registering (old : SessionSnapshot)
  | entering (new : SessionSnapshot)
  | committing (new : SessionSnapshot)
  | reconnecting
  | activating
  | ended (result : Except String Unit)
  | finished (result : Except String Unit)
  deriving DecidableEq, Repr

inductive Commit where
  | soft
  | hard
  deriving DecidableEq, Repr

-- Nothing reads `before`, the session at the trigger, or `committed`.
structure Attempt where
  phase : AttemptPhase
  handles : Bool
  before : SessionState
  committed : Option Commit
  deriving DecidableEq, Repr

def acceptRenewal (manager : Manager) (snapshot : SessionSnapshot) (ok : RegisterOk) :
    Except String CredentialUpdate := do
  if ok.actrId ≠ snapshot.actorId then throw "renew response changed ActrId"
  match manager.decodeClaims ok.credential.claims with
  | .error message => throw ("renew credential claims decode failed: " ++ message)
  | .ok claims =>
    if claims.actorId ≠ snapshot.actorId.toStringRepr then throw "renew credential claims actor_id mismatch"
    match ok.credentialExpiresAt, ok.renewalToken, ok.renewalTokenExpiresAt with
    | none, _, _ => throw "renew response missing credential expiry"
    | some _, none, _ => throw "renew response missing renewal token"
    | some _, some _, none => throw "renew response missing renewal token expiry"
    | some credentialExpiresAt, some renewalToken, some renewalTokenExpiresAt =>
      return { credential := ok.credential
               credentialExpiresAt
               turnCredential := ok.turnCredential
               renewalToken
               renewalTokenExpiresAt }

def renewReplied (manager : Manager) (snapshot : SessionSnapshot) : Except RenewError Response → AttemptPhase
  | .error .realmUnavailable => .unavailable
  | .error .tokenRejected => .rebinding
  | .error (.rateLimited _) => .delayed "renewal rate limited"
  | .error (.retryable message) => .delayed ("retryable renew error: " ++ message)
  | .error (.invalidRequest message) => .ended (.error (RenewError.invalidRequest message).display)
  | .error (.protocol message) => .ended (.error (RenewError.protocol message).display)
  | .ok (.error error) =>
    .ended (.error ("renew response contained error " ++ toString error.code ++ ": " ++ error.message))
  | .ok .missing => .ended (.error "renew response missing result")
  | .ok (.success ok) =>
    match acceptRenewal manager snapshot ok with
    | .error message => .ended (.error message)
    | .ok update => .updating update

/-- `run_hard_rebind` up to its first wait. -/
def runHardRebind (manager : Manager) (old : SessionSnapshot) : AttemptPhase × List AisRequest :=
  match manager.registrationCtx with
  | .package request false => (.registering old, [.register manager.realmSecret request])
  | .linked request realmSecret => (.registering old, [.register (manager.realmSecret.or realmSecret) request])
  | .package request true =>
    match request.target.filter (· ≠ ""), request.manifestRaw.filter (· ≠ []) with
    | none, _ => (.ended (.error "hard rebind manufacturer re-sign failed: package target is missing"), [])
    | some _, none => (.ended (.error "hard rebind manufacturer re-sign failed: package manifest is missing"), [])
    | some _, some _ => (.resigning old request, [])

def resigned (manager : Manager) (old : SessionSnapshot) (request : RegisterRequest) :
    Except String FreshProof → AttemptPhase × List AisRequest
  | .error message => (.ended (.error ("hard rebind manufacturer re-sign failed: " ++ message)), [])
  | .ok fresh =>
    let request :=
      { request with
        manufacturerAuthSignature := some fresh.signature
        manufacturerAuthSignedAt := some fresh.signedAt
        manufacturerAuthNonce := some fresh.nonce }
    (.registering old, [.register manager.realmSecret request])

def registerReplied (old : SessionSnapshot) : Except String Response → AttemptPhase
  | .error message => .ended (.error ("hard rebind register failed before commit: " ++ message))
  | .ok (.error error) =>
    .ended
      (.error ("hard rebind register rejected before commit " ++ toString error.code ++ ": " ++ error.message))
  | .ok .missing => .ended (.error "hard rebind register response missing result")
  | .ok (.success ok) =>
    match ok.credentialExpiresAt, ok.renewalToken, ok.renewalTokenExpiresAt with
    | none, _, _ => .ended (.error "hard rebind response missing credential expiry")
    | some _, none, _ => .ended (.error "hard rebind response missing renewal token")
    | some _, some _, none => .ended (.error "hard rebind response missing renewal token expiry")
    | some credentialExpiresAt, some renewalToken, some renewalTokenExpiresAt =>
      .entering
        { actorId := ok.actrId
          credential := ok.credential
          credentialExpiresAt
          turnCredential := ok.turnCredential
          renewalToken
          renewalTokenExpiresAt
          generation := nextGeneration old.generation }

def reconnected : Except String Unit → AttemptPhase
  | .ok () => .activating
  | .error message => .ended (.error ("hard rebind committed but signaling reconnect failed: " ++ message))

-- `requests` is the record of what was sent; nothing reads it.
structure State where
  session : SessionState
  renewing : Bool
  hardRebindHandles : Bool
  attempts : List Attempt
  now : Int
  requests : List AisRequest
  deriving DecidableEq, Repr

def initial (snapshot : SessionSnapshot) (now : Int) : State :=
  { session := .new snapshot, renewing := false, hardRebindHandles := false, attempts := [], now, requests := [] }

def triggerRenewal (s : State) : State :=
  if s.renewing then s
  else
    { s with
      renewing := true
      attempts := s.attempts ++ [⟨.starting, false, s.session, none⟩] }

inductive Heartbeat where
  | pong (credentialWarning : Bool)
  | credentialExpired
  | failed
  | timedOut
  deriving DecidableEq, Repr

def Heartbeat.renews : Heartbeat → Bool
  | .pong credentialWarning => credentialWarning
  | .credentialExpired => true
  | .failed => false
  | .timedOut => false

structure Outcome where
  attempt : Attempt
  session : SessionState
  sent : List AisRequest
  renewing : Bool
  deriving DecidableEq, Repr

inductive Event where
  | advance
  | renewReplied (reply : Except RenewError Response)
  | resigned (proof : Except String FreshProof)
  | registerReplied (reply : Except String Response)
  | reconnected (result : Except String Unit)
  deriving DecidableEq, Repr

def Attempt.goTo (attempt : Attempt) (s : State) (next : AttemptPhase × List AisRequest) : Outcome :=
  { attempt := { attempt with phase := next.1 }, session := s.session, sent := next.2, renewing := s.renewing }

def advance (manager : Manager) (s : State) (attempt : Attempt) : Option Outcome :=
  match attempt.phase with
  | .starting =>
    some ({ attempt with handles := s.hardRebindHandles }.goTo s (.snapshotting, []))
  | .snapshotting =>
    let snapshot := s.session.snapshot
    if snapshot.renewalToken = [] then some (attempt.goTo s (.rebinding, []))
    else if isExpired s.now snapshot.renewalTokenExpiresAt.seconds then some (attempt.goTo s (.rebinding, []))
    else
      some (attempt.goTo s
        (.renewing snapshot, [.renew manager.realmSecret snapshot.actorId snapshot.renewalToken]))
  | .delayed error => some (attempt.goTo s (.ended (.error error), []))
  | .updating update =>
    some
      { { attempt with committed := some .soft }.goTo s (.propagating, []) with
        session := s.session.updateCredentials update }
  | .propagating => some (attempt.goTo s (.ended (.ok ()), []))
  | .unavailable =>
    some
      { attempt.goTo s (.ended (.error "realm unavailable during renewal"), []) with
        session := s.session.setRealmUnavailable }
  | .rebinding => some (attempt.goTo s (runHardRebind manager s.session.snapshot))
  | .entering new => some { attempt.goTo s (.committing new, []) with session := s.session.enterRebinding }
  | .committing new =>
    some
      { { attempt with committed := some .hard }.goTo s
          (if attempt.handles then .reconnecting else .activating, []) with
        session := s.session.commitHardRebind new }
  | .activating => some { attempt.goTo s (.ended (.ok ()), []) with session := s.session.setActive }
  | .ended result => some { attempt.goTo s (.finished result, []) with renewing := false }
  | _ => none

def act (manager : Manager) (s : State) (attempt : Attempt) : Event → Option Outcome
  | .advance => advance manager s attempt
  | .renewReplied reply =>
    match attempt.phase with
    | .renewing snapshot => some (attempt.goTo s (renewReplied manager snapshot reply, []))
    | _ => none
  | .resigned proof =>
    match attempt.phase with
    | .resigning old request => some (attempt.goTo s (resigned manager old request proof))
    | _ => none
  | .registerReplied reply =>
    match attempt.phase with
    | .registering old => some (attempt.goTo s (registerReplied old reply, []))
    | _ => none
  | .reconnected result =>
    match attempt.phase with
    | .reconnecting => some (attempt.goTo s (reconnected result, []))
    | _ => none

def State.after (s : State) (index : Nat) (outcome : Outcome) : State :=
  { s with
    session := outcome.session
    renewing := outcome.renewing
    requests := s.requests ++ outcome.sent
    attempts := s.attempts.set index outcome.attempt }

inductive Action where
  | triggerRenewal
  | heartbeat (result : Heartbeat)
  | installHardRebindHandles
  | tick (now : Int)
  | attempt (index : Nat) (event : Event)
  deriving DecidableEq, Repr

def step (manager : Manager) (s : State) : Action → Option State
  | .triggerRenewal => some (triggerRenewal s)
  | .heartbeat result => some (if result.renews then triggerRenewal s else s)
  | .installHardRebindHandles => some { s with hardRebindHandles := true }
  | .tick now => some { s with now }
  | .attempt index event =>
    (s.attempts[index]?).bind fun attempt => (act manager s attempt event).map (s.after index)

end Actr.Hyper.Lifecycle.CredentialManager
