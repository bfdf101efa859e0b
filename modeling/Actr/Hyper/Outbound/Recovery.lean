import Actr.Library.Machine
import Actr.Protocol.Envelope

/-!
# Recovery guards

The listener of connection events and the preflight of a send, cut where they wait for a lock or for the coordinator.
-/

namespace Actr.Hyper.Outbound
open Protocol

inductive ConnectionState where
  | new | connecting | connected | disconnected | failed | closed
  deriving DecidableEq, Repr

inductive ConnectionEvent where
  | stateChanged (sessionId : Nat) (state : ConnectionState)
  | dataChannelClosed (sessionId : Nat)
  | dataChannelOpened (sessionId : Nat)
  | connectionClosed (sessionId : Nat)
  | iceRestartStarted (sessionId : Nat)
  | iceRestartCompleted (sessionId : Nat) (success : Bool)
  | newOfferReceived
  | newRoleAssignment
  deriving DecidableEq, Repr

structure NetworkRecoveryStatus where
  sessionId : Nat
  startedAt : Nat
  reason : String
  deriving DecidableEq, Repr

def networkRecoveryTimeout : Nat := 6000

def connectionNotReadyRetryGrace : Nat := 300

def recoveryReasonPeerDisconnected : String := "peer state Disconnected"

def recoveryReasonPeerFailed : String := "peer state Failed"

def recoveryReasonIceNetworkStarted : String := "ice/network recovery started"

def NetworkRecoveryStatus.elapsedMs (status : NetworkRecoveryStatus) (now : Nat) : Nat := now - status.startedAt

def NetworkRecoveryStatus.isTimedOut (status : NetworkRecoveryStatus) (now : Nat) : Bool :=
  networkRecoveryTimeout ≤ status.elapsedMs now

def connectionNotReadyInfo (elapsedMs timeoutMs : Nat) : Option Nat :=
  if elapsedMs ≤ timeoutMs then some (timeoutMs - elapsedMs) else none

-- `recovery_timeout_error` has the same body.
def connectionNotReadyError (status : NetworkRecoveryStatus) (now : Nat) : ActrError :=
  .connectionNotReady
    (connectionNotReadyInfo (status.elapsedMs now) (networkRecoveryTimeout + connectionNotReadyRetryGrace))

-- `checkingActive` and `remembering` block the peer, `deciding` to `unblocking` let it go, `updating` and `failing`
-- are the failed restart, and from `closing` on the connection is closed.
inductive Listener where
  | idle
  | checkingActive (sessionId : Nat) (reason : String)
  | remembering (sessionId : Nat) (reason : String) (blocks : Bool)
  | blocking
  | deciding (sessionId : Nat)
  | asking (sessionId : Nat) (shouldClear : Bool)
  | clearing (sessionId : Nat)
  | unblocking
  | updating (sessionId : Nat)
  | failing (sessionId : Nat)
  | closing (sessionId : Nat)
  | expiring (sessionId : Nat)
  | connecting (sessionId : Nat)
  | marking (sessionId : Nat)
  | closingTransport (sessionId : Nat)
  deriving DecidableEq, Repr

inductive Cause where
  | replaced
  | sendable
  | timedOut
  deriving DecidableEq, Repr

inductive SendPhase where
  | preflight
  | reading
  | comparing (status : NetworkRecoveryStatus)
  | asking (status : NetworkRecoveryStatus)
  | clearing (status : NetworkRecoveryStatus) (cause : Cause)
  | unblocking (status : NetworkRecoveryStatus) (cause : Cause)
  | expiring (status : NetworkRecoveryStatus)
  | checkingPeer
  | checkingTransport
  | returned (result : ActorResult Unit)
  deriving DecidableEq

structure RecoveryGate where
  now : Nat
  -- the coordinator: the session of the peer, whether it can send, and its own recovery status
  session : Option Nat
  sendable : Bool
  networkRecovering : Option NetworkRecoveryStatus
  recovering : Option NetworkRecoveryStatus
  isClosing : Bool
  listener : Listener
  sends : List SendPhase

namespace RecoveryGate

def initial : RecoveryGate where
  now := 0
  session := none
  sendable := false
  networkRecovering := none
  recovering := none
  isClosing := false
  listener := .idle
  sends := []

def isActiveSession (s : RecoveryGate) (sessionId : Nat) : Bool := s.session = some sessionId

def isPeerSendableSession (s : RecoveryGate) (sessionId : Nat) : Bool := s.isActiveSession sessionId && s.sendable

def expirePeerRecovery (s : RecoveryGate) (sessionId : Nat) : Option NetworkRecoveryStatus :=
  if s.networkRecovering.any (·.sessionId = sessionId) then none else s.networkRecovering

def peerRecoveryStatus (s : RecoveryGate) : Option NetworkRecoveryStatus :=
  s.networkRecovering.filter fun status => s.isActiveSession status.sessionId

def rememberRecoveringPeer (recovering : Option NetworkRecoveryStatus) (now sessionId : Nat) (reason : String) :
    NetworkRecoveryStatus :=
  match recovering with
  | some status =>
    if status.sessionId = sessionId then
      if status.reason = recoveryReasonPeerFailed ∧ reason = recoveryReasonIceNetworkStarted then
        { status with reason := reason }
      else status
    else ⟨sessionId, now, reason⟩
  | none => ⟨sessionId, now, reason⟩

def dispatch : ConnectionEvent → Listener
  | .stateChanged sessionId .disconnected => .checkingActive sessionId recoveryReasonPeerDisconnected
  | .stateChanged sessionId .failed => .checkingActive sessionId recoveryReasonPeerFailed
  | .iceRestartStarted sessionId => .remembering sessionId recoveryReasonIceNetworkStarted false
  | .stateChanged sessionId .connected | .dataChannelOpened sessionId | .iceRestartCompleted sessionId true =>
    .deciding sessionId
  | .iceRestartCompleted sessionId false => .updating sessionId
  | .stateChanged sessionId .closed | .connectionClosed sessionId => .closing sessionId
  | .stateChanged _ .new | .stateChanged _ .connecting | .dataChannelClosed _ | .newOfferReceived
  | .newRoleAssignment => .idle

def concerns (s : RecoveryGate) (sessionId : Nat) : Bool := s.recovering.all (·.sessionId = sessionId)

def listening (s : RecoveryGate) (listener : Listener) : RecoveryGate := { s with listener := listener }

/-- The sections of the listener; `answer` is whether the transport of the destination is connecting. -/
def listen (s : RecoveryGate) (answer : Bool) : Listener → Option RecoveryGate
  | .idle => none
  | .checkingActive sessionId reason =>
    some (s.listening (if s.isActiveSession sessionId then .remembering sessionId reason true else .idle))
  | .remembering sessionId reason blocks =>
    some { s.listening (if blocks then .blocking else .idle) with
      recovering := some (rememberRecoveringPeer s.recovering s.now sessionId reason) }
  | .blocking => some { s.listening .idle with isClosing := true }
  | .deciding sessionId => some (s.listening (.asking sessionId (s.concerns sessionId)))
  | .asking sessionId shouldClear =>
    some (s.listening (if shouldClear && s.isPeerSendableSession sessionId then .clearing sessionId else .idle))
  | .clearing _ => some { s.listening .unblocking with recovering := none }
  | .unblocking => some { s.listening .idle with isClosing := false }
  | .updating sessionId => some (s.listening (if s.concerns sessionId then .failing sessionId else .idle))
  | .failing sessionId =>
    some { s.listening .idle with
      recovering := some (rememberRecoveringPeer s.recovering s.now sessionId "ice restart failed")
      isClosing := true }
  | .closing sessionId =>
    some { s.listening (.expiring sessionId) with
      recovering := if s.recovering.any (·.sessionId = sessionId) then none else s.recovering }
  | .expiring sessionId =>
    some { s.listening (.connecting sessionId) with networkRecovering := s.expirePeerRecovery sessionId }
  | .connecting sessionId => some (s.listening (if answer then .idle else .marking sessionId))
  | .marking sessionId => some { s.listening (.closingTransport sessionId) with isClosing := true }
  -- a stale close and the sweep of the pending requests both end with the peer taken from the closing ones
  | .closingTransport _ => some (s.listening .unblocking)

def judge (s : RecoveryGate) (status : NetworkRecoveryStatus) : SendPhase :=
  if status.isTimedOut s.now then .clearing status .timedOut
  else .returned (.error (connectionNotReadyError status s.now))

def compare (s : RecoveryGate) (status : NetworkRecoveryStatus) : SendPhase :=
  match s.session with
  | some current =>
    if current ≠ status.sessionId then .clearing status .replaced
    else if status.reason ≠ recoveryReasonPeerFailed then .asking status
    else s.judge status
  | none => s.judge status

def setSend (s : RecoveryGate) (index : Nat) (phase : SendPhase) : RecoveryGate :=
  { s with sends := s.sends.set index phase }

def afterClear (status : NetworkRecoveryStatus) : Cause → SendPhase
  | .timedOut => .expiring status
  | .replaced | .sendable => .checkingPeer

def notReady : ActorResult Unit := .error (.connectionNotReady none)

/-- The sections of `preflight_send`; `answer` is whether the transport of the destination is closing. -/
def advance (s : RecoveryGate) (index : Nat) (answer : Bool) : SendPhase → Option RecoveryGate
  | .preflight =>
    some { s.setSend index
        (match s.peerRecoveryStatus with
        | some status => s.judge status
        | none => .reading) with
      networkRecovering := s.peerRecoveryStatus }
  | .reading =>
    some (s.setSend index
      (match s.recovering with
      | some status => .comparing status
      | none => .checkingPeer))
  | .comparing status => some (s.setSend index (s.compare status))
  | .asking status =>
    some (s.setSend index
      (if s.isPeerSendableSession status.sessionId then .clearing status .sendable else s.judge status))
  | .clearing status cause =>
    some { s.setSend index (.unblocking status cause) with
      recovering := if s.recovering.any (·.sessionId = status.sessionId) then none else s.recovering }
  | .unblocking status cause => some { s.setSend index (afterClear status cause) with isClosing := false }
  | .expiring status =>
    some { s.setSend index (.returned (.error (connectionNotReadyError status s.now))) with
      networkRecovering := s.expirePeerRecovery status.sessionId }
  | .checkingPeer =>
    some (s.setSend index (if s.isClosing then .returned notReady else .checkingTransport))
  | .checkingTransport => some (s.setSend index (.returned (if answer then notReady else .ok ())))
  | .returned _ => none

inductive Action where
  | event (event : ConnectionEvent)
  | listen (answer : Bool)
  | preflightSend
  | send (index : Nat) (answer : Bool)
  | coordinate (session : Option Nat) (sendable : Bool) (networkRecovering : Option NetworkRecoveryStatus)
  | wait (ms : Nat)

def step (s : RecoveryGate) : Action → Option RecoveryGate
  | .event event => if s.listener = .idle then some (s.listening (dispatch event)) else none
  | .listen answer => s.listen answer s.listener
  | .preflightSend => some { s with sends := s.sends ++ [.preflight] }
  | .send index answer => s.sends[index]?.bind (s.advance index answer)
  | .coordinate session sendable networkRecovering => some { s with session, sendable, networkRecovering }
  | .wait ms => some { s with now := s.now + ms }

end RecoveryGate

end Actr.Hyper.Outbound
