import Actr.Hyper.Transport.Error
import Actr.Library.Machine

/-!
# Creating and closing the transport of a destination

`get_or_create_transport` and the closes, cut where they wait or release a lock.
-/

namespace Actr.Hyper.Transport

inductive DestState where
  | connecting (notify : Nat)
  | connected (transport : Nat)
  deriving DecidableEq, Repr

-- Where a call of `get_or_create_transport` is. `tokenless` to `updating` are the places of a creator, from
-- its insertion of the `Connecting` entry to its update of the map; `timed` marks the wait with a timeout,
-- and `calls` is the number of `notify_waiters` calls when the wait began.
inductive GetPhase where
  | entering
  | checking
  | subscribing (notify : Nat) (timed : Bool)
  | waiting (notify : Nat) (timed : Bool) (calls : Nat)
  | rechecking
  | claiming
  | tokenless
  | connecting
  | building
  | finishing (result : NetworkResult Unit)
  | updating (result : NetworkResult Unit)
  | notifying (result : NetworkResult Unit)
  | returned (result : NetworkResult Nat)
  | dropped

structure Get where
  phase : GetPhase
  -- the state of the call's token, and the number of `notify_waiters` calls on its `Notify`
  cancelled : Bool
  notifications : Nat

inductive Closer where
  | closeTransport
  | closeTransportIfCurrent
  | closeAll
  deriving DecidableEq, Repr

-- `marking` to `removing` belong to `close_transport`, `matching` to `removingCurrent` to
-- `close_transport_if_current`, `drainingTokens` to `markingDrained` to `close_all`.
inductive ClosePhase where
  | marking
  | inspecting
  | cancelling (state : DestState)
  | removing (state : DestState)
  | matching (transport : Nat)
  | markingCurrent (transport : Nat)
  | removingCurrent (transport : Nat)
  | drainingTokens
  | drainingTransports
  | markingDrained (state : DestState)
  | notifying (notify : Nat)
  | closing (transport : Nat) (closer : Closer)
  | unmarking (result : NetworkResult Bool)
  | returned (result : NetworkResult Bool)

structure PeerTransport where
  transport : Option DestState
  pendingToken : Option Nat
  isClosing : Bool
  gets : List Get
  closes : List ClosePhase

namespace PeerTransport

def initial : PeerTransport where
  transport := none
  pendingToken := none
  isClosing := false
  gets := []
  closes := []

def setPhase (s : PeerTransport) (call : Nat) (phase : GetPhase) : PeerTransport :=
  { s with gets := s.gets.modify call fun get => { get with phase := phase } }

def setClose (s : PeerTransport) (close : Nat) (phase : ClosePhase) : PeerTransport :=
  { s with closes := s.closes.set close phase }

def cancelToken (s : PeerTransport) : Option Nat → PeerTransport
  | some token => { s with gets := s.gets.modify token fun get => { get with cancelled := true } }
  | none => s

def notifyWaiters (s : PeerTransport) (notify : Nat) : PeerTransport :=
  { s with gets := s.gets.modify notify fun get => { get with notifications := get.notifications + 1 } }

def notifications (s : PeerTransport) (notify : Nat) : Nat :=
  match s.gets[notify]? with
  | some get => get.notifications
  | none => 0

def closedError (dest suffix : String) : NetworkError :=
  .connectionClosed ("Destination " ++ dest ++ suffix)

def cancelledError : NetworkError := .connectionClosed "Connection creation cancelled"

def check (s : PeerTransport) (call : Nat) : PeerTransport :=
  match s.transport with
  | some (.connected transport) => s.setPhase call (.returned (.ok transport))
  | some (.connecting notify) => s.setPhase call (.subscribing notify false)
  | none => s.setPhase call .claiming

-- The double check of the slow path holds the write lock of the map from its look to its insertion.
def claim (s : PeerTransport) (dest : String) (call : Nat) : PeerTransport :=
  match s.transport with
  | some (.connected transport) => s.setPhase call (.returned (.ok transport))
  | some (.connecting notify) => s.setPhase call (.subscribing notify true)
  | none =>
    if s.isClosing then s.setPhase call (.returned (.error (closedError dest " is being closed")))
    else { s.setPhase call .tokenless with transport := some (.connecting call) }

def update (s : PeerTransport) (call : Nat) (result : NetworkResult Unit) : PeerTransport :=
  { s.setPhase call (.notifying result) with
    transport :=
      match result with
      | .ok _ => some (.connected call)
      | .error _ => none }

def finished (call : Nat) (result : NetworkResult Unit) : NetworkResult Nat := result.map fun _ => call

def advance (s : PeerTransport) (dest : String) (call : Nat) : GetPhase → Option PeerTransport
  | .entering =>
    some (s.setPhase call
      (if s.isClosing then .returned (.error (closedError dest " is being closed.")) else .checking))
  | .checking => some (s.check call)
  | .subscribing notify timed => some (s.setPhase call (.waiting notify timed (s.notifications notify)))
  | .rechecking =>
    some (s.setPhase call
      (if s.isClosing then .returned (.error (closedError dest " was closed while waiting")) else .checking))
  | .claiming => some (s.claim dest call)
  | .tokenless => some { s.setPhase call .connecting with pendingToken := some call }
  | .finishing result => some { s.setPhase call (.updating result) with pendingToken := none }
  | .updating result => some (s.update call result)
  | .notifying result => some ((s.notifyWaiters call).setPhase call (.returned (finished call result)))
  | _ => none

def created (dest : String) (get : Get) (outcome : NetworkResult Nat) : GetPhase :=
  match outcome with
  | .error error => .finishing (.error error)
  | .ok connections =>
    if get.cancelled then .finishing (.error cancelledError)
    else if connections = 0 then
      .finishing (.error (.configurationError ("Connection factory returned no connections: " ++ dest)))
    else .building

def built (get : Get) (outcome : NetworkResult Unit) : GetPhase :=
  match outcome with
  | .error error => .finishing (.error error)
  | .ok _ => if get.cancelled then .finishing (.error cancelledError) else .finishing (.ok ())

inductive GetStep where
  | advance
  | wake
  | timeout
  | created (outcome : NetworkResult Nat)
  | built (outcome : NetworkResult Unit)
  | drop

def resume (s : PeerTransport) (dest : String) (call : Nat) (get : Get) : GetStep → Option PeerTransport
  | .advance => s.advance dest call get.phase
  | .wake =>
    match get.phase with
    | .waiting notify timed calls =>
      if calls < s.notifications notify then some (s.setPhase call (if timed then .checking else .rechecking))
      else none
    | _ => none
  | .timeout =>
    match get.phase with
    | .waiting _ true _ =>
      some (s.setPhase call (.returned (.error
        (.timeoutError ("Timeout waiting for notification: " ++ dest ++ " deadline has elapsed")))))
    | _ => none
  | .created outcome =>
    match get.phase with
    | .connecting => some (s.setPhase call (created dest get outcome))
    | _ => none
  | .built outcome =>
    match get.phase with
    | .building => some (s.setPhase call (built get outcome))
    | _ => none
  | .drop =>
    match get.phase with
    -- there is no await between reading the map and `notified()`, nor between the update and the notification
    | .subscribing _ _ | .notifying _ | .returned _ | .dropped => none
    | _ => some (s.setPhase call .dropped)

def closeRemoved (s : PeerTransport) (close : Nat) : PeerTransport :=
  match s.transport with
  | some (.connected transport) =>
    { s.setClose close (.closing transport .closeTransport) with transport := none }
  | _ => { s.setClose close (.unmarking (.ok true)) with transport := none }

def closeDrained : DestState → ClosePhase
  | .connecting notify => .notifying notify
  | .connected transport => .closing transport .closeAll

-- `close_transport` passes an error on at once, `close_transport_if_current` after it has cleared the mark,
-- and `close_all` only logs it.
def closed (outcome : NetworkResult Unit) (closer : Closer) : ClosePhase :=
  match outcome, closer with
  | .error error, .closeTransport => .returned (.error error)
  | .error error, .closeTransportIfCurrent => .unmarking (.error error)
  | .error _, .closeAll | .ok _, _ => .unmarking (.ok true)

/-- The sections of a close; `outcome` is what the close of the transport itself answers. -/
def closeStep (s : PeerTransport) (close : Nat) (outcome : NetworkResult Unit) : ClosePhase → Option PeerTransport
  | .marking => some { s.setClose close .inspecting with isClosing := true }
  | .inspecting =>
    match s.transport with
    | some state => some (s.setClose close (.cancelling state))
    | none => some (s.setClose close (.unmarking (.ok true)))
  | .cancelling state =>
    some { (s.cancelToken s.pendingToken).setClose close (.removing state) with pendingToken := none }
  | .removing (.connecting notify) =>
    match s.transport with
    | some (.connecting _) => some { s.setClose close (.notifying notify) with transport := none }
    | _ => some (s.setClose close (.notifying notify))
  | .removing (.connected _) => some (s.closeRemoved close)
  | .matching transport =>
    if s.transport = some (.connected transport) then some (s.setClose close (.markingCurrent transport))
    else some (s.setClose close (.returned (.ok false)))
  | .markingCurrent transport => some { s.setClose close (.removingCurrent transport) with isClosing := true }
  | .removingCurrent transport =>
    if s.transport = some (.connected transport) then
      some { s.setClose close (.closing transport .closeTransportIfCurrent) with transport := none }
    else some (s.setClose close (.unmarking (.ok false)))
  | .drainingTokens =>
    some { (s.cancelToken s.pendingToken).setClose close .drainingTransports with pendingToken := none }
  | .drainingTransports =>
    match s.transport with
    | some state => some { s.setClose close (.markingDrained state) with transport := none }
    | none => some (s.setClose close (.returned (.ok true)))
  | .markingDrained state => some { s.setClose close (closeDrained state) with isClosing := true }
  | .notifying notify => some ((s.notifyWaiters notify).setClose close (.unmarking (.ok true)))
  | .closing _ closer => some (s.setClose close (closed outcome closer))
  | .unmarking result => some { s.setClose close (.returned result) with isClosing := false }
  | .returned _ => none

-- `monitor` is the ready monitor of a transport that has lost its connections.
inductive Action where
  | get
  | closeTransport
  | closeIfCurrent (transport : Nat)
  | closeAll
  | resume (call : Nat) (move : GetStep)
  | close (close : Nat) (outcome : NetworkResult Unit)
  | monitor (transport : Nat)

def step (dest : String) (s : PeerTransport) : Action → Option PeerTransport
  | .get => some { s with gets := s.gets ++ [⟨.entering, false, 0⟩] }
  | .closeTransport => some { s with closes := s.closes ++ [.marking] }
  | .closeIfCurrent transport => some { s with closes := s.closes ++ [.matching transport] }
  | .closeAll => some { s with closes := s.closes ++ [.drainingTokens] }
  | .resume call move =>
    match s.gets[call]? with
    | some get => s.resume dest call get move
    | none => none
  | .close close outcome =>
    match s.closes[close]? with
    | some phase => s.closeStep close outcome phase
    | none => none
  | .monitor transport =>
    if s.transport = some (.connected transport) then some { s with transport := none } else none

end PeerTransport

end Actr.Hyper.Transport
