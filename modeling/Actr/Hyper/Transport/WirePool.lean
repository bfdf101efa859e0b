import Actr.Hyper.Transport.Error
import Actr.Library.Machine
import Actr.Protocol.ActrId

/-!
# The wire pool of a destination

The connection tasks of a `WirePool` and the calls that mark a wire closed or close the pool, cut where they wait,
take a lock or read the closed flag.
-/

namespace Actr.Hyper.Transport
open Protocol

inductive ConnType where
  | webSocket
  | webRtc
  deriving DecidableEq, Repr

def ConnType.all : List ConnType := [.webSocket, .webRtc]

inductive WireIdentity where
  | webRtc (peerId : ActrId) (sessionId : UInt64)
  deriving DecidableEq, Repr

structure Wire where
  connType : ConnType
  identity : Option WireIdentity
  deriving DecidableEq, Repr

inductive WireStatus where
  | connecting
  | ready (wire : Wire)
  | failed
  deriving DecidableEq, Repr

def isReady : Option WireStatus → Bool
  | some (.ready _) => true
  | _ => false

abbrev ReadySet := List ConnType

inductive Caller where
  | connection (connType : ConnType)
  | mark
  deriving DecidableEq, Repr

-- `checking` to `writing` are the places of a connection task, `marking` and `markingIfSame` those of
-- `mark_connection_closed` and `mark_connection_closed_if_same`, `storing` to `closedAll` those of `close_all`.
-- The read lock is held in `publishing` and the write lock in `sending`.
inductive Process where
  | checking (wire : Wire) (attempt : Nat)
  | sleeping (wire : Wire) (attempt : Nat)
  | connecting (wire : Wire) (attempt : Nat)
  | writing (wire : Wire) (connected : Bool)
  | marking (connType : ConnType)
  | markingIfSame (connType : ConnType) (expected : WireIdentity)
  | storing
  | clearing
  | sending
  | closedAll
  | broadcasting (caller : Caller)
  | publishing (caller : Caller) (ready : ReadySet)
  | returned (caller : Caller) (changed : Bool)
  deriving DecidableEq, Repr

structure WirePool where
  maxAttempts : Nat
  connections : ConnType → Option WireStatus
  -- the value of the watch channel and the number of its sends
  ready : ReadySet
  version : Nat
  closed : Bool
  processes : List Process
  -- how often a slot has changed; nothing reads it
  changes : Nat

namespace WirePool

def new (maxAttempts : Nat) : WirePool where
  maxAttempts := maxAttempts
  connections := fun _ => none
  ready := []
  version := 0
  closed := false
  processes := []
  changes := 0

def set (s : WirePool) (index : Nat) (process : Process) : WirePool :=
  { s with processes := s.processes.set index process }

def write (s : WirePool) (connType : ConnType) (status : WireStatus) : WirePool :=
  { s with
    connections := Function.update s.connections connType (some status)
    changes := if s.connections connType = some status then s.changes else s.changes + 1 }

def clear (s : WirePool) : WirePool :=
  { s with
    connections := fun _ => none
    changes := if ConnType.all.all fun connType => s.connections connType = none then s.changes else s.changes + 1 }

def publish (s : WirePool) (ready : ReadySet) : WirePool :=
  { s with ready := ready, version := s.version + 1 }

def readyConnections (s : WirePool) : ReadySet := ConnType.all.filter fun connType => isReady (s.connections connType)

def getConnection (s : WirePool) (connType : ConnType) : Option Wire :=
  match s.connections connType with
  | some (.ready wire) => some wire
  | _ => none

def hasLiveCandidate (s : WirePool) (connTypes : List ConnType) : Bool :=
  connTypes.any fun connType =>
    match s.connections connType with
    | some (.ready _) | some .connecting => true
    | _ => false

def connectionMatchesIdentity (s : WirePool) (connType : ConnType) (expected : WireIdentity) : Bool :=
  match s.connections connType with
  | some (.ready wire) => wire.identity = some expected
  | _ => false

def isReading : Process → Bool
  | .publishing _ _ => true
  | _ => false

def readable (s : WirePool) : Bool := s.processes.all fun process => process ≠ .sending

def writable (s : WirePool) : Bool := s.readable && s.processes.all fun process => !isReading process

-- The head of the retry loop; the backoff yields `max_attempts` delays.
def attempt (s : WirePool) (wire : Wire) (attempt : Nat) : Process :=
  if s.maxAttempts ≤ attempt then .writing wire false
  else if s.closed then .returned (.connection wire.connType) false
  else if attempt = 0 then .connecting wire 0
  else .sleeping wire attempt

def wake (s : WirePool) (wire : Wire) (attempt : Nat) : Process :=
  if s.closed then .returned (.connection wire.connType) false else .connecting wire attempt

def markIfSame (s : WirePool) (index : Nat) (connType : ConnType) (expected : WireIdentity) : WirePool :=
  if s.connectionMatchesIdentity connType expected then (s.write connType .failed).set index (.broadcasting .mark)
  else s.set index (.returned .mark false)

def advance (s : WirePool) (index : Nat) : Process → Option WirePool
  | .checking wire attempt => some (s.set index (s.attempt wire attempt))
  | .sleeping wire attempt => some (s.set index (s.wake wire attempt))
  | .writing wire connected =>
    if s.writable then
      some ((s.write wire.connType (if connected then .ready wire else .failed)).set index
        (.broadcasting (.connection wire.connType)))
    else none
  | .marking connType =>
    if s.writable then some ((s.write connType .failed).set index (.broadcasting .mark)) else none
  | .markingIfSame connType expected => if s.writable then some (s.markIfSame index connType expected) else none
  | .storing => some { s.set index .clearing with closed := true }
  | .clearing => if s.writable then some (s.clear.set index .sending) else none
  | .sending => some ((s.publish []).set index .closedAll)
  | .broadcasting caller =>
    if s.readable then some (s.set index (.publishing caller s.readyConnections)) else none
  | .publishing caller ready => some ((s.publish ready).set index (.returned caller true))
  | .connecting _ _ | .closedAll | .returned _ _ => none

def connected (wire : Wire) (attempt : Nat) : NetworkResult Unit → Process
  | .ok _ => .writing wire true
  | .error _ => .checking wire (attempt + 1)

inductive Action where
  | addConnection (wire : Wire)
  | markConnectionClosed (connType : ConnType)
  | markConnectionClosedIfSame (connType : ConnType) (expected : WireIdentity)
  | closeAll
  | advance (index : Nat)
  | connected (index : Nat) (outcome : NetworkResult Unit)

def start (s : WirePool) (process : Process) : WirePool := { s with processes := s.processes ++ [process] }

def step (s : WirePool) : Action → Option WirePool
  | .addConnection wire =>
    if s.writable then some ((s.write wire.connType .connecting).start (.checking wire 0)) else none
  | .markConnectionClosed connType => some (s.start (.marking connType))
  | .markConnectionClosedIfSame connType expected => some (s.start (.markingIfSame connType expected))
  | .closeAll => some (s.start .storing)
  | .advance index => s.processes[index]?.bind (s.advance index)
  | .connected index outcome =>
    match s.processes[index]? with
    | some (.connecting wire attempt) => some (s.set index (connected wire attempt outcome))
    | _ => none

end WirePool

end Actr.Hyper.Transport
