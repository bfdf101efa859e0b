import Actr.Hyper.Transport.WirePool
import Actr.Protocol.Envelope

/-!
# Sending to a destination

`DestTransport::send_with_identity` over the wire pool, cut at its awaits. What a lane answers is up to the
environment.
-/

namespace Actr.Hyper.Transport
open Protocol

inductive DataChannelQoS where
  | signal
  | reliable
  | latencyFirst
  deriving DecidableEq, Repr

inductive DataLaneType where
  | webRtcDataChannel (qos : DataChannelQoS)
  | webSocket
  deriving DecidableEq, Repr

def dataLaneTypes : PayloadType → List DataLaneType
  | .rpcReliable | .streamReliable => [.webRtcDataChannel .reliable, .webSocket]
  | .rpcSignal => [.webRtcDataChannel .signal, .webSocket]
  | .streamLatencyFirst => [.webRtcDataChannel .latencyFirst, .webSocket]
  | .mediaRtp => []

def DataLaneType.needsWebrtc : DataLaneType → Bool
  | .webRtcDataChannel _ => true
  | .webSocket => false

def DataLaneType.connType (laneType : DataLaneType) : ConnType :=
  if laneType.needsWebrtc then .webRtc else .webSocket

def candidateConnTypes (laneTypes : List DataLaneType) : List ConnType :=
  laneTypes.foldl (fun connTypes laneType =>
    if connTypes.contains laneType.connType then connTypes else connTypes ++ [laneType.connType]) []

def NetworkError.isClosedLike : NetworkError → Bool
  | .connectionClosed _ | .peerConnectionClosed _ | .dataChannelClosed _ | .dataChannelNotOpen _
  | .webSocketClosed _ => true
  | _ => false

def debugPayloadType : PayloadType → String
  | .rpcReliable => "RpcReliable"
  | .rpcSignal => "RpcSignal"
  | .streamReliable => "StreamReliable"
  | .streamLatencyFirst => "StreamLatencyFirst"
  | .mediaRtp => "MediaRtp"

def debugConnType : ConnType → String
  | .webSocket => "WebSocket"
  | .webRtc => "WebRTC"

-- `trying` holds the lane types that are left in this round; `regettingLane` and `resending` are the one retry after
-- a lane that has gone stale, and `evicting` waits for a process of the pool.
inductive SendPhase where
  | borrowing
  | trying (laneTypes : List DataLaneType)
  | gettingLane (connType : ConnType) (wire : Wire) (rest : List DataLaneType)
  | sending (connType : ConnType) (wire : Wire)
  | regettingLane (connType : ConnType) (wire : Wire)
  | resending (wire : Wire)
  | evicting (process : Nat)
  | checkingClosed
  | probing
  | waiting
  | returned (result : NetworkResult (Option WireIdentity))
  deriving DecidableEq

structure Send where
  payloadType : PayloadType
  phase : SendPhase
  -- the version of the watch channel that was seen last, and its value
  seen : Nat
  ready : ReadySet
  -- the changes of the pool when this round began; nothing reads it
  since : Nat
  deriving DecidableEq

structure DestTransport where
  pool : WirePool
  sends : List Send

namespace DestTransport

def new (maxAttempts : Nat) : DestTransport := ⟨.new maxAttempts, []⟩

def set (s : DestTransport) (index : Nat) (send : Send) : DestTransport :=
  { s with sends := s.sends.set index send }

def closedManager : NetworkError := .channelClosed "connection manager closed"

def noRoute (payloadType : PayloadType) : NetworkError := .noRoute ("No route for: " ++ debugPayloadType payloadType)

def exhausted (payloadType : PayloadType) : NetworkError :=
  .noRoute ("all transport candidates exhausted for " ++ debugPayloadType payloadType ++ ": [" ++
    ", ".intercalate ((candidateConnTypes (dataLaneTypes payloadType)).map debugConnType) ++ "]")

def sendWithIdentity (payloadType : PayloadType) : Send where
  payloadType := payloadType
  phase := if (dataLaneTypes payloadType).isEmpty then .returned (.error (noRoute payloadType)) else .borrowing
  seen := 0
  ready := []
  since := 0

def borrow (pool : WirePool) (send : Send) : Send :=
  { send with
    seen := pool.version
    ready := pool.ready
    since := pool.changes
    phase := .trying (dataLaneTypes send.payloadType) }

def tryLane (pool : WirePool) (send : Send) (laneType : DataLaneType) (rest : List DataLaneType) : Option Send :=
  if laneType.connType ∉ send.ready then some { send with phase := .trying rest }
  else if pool.readable then
    match pool.getConnection laneType.connType with
    | some wire => some { send with phase := .gettingLane laneType.connType wire rest }
    | none => some { send with phase := .trying rest }
  else none

/-- The sections of a send that wait for nothing but a lock, the end of an eviction or a change of the ready set. -/
def advance (pool : WirePool) (send : Send) : Option Send :=
  match send.phase with
  | .borrowing => some (borrow pool send)
  | .trying [] => some { send with phase := .checkingClosed }
  | .trying (laneType :: rest) => tryLane pool send laneType rest
  | .evicting process =>
    match pool.processes[process]? with
    | some (.returned _ _) => some { send with phase := .borrowing }
    | _ => none
  | .checkingClosed =>
    some { send with phase := if pool.closed then .returned (.error closedManager) else .probing }
  | .probing =>
    if pool.readable then
      some { send with
        phase :=
          if pool.hasLiveCandidate (candidateConnTypes (dataLaneTypes send.payloadType)) then .waiting
          else .returned (.error (exhausted send.payloadType)) }
    else none
  | .waiting => if send.seen < pool.version then some { send with seen := pool.version, phase := .borrowing } else none
  | _ => none

/-- `evict_closed_like_connection` and the jump to the next round. A wire without an identity is left in its slot. -/
def evict (s : DestTransport) (index : Nat) (send : Send) (connType : ConnType) (wire : Wire) : DestTransport :=
  match wire.identity with
  | some identity =>
    { s.set index { send with phase := .evicting s.pool.processes.length } with
      pool := s.pool.start (.markingIfSame connType identity) }
  | none => s.set index { send with phase := .borrowing }

def stale (connType : ConnType) (error : NetworkError) : Bool := connType = .webRtc && error.isClosedLike

def gotLane (s : DestTransport) (index : Nat) (send : Send) (outcome : NetworkResult Unit) : Option DestTransport :=
  match send.phase, outcome with
  | .gettingLane connType wire _, .ok _ => some (s.set index { send with phase := .sending connType wire })
  | .gettingLane connType wire rest, .error error =>
    if stale connType error then some (s.evict index send connType wire)
    else some (s.set index { send with phase := .trying rest })
  | .regettingLane _ wire, .ok _ => some (s.set index { send with phase := .resending wire })
  | .regettingLane connType wire, .error error =>
    if stale connType error then some (s.evict index send connType wire)
    else some (s.set index { send with phase := .returned (.error error) })
  | _, _ => none

def sent (s : DestTransport) (index : Nat) (send : Send) (outcome : NetworkResult Unit) : Option DestTransport :=
  match send.phase, outcome with
  | .sending _ wire, .ok _ => some (s.set index { send with phase := .returned (.ok wire.identity) })
  | .sending connType wire, .error error =>
    some (s.set index { send with
      phase := if stale connType error then .regettingLane connType wire else .returned (.error error) })
  | .resending wire, outcome =>
    some (s.set index { send with phase := .returned (outcome.map fun _ => wire.identity) })
  | _, _ => none

inductive Action where
  | pool (action : WirePool.Action)
  | send (payloadType : PayloadType)
  | advance (index : Nat)
  | gotLane (index : Nat) (outcome : NetworkResult Unit)
  | sent (index : Nat) (outcome : NetworkResult Unit)

def step (s : DestTransport) : Action → Option DestTransport
  | .pool action => (s.pool.step action).map fun pool => { s with pool }
  | .send payloadType => some { s with sends := s.sends ++ [sendWithIdentity payloadType] }
  | .advance index => do
      let send ← s.sends[index]?
      let next ← advance s.pool send
      some (s.set index next)
  | .gotLane index outcome => do
      let send ← s.sends[index]?
      s.gotLane index send outcome
  | .sent index outcome => do
      let send ← s.sends[index]?
      s.sent index send outcome

end DestTransport

end Actr.Hyper.Transport
