import Actr.Hyper.Wire.Gate
import Actr.Library.Machine

/-!
# Outbound requests and the responses to them

`send_request_with_type` between its awaits, for any number of calls, together with what else writes the table of
pending requests: the readers of inbound envelopes and the sweep after a connection closed.
-/

namespace Actr.Hyper.Outbound
open Protocol Hyper.Wire

inductive Oneshot where
  | empty
  | sent (result : ActorResult Bytes)
  | closed
  deriving DecidableEq

def Oneshot.send (result : ActorResult Bytes) : Oneshot → Oneshot
  | .empty => .sent result
  | other => other

def Oneshot.dropSender : Oneshot → Oneshot
  | .empty => .closed
  | other => other

/-- Where a call is suspended. `cleaning` has its result and waits for the table's lock, `dropped` is a
future that was dropped at one of the other places. -/
inductive CallPhase where
  | preflight
  | registering
  | sending
  | awaiting
  | cleaning (result : ActorResult Bytes)
  | returned (result : ActorResult Bytes)
  | dropped
  deriving DecidableEq

structure Call where
  target : ActrId
  payloadType : PayloadType
  envelope : RpcEnvelope
  phase : CallPhase
  response : Oneshot
  deriving DecidableEq

inductive Reader where
  | webRtcGate | webSocketGate | clientWebSocketHandle
  deriving DecidableEq, Repr

/-- A message that arrived; `peer` is who sent it and `fromBytes` what the transport reports. -/
structure Inbound where
  reader : Reader
  peer : ActrId
  fromBytes : Bytes
  data : Bytes
  payloadType : PayloadType
  envelope : RpcEnvelope
  deriving DecidableEq

structure Queued where
  fromBytes : Bytes
  data : Bytes
  priority : MessagePriority
  deriving DecidableEq

/-- The ghost `handled` lists the messages that were read, and `swept` the peers whose requests were
failed because their connection closed. -/
structure PeerGate where
  pendingRequests : PendingRequestsMap
  calls : List Call
  mailbox : List Queued
  handled : List Inbound
  swept : List ActrId

def stampEnvelopeDirection (envelope : RpcEnvelope) (direction : Direction) : RpcEnvelope :=
  { envelope with direction := some direction.toInt }

def validateRpcTimeoutMs (timeoutMs : Int) : ActorResult Int :=
  if timeoutMs ≤ 0 then
    .error (.invalidArgument ("RPC call timeout_ms must be > 0, got " ++ toString timeoutMs ++
      " (fire-and-forget messaging must use tell, not a zero timeout)"))
  else .ok timeoutMs

def responseChannelClosed : ActrError := .unavailable "Response channel closed"

def connectionClosed : ActrError := .unavailable "Connection closed"

namespace PeerGate

def initial : PeerGate where
  pendingRequests := ∅
  calls := []
  mailbox := []
  handled := []
  swept := []

def modifyCall (gate : PeerGate) (call : Nat) (change : Call → Call) : PeerGate :=
  { gate with calls := gate.calls.modify call change }

def setPhase (gate : PeerGate) (call : Nat) (phase : CallPhase) : PeerGate :=
  gate.modifyCall call fun call => { call with phase := phase }

def sendResponse (gate : PeerGate) (responseTx : Nat) (result : ActorResult Bytes) : PeerGate :=
  gate.modifyCall responseTx fun call => { call with response := call.response.send result }

def dropResponseTx (gate : PeerGate) : Option PendingRequest → PeerGate
  | some request =>
    gate.modifyCall request.responseTx fun call => { call with response := call.response.dropSender }
  | none => gate

def insertPending (gate : PeerGate) (requestId : String) (request : PendingRequest) : PeerGate :=
  { gate.dropResponseTx (gate.pendingRequests.lookup requestId) with
    pendingRequests := gate.pendingRequests.insert requestId request }

def removePending (gate : PeerGate) (requestId : String) : PeerGate :=
  { gate.dropResponseTx (gate.pendingRequests.lookup requestId) with
    pendingRequests := gate.pendingRequests.erase requestId }

def failPending (gate : PeerGate) (requestId : String) : PeerGate :=
  match gate.pendingRequests.lookup requestId with
  | some request =>
    { gate.sendResponse request.responseTx (.error connectionClosed) with
      pendingRequests := gate.pendingRequests.erase requestId }
  | none => gate

def keysToRemove (gate : PeerGate) (peer : ActrId) : List String :=
  gate.pendingRequests.entries.filterMap fun entry => if entry.2.target = peer then some entry.1 else none

def sweep (gate : PeerGate) (peer : ActrId) : PeerGate :=
  (gate.keysToRemove peer).foldl failPending { gate with swept := peer :: gate.swept }

def handleEnvelope (inbound : Inbound) : PendingRequestsMap → PendingRequestsMap × Routed :=
  match inbound.reader with
  | .webRtcGate => WebRtcGate.handleEnvelope inbound.envelope inbound.payloadType
  | .webSocketGate => WebSocketGate.handleEnvelope inbound.envelope inbound.payloadType
  | .clientWebSocketHandle => ClientWebSocketHandle.readResponse inbound.envelope

def receive (gate : PeerGate) (inbound : Inbound) (stored : Bool) : PeerGate :=
  let (pending, routed) := handleEnvelope inbound gate.pendingRequests
  let gate := { gate with pendingRequests := pending, handled := inbound :: gate.handled }
  match routed with
  | .invalid _ | .orphan | .notResponse => gate
  | .wake responseTx result => gate.sendResponse responseTx result
  | .enqueue priority =>
    if stored then { gate with mailbox := gate.mailbox ++ [⟨inbound.fromBytes, inbound.data, priority⟩] } else gate

inductive Action where
  | request (target : ActrId) (payloadType : PayloadType) (envelope : RpcEnvelope)
  | preflighted (call : Nat) (outcome : ActorResult Unit)
  | register (call : Nat)
  | sent (call : Nat) (outcome : ActorResult Unit)
  | receive (call : Nat)
  | deadline (call : Nat)
  | cleanup (call : Nat)
  | drop (call : Nat)
  | inbound (inbound : Inbound) (stored : Bool)
  | closed (peer : ActrId)

def request (gate : PeerGate) (target : ActrId) (payloadType : PayloadType) (envelope : RpcEnvelope) : PeerGate :=
  let envelope := stampEnvelopeDirection envelope .request
  let phase :=
    match validateRpcTimeoutMs envelope.timeoutMs with
    | .error error => .returned (.error error)
    | .ok _ => .preflight
  { gate with calls := gate.calls ++ [⟨target, payloadType, envelope, phase, .empty⟩] }

def afterResult (result : ActorResult Bytes) : CallPhase :=
  match result with
  | .ok _ => .returned result
  | .error _ => .cleaning result

def resume (gate : PeerGate) (index : Nat) (call : Call) : Action → Option PeerGate
  | .preflighted _ outcome =>
    if call.phase = .preflight then
      some (gate.setPhase index (match outcome with | .ok _ => .registering | .error error => .returned (.error error)))
    else none
  | .register _ =>
    if call.phase = .registering then
      some ((gate.insertPending call.envelope.requestId ⟨call.target, index⟩).setPhase index .sending)
    else none
  | .sent _ outcome =>
    if call.phase = .sending then
      some (gate.setPhase index (match outcome with | .ok _ => .awaiting | .error error => .cleaning (.error error)))
    else none
  | .receive _ =>
    if call.phase = .awaiting then
      match call.response with
      | .empty => none
      | .sent result => some (gate.setPhase index (afterResult result))
      | .closed => some (gate.setPhase index (.cleaning (.error responseChannelClosed)))
    else none
  | .deadline _ =>
    if call.phase = .sending ∨ call.phase = .awaiting then some (gate.setPhase index (.cleaning (.error .timedOut)))
    else none
  | .cleanup _ =>
    match call.phase with
    | .cleaning result => some ((gate.removePending call.envelope.requestId).setPhase index (.returned result))
    | _ => none
  | .drop _ =>
    match call.phase with
    | .returned _ | .dropped => none
    | _ => some (gate.setPhase index .dropped)
  | _ => none

def step (gate : PeerGate) (action : Action) : Option PeerGate :=
  match action with
  | .request target payloadType envelope => some (gate.request target payloadType envelope)
  | .inbound inbound stored => some (gate.receive inbound stored)
  | .closed peer => some (gate.sweep peer)
  | .preflighted index _ | .register index | .sent index _ | .receive index | .deadline index | .cleanup index
  | .drop index =>
    match gate.calls[index]? with
    | some call => gate.resume index call action
    | none => none

end PeerGate

end Actr.Hyper.Outbound
