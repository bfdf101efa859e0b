import Actr.Protocol.ActrId
import Actr.Protocol.Envelope
import Mathlib.Algebra.Ring.Nat
import Mathlib.Data.List.AList

/-!
# Inbound envelopes

Both gates route on the direction the sender set.
-/

namespace Actr.Hyper.Wire
open Protocol

inductive DirectionError where
  | missing | unspecified | unknown
  deriving DecidableEq, Repr

def directionForRouting (rawDirection : Option Int) : Except DirectionError Direction :=
  match rawDirection with
  | some raw =>
    match Direction.tryFrom raw with
    | some .unspecified => .error .unspecified
    | some direction => .ok direction
    | none => .error .unknown
  | none => .error .missing

def textAfter (marker : List Char) : List Char → Option (List Char)
  | [] => if marker.isEmpty then some [] else none
  | c :: rest => if marker.isPrefixOf (c :: rest) then some ((c :: rest).drop marker.length) else textAfter marker rest

/-- `str::parse::<u64>`, which also takes a plus sign. -/
def parseU64 (text : List Char) : Option Nat :=
  let digits := if text.head? = some '+' then text.tail else text
  if digits.isEmpty || digits.any (fun c => !c.isDigit) then none
  else
    let value := digits.foldl (fun value c => 10 * value + (c.toNat - '0'.toNat)) 0
    if value < 2 ^ 64 then some value else none

def parseConnectionNotReadyRetryHint (message : String) : Option Nat :=
  (textAfter "retry_after_ms=Some(".toList message.toList).bind fun rest =>
    if rest.contains ')' then parseU64 (rest.takeWhile (· ≠ ')')) else none

def wireCodeToActrError (code : Nat) (message : String) : ActrError :=
  match code with
  | 10001 => .unavailable message
  | 10002 => .timedOut
  | 10003 => .notFound message
  | 10004 => .permissionDenied message
  | 10005 => .invalidArgument message
  | 10006 => .unknownRoute message
  | 10007 => .dependencyNotFound "" message
  | 10008 => .decodeFailure message
  | 10009 => .notImplemented message
  | 10010 => .internal message
  | 10011 => .connectionNotReady (parseConnectionNotReadyRetryHint message)
  | _ => .unavailable ("rpc error " ++ toString code ++ ": " ++ message)

def responseResult (inconsistent : String) (envelope : RpcEnvelope) : ActorResult Bytes :=
  match envelope.payload, envelope.error with
  | some payload, none => .ok payload
  | none, some error => .error (wireCodeToActrError error.code error.message)
  | _, _ => .error (.decodeFailure inconsistent)

structure PendingRequest where
  target : ActrId
  responseTx : Nat
  deriving DecidableEq, Repr

abbrev PendingRequestsMap := AList (fun _ : String => PendingRequest)

inductive MessagePriority where
  | normal | high
  deriving DecidableEq, Repr

inductive Routed where
  | invalid (error : DirectionError)
  | enqueue (priority : MessagePriority)
  | wake (responseTx : Nat) (result : ActorResult Bytes)
  | orphan
  | notResponse
  deriving DecidableEq

def matchResponse (inconsistent : String) (envelope : RpcEnvelope) (pending : PendingRequestsMap) :
    PendingRequestsMap × Routed :=
  match pending.lookup envelope.requestId with
  | some request =>
    (pending.erase envelope.requestId, .wake request.responseTx (responseResult inconsistent envelope))
  | none => (pending, .orphan)

def gateInconsistent : String := "Invalid RpcEnvelope: payload and error fields inconsistent"

def routeEnvelope (priority : PayloadType → MessagePriority) (envelope : RpcEnvelope) (payloadType : PayloadType)
    (pending : PendingRequestsMap) : PendingRequestsMap × Routed :=
  match directionForRouting envelope.direction with
  | .error error => (pending, .invalid error)
  | .ok .response => matchResponse gateInconsistent envelope pending
  | .ok _ => (pending, .enqueue (priority payloadType))

def WebRtcGate.priority : PayloadType → MessagePriority
  | .rpcSignal => .high
  | .rpcReliable => .normal
  | _ => .normal

def WebRtcGate.handleEnvelope := routeEnvelope WebRtcGate.priority

def WebSocketGate.priority : PayloadType → MessagePriority
  | .rpcSignal => .high
  | _ => .normal

def WebSocketGate.handleEnvelope := routeEnvelope WebSocketGate.priority

namespace ClientWebSocketHandle

def inconsistent : String := "invalid RpcEnvelope: payload/error inconsistent"

def isResponseEnvelope (envelope : RpcEnvelope) : Bool :=
  match envelope.direction with
  | some raw =>
    match Direction.tryFrom raw with
    | some .response => true
    | some .request | some .tell => false
    | some .unspecified => false
    | none => false
  | none => false

def readResponse (envelope : RpcEnvelope) (pending : PendingRequestsMap) : PendingRequestsMap × Routed :=
  if isResponseEnvelope envelope then matchResponse inconsistent envelope pending else (pending, .notResponse)

end ClientWebSocketHandle

end Actr.Hyper.Wire
