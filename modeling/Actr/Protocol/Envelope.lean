import Mathlib.Data.List.Basic

/-!
# Envelopes, their direction, and framework errors

`direction` carries the raw number of the wire, which need not be a known direction. Trace context and metadata are
read by no modelled function.
-/

namespace Actr.Protocol

abbrev Bytes := List UInt8

inductive ActrError where
  | unavailable (message : String)
  | connectionNotReady (retryAfterMs : Option Nat)
  | timedOut
  | notFound (message : String)
  | permissionDenied (message : String)
  | invalidArgument (message : String)
  | unknownRoute (message : String)
  | dependencyNotFound (serviceName message : String)
  | decodeFailure (message : String)
  | notImplemented (message : String)
  | internal (message : String)
  deriving DecidableEq, Repr

abbrev ActorResult (α : Type) := Except ActrError α

inductive Direction where
  | unspecified | request | response | tell
  deriving DecidableEq, Repr

def Direction.toInt : Direction → Int
  | .unspecified => 0
  | .request => 1
  | .response => 2
  | .tell => 3

def Direction.tryFrom : Int → Option Direction
  | 0 => some .unspecified
  | 1 => some .request
  | 2 => some .response
  | 3 => some .tell
  | _ => none

inductive PayloadType where
  | rpcReliable | rpcSignal | streamReliable | streamLatencyFirst | mediaRtp
  deriving DecidableEq, Repr

structure ErrorResponse where
  code : Nat
  message : String
  deriving DecidableEq, Repr

structure RpcEnvelope where
  routeKey : String
  payload : Option Bytes
  error : Option ErrorResponse
  direction : Option Int
  requestId : String
  timeoutMs : Int
  deriving DecidableEq, Repr

end Actr.Protocol
