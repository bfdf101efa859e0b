import Actr.Hyper.Wire.Gate

/-!
# Errors on the wire

A failed call is answered with the code of its error and the text the error displays.
-/

namespace Actr.Hyper.Lifecycle
open Protocol

-- The hint is written as Rust's `Debug` writes an `Option<u64>`.
def displayRetryHint : Option Nat → String
  | some hint => "retry_after_ms=Some(" ++ toString hint ++ ")"
  | none => "retry_after_ms=None"

def displayActrError : ActrError → String
  | .unavailable message => "unavailable: " ++ message
  | .connectionNotReady hint => "connection not ready: " ++ displayRetryHint hint
  | .timedOut => "timed out"
  | .notFound message => "not found: " ++ message
  | .permissionDenied message => "permission denied: " ++ message
  | .invalidArgument message => "invalid argument: " ++ message
  | .unknownRoute message => "unknown route: " ++ message
  | .dependencyNotFound serviceName message => "dependency '" ++ serviceName ++ "' not found: " ++ message
  | .decodeFailure message => "decode failure: " ++ message
  | .notImplemented message => "not implemented: " ++ message
  | .internal message => "internal error: " ++ message

def protocolErrorToCode : ActrError → Nat
  | .unavailable _ => 10001
  | .connectionNotReady _ => 10011
  | .timedOut => 10002
  | .notFound _ => 10003
  | .permissionDenied _ => 10004
  | .invalidArgument _ => 10005
  | .unknownRoute _ => 10006
  | .dependencyNotFound _ _ => 10007
  | .decodeFailure _ => 10008
  | .notImplemented _ => 10009
  | .internal _ => 10010

/-- One hop: `mailbox_reply_and_ack` encodes the error, the gate of the caller decodes it. -/
def relay (error : ActrError) : ActrError :=
  Wire.wireCodeToActrError (protocolErrorToCode error) (displayActrError error)

end Actr.Hyper.Lifecycle
