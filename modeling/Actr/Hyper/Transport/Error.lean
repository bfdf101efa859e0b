import Mathlib.Data.String.Basic

/-!
# Errors of the transport

An error that wraps another one is the text of the wrapped error.
-/

namespace Actr.Hyper.Transport

inductive NetworkError where
  | connectionError (message : String)
  | signalingError (message : String)
  | webRtcError (message : String)
  | protocolError (message : String)
  | serializationError (message : String)
  | deserializationError (message : String)
  | timeoutError (message : String)
  | authenticationError (message : String)
  | credentialExpired (message : String)
  | permissionError (message : String)
  | configurationError (message : String)
  | resourceExhaustedError (message : String)
  | networkUnreachableError (message : String)
  | serviceDiscoveryError (message : String)
  | natTraversalError (message : String)
  | dataChannelError (message : String)
  | dataChannelClosed (message : String)
  | dataChannelNotOpen (message : String)
  | broadcastError (message : String)
  | iceError (message : String)
  | dtlsError (message : String)
  | stunTurnError (message : String)
  | webSocketError (message : String)
  | webSocketClosed (message : String)
  | connectionNotFound (message : String)
  | connectionClosed (message : String)
  | peerConnectionClosed (message : String)
  | notImplemented (message : String)
  | channelClosed (message : String)
  | sendError (message : String)
  | noRoute (message : String)
  | invalidOperation (message : String)
  | invalidArgument (message : String)
  | channelNotFound (message : String)
  | ioError (message : String)
  | urlParseError (message : String)
  | jsonError (message : String)
  | other (message : String)
  deriving DecidableEq, Repr

abbrev NetworkResult (α : Type) := Except NetworkError α

end Actr.Hyper.Transport
