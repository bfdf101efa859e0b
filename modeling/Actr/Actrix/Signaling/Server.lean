import Actr.Actrix.Platform.Credential
import Actr.Actrix.Signaling.Presence
import Actr.Actrix.Signaling.ServiceRegistry

/-!
# The signaling server

The tables of the server, the messages it sends and the cleanup of a connection.
-/

namespace Actr.Actrix.Signaling
open Protocol Platform

def typeKey (actorType : ActrType) : String :=
  actorType.manufacturer ++ ":" ++ actorType.name ++ ":" ++ actorType.version

structure ClientConnection where
  id : String
  actorId : Option ActrId
  webrtcRole : Option String
  receiverOpen : Bool
  deriving DecidableEq, Repr

abbrev Clients := AList fun _ : String => ClientConnection

abbrev ActorIdIndex := AList fun _ : ActrId => String

structure ErrorResponse where
  code : Nat
  message : String
  deriving DecidableEq, Repr

structure ServiceSpec where
  name : String
  description : Option String
  fingerprint : String
  publishedAt : Option Int
  tags : List String
  deriving DecidableEq, Repr

structure TypeEntry where
  actrType : ActrType
  name : String
  description : Option String
  serviceFingerprint : String
  publishedAt : Option Int
  tags : List String
  deriving DecidableEq, Repr

structure Pong where
  seq : UInt64
  suggestIntervalSecs : Option Nat
  credentialWarning : Option String
  deriving DecidableEq, Repr

inductive ToActr where
  | unregisterResponse
  | pong (pong : Pong)
  | discoveryResponse (entries : List TypeEntry)
  | routeCandidatesResponse (candidates : List ActrId) (wsAddressMap : List (ActrId × Option String))
  | getServiceSpecResponse (result : Except ErrorResponse ServiceSpec)
  | getSigningKeyResponse (keyId : Nat) (pubkey : List UInt8)
  | subscribeActrUpResponse
  | unsubscribeActrUpResponse
  | error (response : ErrorResponse)

inductive RelayPayload where
  | iceCandidate (encoded : List UInt8)
  | sessionDescription (encoded : List UInt8)
  | roleNegotiation (source target : ActrId) (realmId : Nat)
  | roleAssignment (isOfferer : Bool) (remoteFixed : Option Bool)
  | iceRestartRequest (reason : Option String)
  deriving DecidableEq, Repr

structure ActrRelay where
  source : ActrId
  credential : AIdCredential
  target : ActrId
  payload : Option RelayPayload
  deriving DecidableEq, Repr

inductive Flow where
  | serverToActr (target : ActrId) (payload : ToActr)
  | actrRelay (relay : ActrRelay)

structure SignalingEnvelope where
  replyFor : Option String
  flow : Flow

structure Server where
  clients : Clients
  actorIdIndex : ActorIdIndex
  serviceRegistry : ServiceRegistry
  presenceManager : PresenceManager
  sent : List (String × SignalingEnvelope)
  decisions : List (ActrId × AclQuery)

namespace Server

def new : Server := ⟨∅, ∅, .empty, .empty, [], []⟩

def createNewEnvelope (flow : Flow) : SignalingEnvelope := ⟨none, flow⟩

def enqueue (server : Server) (clientId : String) (envelope : SignalingEnvelope) : Server :=
  { server with sent := server.sent ++ [(clientId, envelope)] }

def sendEnvelopeToClient (server : Server) (clientId : String) (envelope : SignalingEnvelope) :
    Except String Unit × Server :=
  match server.clients.lookup clientId with
  | some client =>
    if client.receiverOpen then (.ok (), server.enqueue clientId envelope)
    else (.error "发送失败: channel closed", server)
  | none => (.error ("客户端 " ++ clientId ++ " 未找到"), server)

def sendErrorResponse (server : Server) (clientId : String) (target : ActrId) (code : Nat) (message : String)
    (replyFor : Option String) : Except String Unit × Server :=
  server.sendEnvelopeToClient clientId ⟨replyFor, .serverToActr target (.error ⟨code, message⟩)⟩

inductive CleanupMode where
  | connectionClosed
  | explicitUnregister
  deriving DecidableEq, Repr

def replacementClientId (clients : Clients) (clientId : String) (actorId : ActrId) : Option String :=
  (clients.entries.find? fun entry => entry.1 ≠ clientId ∧ entry.2.actorId = some actorId).map Sigma.fst

def releaseIndex (index : ActorIdIndex) (clientId : String) (actorId : ActrId) (replacement : Option String) :
    ActorIdIndex :=
  match index.lookup actorId with
  | some mappedClient =>
    if mappedClient = clientId then
      match replacement with
      | some replacementClientId => index.insert actorId replacementClientId
      | none => index.erase actorId
    else index
  | none =>
    match replacement with
    | some replacementClientId => index.insert actorId replacementClientId
    | none => index

def releaseServices (registry : ServiceRegistry) (actorId : ActrId) : CleanupMode → ServiceRegistry
  | .connectionClosed => registry.unregisterActorMemoryOnly actorId
  | .explicitUnregister => registry.unregisterActor actorId

def cleanupClient (server : Server) (clientId : String) (mode : CleanupMode) : Server :=
  match server.clients.lookup clientId with
  | none => server
  | some client =>
    let clients := server.clients.erase clientId
    match client.actorId with
    | none => { server with clients }
    | some actorId =>
      let replacement := replacementClientId clients clientId actorId
      { server with
        clients
        actorIdIndex := releaseIndex server.actorIdIndex clientId actorId replacement
        serviceRegistry :=
          if replacement.isSome then server.serviceRegistry
          else releaseServices server.serviceRegistry actorId mode }

end Server

end Actr.Actrix.Signaling
