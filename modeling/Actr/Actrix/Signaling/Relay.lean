import Actr.Actrix.Signaling.Requests

/-! # Relayed messages -/

namespace Actr.Actrix.Signaling
open Protocol Platform

namespace Server

inductive RelaySourceConnectionStatus where
  | current
  | clientMissing
  | clientActorMismatch
  | actorIndexMissing
  | displaced (currentClientId : String)
  deriving DecidableEq, Repr

def relaySourceConnectionStatus (server : Server) (clientId : String) (source : ActrId) :
    RelaySourceConnectionStatus :=
  match server.clients.lookup clientId with
  | none => .clientMissing
  | some client =>
    if client.actorId ≠ some source then .clientActorMismatch
    else
      match server.actorIdIndex.lookup source with
      | some currentClientId => if currentClientId = clientId then .current else .displaced currentClientId
      | none => .actorIndexMissing

-- Realm and serial number only: the type does not take part in the lookup.
def sameSerial (actorId : ActrId) (client : ClientConnection) : Bool :=
  match client.actorId with
  | some connected =>
    connected.realm.realmId = actorId.realm.realmId ∧ connected.serialNumber = actorId.serialNumber
  | none => false

def findClient (server : Server) (actorId : ActrId) : Option (String × ClientConnection) :=
  (server.clients.entries.find? fun entry => sameSerial actorId entry.2).map fun entry => (entry.1, entry.2)

def actorOrderGreater (left right : ActrId) : Bool :=
  if left.realm.realmId ≠ right.realm.realmId then right.realm.realmId < left.realm.realmId
  else if left.serialNumber ≠ right.serialNumber then right.serialNumber < left.serialNumber
  else if left.type.manufacturer ≠ right.type.manufacturer then right.type.manufacturer < left.type.manufacturer
  else right.type.name < left.type.name

def roleOf (server : Server) (actorId : ActrId) : Option String :=
  (server.clients.entries.find? fun entry => entry.2.actorId = some actorId).bind fun entry => entry.2.webrtcRole

def determineWebrtcRole (server : Server) (source target : ActrId) : Bool :=
  if server.roleOf source = some "answer" ∧ server.roleOf target ≠ some "answer" then false
  else if server.roleOf target = some "answer" ∧ server.roleOf source ≠ some "answer" then true
  else actorOrderGreater source target

def sendRoleAssignment (server : Server) (targetActor : ActrId) (relay : ActrRelay) : Except String Unit × Server :=
  match server.findClient targetActor with
  | some (clientId, client) =>
    if client.receiverOpen then (.ok (), server.enqueue clientId (createNewEnvelope (.actrRelay relay)))
    else (.error "channel closed", server)
  | none => (.ok (), server)

def negotiateRoles (server : Server) (relay : ActrRelay) (source target : ActrId) : Except String Unit × Server :=
  let isOfferer := server.determineWebrtcRole source target
  let assignment (isOfferer : Bool) : ActrRelay :=
    ⟨source, relay.credential, target, some (.roleAssignment isOfferer none)⟩
  match server.sendRoleAssignment source (assignment isOfferer) with
  | (.ok _, server) => server.sendRoleAssignment target (assignment !isOfferer)
  | failed => failed

def forwardRelay (server : Server) (relay : ActrRelay) : Except String Unit × Server :=
  match server.findClient relay.target with
  | some (targetClientId, _) => server.sendEnvelopeToClient targetClientId (createNewEnvelope (.actrRelay relay))
  | none => (.ok (), server)

def handleActrRelay (checks : Checks) (world : World) (server : Server) (relay : ActrRelay) (clientId : String)
    (requestEnvelopeId : String) : Except String Unit × Server :=
  let source := relay.source
  let query := discoveryQuery source relay.target
  match checks.validateRealm source.realm.realmId with
  | .error error =>
    let (code, text) := mapValidationError error
    server.sendErrorResponse clientId source code ("Realm validation failed: " ++ text) (some requestEnvelopeId)
  | .ok _ =>
    if ¬ allowed world query then
      { server with decisions := server.decisions ++ [(source, query)] }.sendErrorResponse clientId source 403
        "ACL policy denies relay to target actor" (some requestEnvelopeId)
    else
      let server := { server with decisions := server.decisions ++ [(source, query)] }
      match checks.check relay.credential source.realm.realmId with
      | .error error =>
        server.sendErrorResponse clientId source 401 ("Credential validation failed: " ++ error.display)
          (some requestEnvelopeId)
      | .ok (claims, _) =>
        if claims.actorId ≠ source.toStringRepr then
          server.sendErrorResponse clientId source 403
            "Source identity mismatch: relay.source does not match credential" (some requestEnvelopeId)
        else if server.relaySourceConnectionStatus clientId source ≠ .current then (.ok (), server)
        else
          match relay.payload with
          | some (.roleNegotiation negotiated peer _) => server.negotiateRoles relay negotiated peer
          | _ => server.forwardRelay relay

end Server

end Actr.Actrix.Signaling
