import Actr.Actrix.Signaling.Server

/-!
# Requests to the signaling server

`handle_actr_to_server` and the handlers it dispatches to.
-/

namespace Actr.Actrix.Signaling
open Protocol Platform

structure Ping where
  metrics : ServiceRegistry.LoadMetrics
  stickyClientIds : List String

structure RouteCandidatesRequest where
  targetType : ActrType
  clientFingerprint : String

inductive ToSignaling where
  | unregisterRequest (actrId : ActrId) (reason : Option String)
  | ping (ping : Ping)
  | discoveryRequest (manufacturer : Option String) (limit : Option Nat)
  | routeCandidatesRequest (request : RouteCandidatesRequest)
  | getServiceSpecRequest (name : String)
  | getSigningKeyRequest (keyId : Nat)
  | subscribeActrUpRequest (targetType : ActrType)
  | unsubscribeActrUpRequest (targetType : ActrType)
  | error (response : ErrorResponse)

structure ActrToSignaling where
  source : ActrId
  credential : AIdCredential
  payload : Option ToSignaling

structure World where
  acl : AclQuery → Except RealmError AclTable
  storage : Option (Except String (List ServiceInfo))
  serviceSpec : ServiceInfo → Option ServiceSpec
  rankCandidates : List ServiceInfo → RouteCandidatesRequest → String → List ActrId
  typeOrder : List TypeEntry → List TypeEntry
  reordered : ∀ entries, (typeOrder entries).Perm entries

namespace ServiceRegistry

def all (r : ServiceRegistry) : List ServiceInfo := r.services.entries.flatMap Sigma.snd

def discoverAll (r : ServiceRegistry) (manufacturer : Option String) : List ServiceInfo :=
  r.all.filter fun service => service.status = .available ∧
    manufacturer.all fun wanted => service.actorId.type.manufacturer = wanted

def findByActrType (r : ServiceRegistry) (targetType : ActrType) : List ServiceInfo :=
  r.all.filter fun service => service.status = .available ∧ service.actorId.type = targetType

end ServiceRegistry

namespace Server

def respond (server : Server) (clientId : String) (requestEnvelopeId : String) (source : ActrId) (payload : ToActr) :
    Except String Unit × Server :=
  server.sendEnvelopeToClient clientId ⟨some requestEnvelopeId, .serverToActr source payload⟩

def pinged (world : World) (registry : ServiceRegistry) (source : ActrId) (ping : Ping) (now : UInt64) :
    ServiceRegistry :=
  match registry.updateLoadMetrics source ping.metrics now with
  | (.ok _, registry) => registry
  | (.error _, registry) =>
    match registry.restoreServiceFromStorage source world.storage with
    | (.ok true, registry) => (registry.updateLoadMetrics source ping.metrics now).2
    | (_, registry) => registry

def handlePing (world : World) (now : UInt64) (server : Server) (source : ActrId) (ping : Ping) (clientId : String)
    (requestEnvelopeId : String) (inTolerancePeriod : Bool) : Except String Unit × Server :=
  let credentialWarning :=
    if inTolerancePeriod then
      some "Your credential key is in tolerance period. Please update your credential soon."
    else none
  { server with serviceRegistry := pinged world server.serviceRegistry source ping now }.respond clientId
    requestEnvelopeId source (.pong ⟨now, some 30, credentialWarning⟩)

-- The actor of the connection goes, whoever the request names.
def handleUnregister (server : Server) (source : ActrId) (clientId : String) (requestEnvelopeId : String) :
    Except String Unit × Server :=
  match server.respond clientId requestEnvelopeId source .unregisterResponse with
  | (.ok _, server) => (.ok (), server.cleanupClient clientId .explicitUnregister)
  | failed => failed

def discoveryQuery (source target : ActrId) : AclQuery :=
  ⟨source.realm.realmId, target.realm.realmId, typeKey source.type, typeKey target.type⟩

def allowed (world : World) (query : AclQuery) : Bool :=
  match ActorAcl.canDiscover (world.acl query) query with
  | .ok allowed => allowed
  | .error _ => false

def filterByAcl (world : World) (server : Server) (source : ActrId) (services : List ServiceInfo) :
    List ServiceInfo × Server :=
  (services.filter fun service => allowed world (discoveryQuery source service.actorId),
    { server with decisions := server.decisions ++
        services.map fun service => (source, discoveryQuery source service.actorId) })

def typeEntry (world : World) (service : ServiceInfo) : TypeEntry :=
  match world.serviceSpec service with
  | some spec => ⟨service.actorId.type, service.serviceName, spec.description, spec.fingerprint, spec.publishedAt, spec.tags⟩
  | none => ⟨service.actorId.type, service.serviceName, none, "unknown", none, []⟩

def typeEntries (world : World) (services : List ServiceInfo) : List TypeEntry :=
  services.foldl (fun entries service =>
    if entries.any (fun entry => typeKey entry.actrType = typeKey service.actorId.type) then entries
    else entries ++ [typeEntry world service]) []

def handleDiscoveryRequest (world : World) (server : Server) (source : ActrId) (manufacturer : Option String)
    (limit : Option Nat) (clientId : String) (requestEnvelopeId : String) : Except String Unit × Server :=
  let (services, server) := filterByAcl world server source (server.serviceRegistry.discoverAll manufacturer)
  let entries := (world.typeOrder (typeEntries world services)).take (limit.getD 64)
  server.respond clientId requestEnvelopeId source (.discoveryResponse entries)

def connected (server : Server) (service : ServiceInfo) : Bool :=
  server.clients.entries.any fun entry => entry.2.actorId = some service.actorId

def handleRouteCandidatesRequest (world : World) (server : Server) (source : ActrId)
    (request : RouteCandidatesRequest) (clientId : String) (requestEnvelopeId : String) :
    Except String Unit × Server :=
  let candidates := (server.serviceRegistry.findByActrType request.targetType).filter server.connected
  let (candidates, server) := filterByAcl world server source candidates
  let ranked := world.rankCandidates candidates request clientId
  let wsAddressMap := ranked.filterMap fun id =>
    (candidates.find? fun candidate => candidate.actorId = id).map fun candidate => (id, candidate.wsAddress)
  server.respond clientId requestEnvelopeId source (.routeCandidatesResponse ranked wsAddressMap)

def specNamed (world : World) (registry : ServiceRegistry) (name : String) : Option ServiceSpec :=
  ((registry.all.filter fun service => service.status = .available).filterMap world.serviceSpec).find?
    fun spec => spec.name = name

def handleGetServiceSpecRequest (world : World) (server : Server) (source : ActrId) (name : String)
    (clientId : String) (requestEnvelopeId : String) : Except String Unit × Server :=
  let result :=
    match specNamed world server.serviceRegistry name with
    | some spec => .ok spec
    | none => .error ⟨404, "Service specification not found for name=" ++ name⟩
  server.respond clientId requestEnvelopeId source (.getServiceSpecResponse result)

def handleGetSigningKeyRequest (checks : Checks) (server : Server) (source : ActrId) (keyId : Nat)
    (clientId : String) (requestEnvelopeId : String) : Except String Unit × Server :=
  match checks.getCachedKey keyId with
  | .ok (some pubkey) => server.respond clientId requestEnvelopeId source (.getSigningKeyResponse keyId pubkey)
  | .ok none =>
    server.sendErrorResponse clientId source 404 ("signing key not found: key_id=" ++ toString keyId)
      (some requestEnvelopeId)
  | .error _ =>
    server.sendErrorResponse clientId source 500 "internal error looking up signing key" (some requestEnvelopeId)

def handleSubscribeActrUp (server : Server) (source : ActrId) (targetType : ActrType) (clientId : String)
    (requestEnvelopeId : String) : Except String Unit × Server :=
  { server with presenceManager := server.presenceManager.subscribe source targetType }.respond clientId
    requestEnvelopeId source .subscribeActrUpResponse

def handleUnsubscribeActrUp (server : Server) (source : ActrId) (targetType : ActrType) (clientId : String)
    (requestEnvelopeId : String) : Except String Unit × Server :=
  { server with presenceManager := (server.presenceManager.unsubscribe source targetType).2 }.respond clientId
    requestEnvelopeId source .unsubscribeActrUpResponse

def dispatch (checks : Checks) (world : World) (server : Server) (source : ActrId) (inTolerancePeriod : Bool)
    (clientId : String) (requestEnvelopeId : String) : Option ToSignaling → Except String Unit × Server
  | some (.ping ping) =>
    handlePing world checks.now server source ping clientId requestEnvelopeId inTolerancePeriod
  | some (.unregisterRequest _ _) => server.handleUnregister source clientId requestEnvelopeId
  | some (.discoveryRequest manufacturer limit) =>
    handleDiscoveryRequest world server source manufacturer limit clientId requestEnvelopeId
  | some (.routeCandidatesRequest request) =>
    handleRouteCandidatesRequest world server source request clientId requestEnvelopeId
  | some (.getServiceSpecRequest name) =>
    handleGetServiceSpecRequest world server source name clientId requestEnvelopeId
  | some (.subscribeActrUpRequest targetType) =>
    server.handleSubscribeActrUp source targetType clientId requestEnvelopeId
  | some (.unsubscribeActrUpRequest targetType) =>
    server.handleUnsubscribeActrUp source targetType clientId requestEnvelopeId
  | some (.getSigningKeyRequest keyId) =>
    handleGetSigningKeyRequest checks server source keyId clientId requestEnvelopeId
  | some (.error _) => (.ok (), server)
  | none => (.ok (), server)

-- The claims of the credential are dropped.
def handleActrToServer (checks : Checks) (world : World) (server : Server) (message : ActrToSignaling)
    (clientId : String) (requestEnvelopeId : String) : Except String Unit × Server :=
  let source := message.source
  match checks.validateRealm source.realm.realmId with
  | .error error =>
    let (code, text) := mapValidationError error
    server.sendErrorResponse clientId source code ("Realm validation failed: " ++ text) (some requestEnvelopeId)
  | .ok _ =>
    match checks.check message.credential source.realm.realmId with
    | .error error =>
      server.sendErrorResponse clientId source 401 ("Credential validation failed: " ++ error.display)
        (some requestEnvelopeId)
    | .ok (_, inTolerancePeriod) =>
      dispatch checks world server source inTolerancePeriod clientId requestEnvelopeId message.payload

end Server

end Actr.Actrix.Signaling
