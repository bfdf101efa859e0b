import Actr.Proof.Signaling.Requests

/-! # Requests whose source is not the actor of the credential -/

namespace Actr.Proof.Signaling
open Actrix.Platform Actrix.Signaling ServiceRegistry Actr.Protocol Library.Maps

def connectionActor (server : Server) (clientId : String) : Option ActrId :=
  (server.clients.lookup clientId).bind ClientConnection.actorId

/-- The actor in whose name a request acts, on a connection of the actor `connection`. -/
def actingFor (source : ActrId) (connection : Option ActrId) : Option ToSignaling → Option ActrId
  | none | some (.getServiceSpecRequest _) | some (.getSigningKeyRequest _) | some (.error _) => none
  | some (.unregisterRequest _ _) => connection
  | some _ => some source

section Confined

variable {server : Server} {actorId source : ActrId} {clientId requestEnvelopeId : String}

theorem untouched_cleanup (other : connectionActor server clientId ≠ some actorId) :
    Untouched actorId server (server.cleanupClient clientId .explicitUnregister) := by
  unfold Server.cleanupClient
  split
  · exact untouched_refl
  · next client found =>
    rw [connectionActor, found, Option.bind_some] at other
    split
    · exact ⟨fun _ => rfl, fun _ => Iff.rfl, rfl⟩
    · next owner named =>
      have distinct : actorId ≠ owner := by
        rintro rfl
        exact other named
      refine ⟨?_, fun _ => Iff.rfl, rfl⟩
      dsimp only
      split
      · exact fun _ => rfl
      · exact spares_unregisterActor distinct

theorem untouched_unregister (other : connectionActor server clientId ≠ some actorId) :
    Untouched actorId server (server.handleUnregister source clientId requestEnvelopeId).2 := by
  obtain ⟨sent, same⟩ := send_only_sends server clientId ⟨some requestEnvelopeId, .serverToActr source .unregisterResponse⟩
  unfold Server.handleUnregister Server.respond
  split
  · next sends =>
    rw [sends] at same
    cases same
    have cleaned := @untouched_cleanup { server with sent } actorId clientId other
    exact ⟨cleaned.entries, cleaned.subscriptions, cleaned.decisions⟩
  · exact untouched_refl.send

theorem untouched_filter (distinct : actorId ≠ source) (world : World) (services : List ServiceInfo) :
    Untouched actorId server (Server.filterByAcl world server source services).2 :=
  ⟨fun _ => rfl, fun _ => Iff.rfl, by simp [Server.filterByAcl, List.filter_append, distinct.symm]⟩

theorem dispatch_confined {checks : Checks} {world : World} {inTolerancePeriod : Bool} {payload : Option ToSignaling}
    (other : actingFor source (connectionActor server clientId) payload ≠ some actorId) :
    Untouched actorId server
      (Server.dispatch checks world server source inTolerancePeriod clientId requestEnvelopeId payload).2 := by
  rcases payload with _ | payload
  · exact untouched_refl
  have distinct (acts : actingFor source (connectionActor server clientId) payload = some source) : actorId ≠ source := by
    rintro rfl
    exact other acts
  cases payload with
  | ping => exact Untouched.send ⟨spares_pinged (distinct rfl) _ _ _, fun _ => Iff.rfl, rfl⟩
  | unregisterRequest => exact untouched_unregister other
  | discoveryRequest | routeCandidatesRequest => exact (untouched_filter (distinct rfl) world _).send
  | getServiceSpecRequest => exact untouched_refl.send
  | getSigningKeyRequest =>
    simp only [Server.dispatch, Server.handleGetSigningKeyRequest]
    split
    all_goals exact untouched_refl.send
  | subscribeActrUpRequest =>
    exact Untouched.send ⟨fun _ => rfl, fun _ => by simp [mem_subscribe, distinct rfl], rfl⟩
  | unsubscribeActrUpRequest =>
    exact Untouched.send ⟨fun _ => rfl, fun _ => by simp [mem_unsubscribe, distinct rfl], rfl⟩
  | error => exact untouched_refl

end Confined

def quiet : World where
  acl _ := .ok .empty
  storage := none
  serviceSpec _ := none
  rankCandidates _ _ _ := []
  typeOrder := id
  reordered _ := .refl _

def instanceOf (actorId : ActrId) : ServiceInfo where
  actorId := actorId
  serviceName := "service"
  messageTypes := []
  status := .available
  lastHeartbeatTimeSecs := 0
  serviceAvailabilityState := none
  powerReserve := none
  mailboxBacklog := none
  wsAddress := none
  isRestoredFromStorage := false

def serving (actorId : ActrId) (clientId : String) (connection : Option ActrId) : Server :=
  { Server.new with
    clients := AList.singleton clientId ⟨clientId, connection, none, true⟩
    serviceRegistry := ⟨AList.singleton "service" [instanceOf actorId], ∅, AList.singleton actorId ["service"]⟩ }

section Touched

variable {actorId source : ActrId} {clientId requestEnvelopeId : String} {connection : Option ActrId}

theorem connectionActor_serving : connectionActor (serving actorId clientId connection) clientId = connection := by
  simp [connectionActor, serving]

theorem entriesOf_serving :
    entriesOf (serving actorId clientId connection).serviceRegistry actorId "service" = [instanceOf actorId] := by
  simp [entriesOf, serving, instancesOf, listAt, instanceOf]

theorem all_serving : (serving actorId clientId connection).serviceRegistry.all = [instanceOf actorId] := rfl

theorem touched_by_ping (ping : Ping) (now : UInt64) (inTolerancePeriod : Bool) :
    ¬ Untouched source (serving source clientId connection)
      (Server.handlePing quiet now (serving source clientId connection) source ping clientId requestEnvelopeId
        inTolerancePeriod).2 := by
  intro untouched
  have entries := (untouched_send_iff.mp untouched).entries "service"
  have updated : entriesOf (Server.pinged quiet (serving source clientId connection).serviceRegistry source ping now)
      source "service" = [measured ping.metrics now (instanceOf source)] := by
    simp [Server.pinged, updateLoadMetrics, serving, mapInstances, entriesOf, instancesOf, listAt, instanceOf, measured]
  rw [entriesOf_serving] at entries
  rw [updated] at entries
  have state := congrArg (List.map ServiceInfo.serviceAvailabilityState) entries
  cases state

theorem touched_by_unregister : ¬ Untouched actorId (serving actorId clientId (some actorId))
      ((serving actorId clientId (some actorId)).handleUnregister source clientId requestEnvelopeId).2 := by
  intro untouched
  have entries := untouched.entries "service"
  have removed : entriesOf ((serving actorId clientId (some actorId)).handleUnregister source clientId
      requestEnvelopeId).2.serviceRegistry actorId "service" = [] := by
    simp [Server.handleUnregister, Server.respond, Server.sendEnvelopeToClient, serving, Server.enqueue,
      Server.cleanupClient, Server.replacementClientId, Server.releaseServices, unregisterActor, unregisterService,
      unregisterServiceMemoryOnly, instanceOf, entriesOf, instancesOf, listAt, dropName]
  rw [entriesOf_serving, removed] at entries
  cases entries

theorem touched_by_filter {server : Server} {services : List ServiceInfo} {service : ServiceInfo}
    (listed : service ∈ services) : ¬ Untouched source server (Server.filterByAcl quiet server source services).2 := by
  intro untouched
  have none : ∀ service, service ∉ services := by
    simpa [Server.filterByAcl, List.filter_append] using untouched.decisions
  exact none service listed

theorem touched_by_subscribe (targetType : ActrType) : ¬ Untouched source (serving source clientId connection)
      ((serving source clientId connection).handleSubscribeActrUp source targetType clientId requestEnvelopeId).2 := by
  intro untouched
  have subscriptions := (untouched_send_iff.mp untouched).subscriptions targetType
  have subscribed := subscriptions.mp (mem_subscribe.mpr (.inr ⟨rfl, rfl⟩))
  cases subscribed

theorem touched_by_unsubscribe {server : Server} {targetType : ActrType}
    (subscribed : source ∈ server.presenceManager.getSubscribers targetType) :
    ¬ Untouched source server (server.handleUnsubscribeActrUp source targetType clientId requestEnvelopeId).2 := by
  intro untouched
  have subscriptions := (untouched_send_iff.mp untouched).subscriptions targetType
  exact (mem_unsubscribe.mp (subscriptions.mpr subscribed)).2 ⟨rfl, rfl⟩

/-- A second connection, of the actor that is registered. -/
def servingBoth (actorId : ActrId) (clientId : String) (connection : Option ActrId) : Server :=
  { serving actorId clientId connection with
    clients := (serving actorId clientId connection).clients.insert (clientId ++ "'") ⟨"", some actorId, none, true⟩ }

theorem connectionActor_servingBoth :
    connectionActor (servingBoth actorId clientId connection) clientId = connection := by
  have apart : clientId ≠ clientId ++ "'" := by
    intro same
    have lengths := congrArg String.length same
    simp at lengths
  simp [connectionActor, servingBoth, AList.lookup_insert_ne apart, serving]

theorem dispatch_touches {checks : Checks} {inTolerancePeriod : Bool} {payload : Option ToSignaling}
    (acts : actingFor source connection payload = some actorId) :
    ∃ world server, connectionActor server clientId = connection ∧ ¬ Untouched actorId server
      (Server.dispatch checks world server source inTolerancePeriod clientId requestEnvelopeId payload).2 := by
  rcases payload with _ | payload
  · cases acts
  refine ⟨quiet, ?_⟩
  cases payload with
  | ping ping =>
    cases acts
    exact ⟨_, connectionActor_serving, touched_by_ping ping checks.now inTolerancePeriod⟩
  | unregisterRequest =>
    cases acts
    exact ⟨_, connectionActor_serving, touched_by_unregister⟩
  | discoveryRequest manufacturer =>
    cases acts
    let target : ActrId := ⟨⟨0⟩, 0, ⟨manufacturer.getD "", "", ""⟩⟩
    have listed : instanceOf target ∈ (serving target clientId connection).serviceRegistry.discoverAll manufacturer := by
      cases manufacturer <;> simp [discoverAll, all_serving, instanceOf, target]
    exact ⟨_, connectionActor_serving, fun untouched => touched_by_filter listed (untouched_send_iff.mp untouched)⟩
  | routeCandidatesRequest request =>
    cases acts
    let target : ActrId := ⟨⟨0⟩, 0, request.targetType⟩
    have listed : instanceOf target ∈ ((servingBoth target clientId connection).serviceRegistry.findByActrType
        request.targetType).filter (servingBoth target clientId connection).connected := by
      simp [findByActrType, servingBoth, all_serving, instanceOf, target, Server.connected]
    exact ⟨_, connectionActor_servingBoth, fun untouched => touched_by_filter listed (untouched_send_iff.mp untouched)⟩
  | getServiceSpecRequest | getSigningKeyRequest | error => cases acts
  | subscribeActrUpRequest targetType =>
    cases acts
    exact ⟨_, connectionActor_serving, touched_by_subscribe targetType⟩
  | unsubscribeActrUpRequest targetType =>
    cases acts
    exact ⟨{ serving actorId clientId connection with
      presenceManager := PresenceManager.empty.subscribe actorId targetType },
      @connectionActor_serving actorId clientId connection,
      touched_by_unsubscribe (mem_subscribe.mpr (.inr ⟨rfl, rfl⟩))⟩

end Touched

theorem request_acts_for_claims_iff (checks : Checks) (message : ActrToSignaling)
    (clientId requestEnvelopeId : String) (connection : Option ActrId) {realm : RealmEntity} {claims : IdentityClaims}
    {inTolerancePeriod : Bool} (active : checks.validateRealm message.source.realm.realmId = .ok realm)
    (checked : checks.check message.credential message.source.realm.realmId = .ok (claims, inTolerancePeriod)) :
    (∀ actorId, actorId.toStringRepr ≠ claims.actorId → ∀ world server, connectionActor server clientId = connection →
      Untouched actorId server (Server.handleActrToServer checks world server message clientId requestEnvelopeId).2) ↔
        ∀ actorId ∈ actingFor message.source connection message.payload, actorId.toStringRepr = claims.actorId := by
  have dispatched (world : World) (server : Server) :
      Server.handleActrToServer checks world server message clientId requestEnvelopeId =
        Server.dispatch checks world server message.source inTolerancePeriod clientId requestEnvelopeId
          message.payload := by
    simp only [Server.handleActrToServer, active, checked]
  simp only [dispatched]
  constructor
  · intro spared actorId acts
    by_contra foreign
    obtain ⟨world, server, connected, touched⟩ := dispatch_touches acts
    exact touched (spared actorId foreign world server connected)
  · rintro own actorId foreign world server rfl
    exact dispatch_confined fun acts => foreign (own actorId acts)

def host : ActrId := ⟨⟨7⟩, 1, ⟨"acme", "echo", "1.0.0"⟩⟩

def guest : ActrId := ⟨⟨7⟩, 2, ⟨"acme", "viewer", "1.0.0"⟩⟩

def guestChecks : Checks where
  getRealm id := .ok (some ⟨id, .active, true, none⟩)
  getCachedKey _ := .ok (some [])
  verifySignature _ _ _ := .ok ()
  decodeClaims _ := .ok ⟨7, guest.toStringRepr, 10⟩
  now := 5

def guestCredential : AIdCredential := ⟨1, [], List.replicate 64 0⟩

theorem guest_subscription_spares_host : host.toStringRepr ≠ guest.toStringRepr ∧
    ∀ world server, connectionActor server "client" = some host → Untouched host server
      (Server.handleActrToServer guestChecks world server
        ⟨guest, guestCredential, some (.subscribeActrUpRequest host.type)⟩ "client" "request").2 := by
  have foreign : host.toStringRepr ≠ guest.toStringRepr := by decide
  have own : ∀ actorId ∈ actingFor guest (some host) (some (.subscribeActrUpRequest host.type)),
      actorId.toStringRepr = guest.toStringRepr := by
    rintro _ ⟨⟩
    rfl
  exact ⟨foreign, (request_acts_for_claims_iff guestChecks
    ⟨guest, guestCredential, some (.subscribeActrUpRequest host.type)⟩ "client" "request" (some host) rfl rfl).mpr
      own host foreign⟩

def afterForged (payload : ToSignaling) : Server :=
  (Server.handleActrToServer guestChecks quiet (servingBoth host "guest" (some guest))
    ⟨host, guestCredential, some payload⟩ "guest" "request").2

theorem forged_source_is_served :
    (guestChecks.check guestCredential host.realm.realmId = .ok (⟨7, guest.toStringRepr, 10⟩, false) ∧
      host.toStringRepr ≠ guest.toStringRepr) ∧
    ((entriesOf (servingBoth host "guest" (some guest)).serviceRegistry host "service").map (·.lastHeartbeatTimeSecs) =
        [0] ∧
      (entriesOf (afterForged (.ping ⟨⟨0, 0, 0⟩, []⟩)).serviceRegistry host "service").map
        (·.lastHeartbeatTimeSecs) = [5]) ∧
    (afterForged (.subscribeActrUpRequest guest.type)).presenceManager.getSubscribers guest.type = [host] ∧
    (afterForged (.discoveryRequest none none)).decisions = [(host, Server.discoveryQuery host host)] ∧
    -- in the guest's own name, on the connection of the host
    (Server.handleActrToServer guestChecks quiet (serving host "host" (some host))
      ⟨guest, guestCredential, some (.unregisterRequest guest none)⟩ "host" "request").2.serviceRegistry.all.length = 0 := by
  exact ⟨⟨rfl, by decide⟩, ⟨rfl, rfl⟩, rfl, rfl, rfl⟩

end Actr.Proof.Signaling
