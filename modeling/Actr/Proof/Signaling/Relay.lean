import Actr.Actrix.Signaling.Relay
import Actr.Proof.Signaling.SourceIdentity

/-! # Whom a relayed message reaches -/

namespace Actr.Proof.Signaling
open Actrix.Platform Actrix.Signaling Server Actr.Protocol

variable {checks : Checks} {world : World} {server : Server} {relay assignment : ActrRelay} {actorId : ActrId}
variable {clientId requestEnvelopeId : String} {first second : List (String × SignalingEnvelope)}

theorem findClient_lookup {client : ClientConnection} (found : server.findClient actorId = some (clientId, client)) :
    server.clients.lookup clientId = some client := by
  obtain ⟨entry, listed, same⟩ := Option.map_eq_some_iff.mp found
  cases same
  exact AList.mem_lookup_iff.mpr (List.mem_of_find?_eq_some listed)

def delivery (server : Server) (actorId : ActrId) (relay : ActrRelay) : List (String × SignalingEnvelope) :=
  match server.findClient actorId with
  | some (clientId, client) => if client.receiverOpen then [(clientId, createNewEnvelope (.actrRelay relay))] else []
  | none => []

def reached (server : Server) (actorId : ActrId) : Option ActrId :=
  match server.findClient actorId with
  | some (_, client) => if client.receiverOpen then client.actorId else none
  | none => none

def blocked (server : Server) (actorId : ActrId) : Bool :=
  match server.findClient actorId with
  | some (_, client) => !client.receiverOpen
  | none => false

theorem sendRoleAssignment_eq :
    server.sendRoleAssignment actorId assignment =
      (if blocked server actorId then .error "channel closed" else .ok (),
        { server with sent := server.sent ++ delivery server actorId assignment }) := by
  unfold sendRoleAssignment blocked delivery
  rcases server.findClient actorId with _ | ⟨clientId, client⟩
  · simp
  · cases opened : client.receiverOpen <;> simp [opened, enqueue]

theorem forwardRelay_eq :
    (server.forwardRelay relay).2 = { server with sent := server.sent ++ delivery server relay.target relay } := by
  unfold forwardRelay delivery
  rcases found : server.findClient relay.target with _ | ⟨clientId, client⟩
  · simp
  · simp only [sendEnvelopeToClient, findClient_lookup found]
    cases opened : client.receiverOpen <;> simp [enqueue]

def assignmentOf (relay : ActrRelay) (negotiated peer : ActrId) (isOfferer : Bool) : ActrRelay :=
  ⟨negotiated, relay.credential, peer, some (.roleAssignment isOfferer none)⟩

def assignments (server : Server) (relay : ActrRelay) (negotiated peer : ActrId) : List (String × SignalingEnvelope) :=
  let isOfferer := server.determineWebrtcRole negotiated peer
  delivery server negotiated (assignmentOf relay negotiated peer isOfferer) ++
    if blocked server negotiated then [] else delivery server peer (assignmentOf relay negotiated peer !isOfferer)

theorem negotiateRoles_eq (negotiated peer : ActrId) :
    (server.negotiateRoles relay negotiated peer).2 =
      { server with sent := server.sent ++ assignments server relay negotiated peer } := by
  simp only [negotiateRoles, sendRoleAssignment_eq, assignments]
  cases blocked server negotiated with
  | true => simp [assignmentOf]
  | false =>
    simp only [Bool.false_eq_true, if_false, ← List.append_assoc]
    rfl

/-- Relayed messages go to the source or, with the leave of the rules, to the declared target. -/
def Sound (world : World) (server : Server) (relay : ActrRelay) (log : List (String × SignalingEnvelope)) : Prop :=
  ∀ clientId replyFor delivered, (clientId, ⟨replyFor, .actrRelay delivered⟩) ∈ log →
    ∀ client recipient, server.clients.lookup clientId = some client → client.actorId = some recipient →
      recipient ≠ relay.source →
        ActorAcl.canDiscover (world.acl (discoveryQuery relay.source recipient))
          (discoveryQuery relay.source recipient) = .ok true ∧ recipient = relay.target

theorem sound_append : Sound world server relay (first ++ second) ↔
    Sound world server relay first ∧ Sound world server relay second := by
  constructor
  · intro sound
    exact ⟨fun clientId replyFor delivered member => sound clientId replyFor delivered (List.mem_append_left _ member),
      fun clientId replyFor delivered member => sound clientId replyFor delivered (List.mem_append_right _ member)⟩
  · rintro ⟨former, latter⟩ clientId replyFor delivered member
    rcases List.mem_append.mp member with member | member
    · exact former clientId replyFor delivered member
    · exact latter clientId replyFor delivered member

def Party (relay : ActrRelay) (found : Option ActrId) : Prop :=
  ∀ recipient, found = some recipient → recipient = relay.source ∨ recipient = relay.target

theorem allowed_iff {query : AclQuery} :
    allowed world query ↔ ActorAcl.canDiscover (world.acl query) query = .ok true := by
  unfold allowed
  cases ActorAcl.canDiscover (world.acl query) query <;> simp

theorem sound_delivery (may : allowed world (discoveryQuery relay.source relay.target)) :
    Sound world server relay (delivery server actorId assignment) ↔ Party relay (reached server actorId) := by
  unfold delivery reached
  rcases found : server.findClient actorId with _ | ⟨clientId, client⟩
  · simp [Sound, Party]
  have connected := findClient_lookup found
  cases opened : client.receiverOpen with
  | false => simp [Sound, Party, opened]
  | true =>
    simp only [opened, if_true]
    constructor
    · intro sound recipient own
      by_cases same : recipient = relay.source
      · exact .inl same
      · exact .inr (sound clientId none assignment (List.mem_singleton_self _) client recipient connected own same).2
    · intro party target replyFor delivered member receiver recipient listed own foreign
      cases List.mem_singleton.mp member
      rw [connected] at listed
      cases listed
      rcases party recipient own with same | same
      · exact absurd same foreign
      · rw [same]
        exact ⟨allowed_iff.mp may, rfl⟩

def Accepted (checks : Checks) (world : World) (server : Server) (relay : ActrRelay) (clientId : String) : Prop :=
  (∃ realm, checks.validateRealm relay.source.realm.realmId = .ok realm) ∧
  allowed world (discoveryQuery relay.source relay.target) ∧
  (∃ claims inTolerancePeriod, checks.check relay.credential relay.source.realm.realmId = .ok (claims, inTolerancePeriod) ∧
    claims.actorId = relay.source.toStringRepr) ∧
  server.relaySourceConnectionStatus clientId relay.source = .current

/-- The lookups by realm and serial number lead to the source and the declared target themselves. -/
def Faithful (server : Server) (relay : ActrRelay) : Prop :=
  match relay.payload with
  | some (.roleNegotiation negotiated peer _) =>
    Party relay (reached server negotiated) ∧
      (blocked server negotiated = false → Party relay (reached server peer))
  | _ => Party relay (reached server relay.target)

theorem sound_refused {sender : Server} {code : Nat} {message : String} {replyFor : Option String}
    (same : sender.sent = server.sent) : Sound world server relay
      ((sender.sendErrorResponse clientId actorId code message replyFor).2.sent.drop server.sent.length) := by
  rw [← same]
  unfold sendErrorResponse sendEnvelopeToClient
  split
  · split
    · intro target replyFor delivered member
      simp [enqueue] at member
    · simp [Sound]
  · simp [Sound]

def deliveries (server : Server) (relay : ActrRelay) : List (String × SignalingEnvelope) :=
  match relay.payload with
  | some (.roleNegotiation negotiated peer _) => assignments server relay negotiated peer
  | _ => delivery server relay.target relay

theorem sent_accepted (accepted : Accepted checks world server relay clientId) :
    (handleActrRelay checks world server relay clientId requestEnvelopeId).2.sent =
      server.sent ++ deliveries server relay := by
  obtain ⟨⟨realm, active⟩, may, ⟨claims, inTolerancePeriod, checked, own⟩, current⟩ := accepted
  have stillCurrent : { server with decisions := server.decisions ++
      [(relay.source, discoveryQuery relay.source relay.target)] }.relaySourceConnectionStatus clientId relay.source =
        .current := current
  simp only [handleActrRelay, active, may, checked, own, stillCurrent, not_true_eq_false, if_false, ne_eq]
  split
  · next negotiated peer realmId negotiation =>
    rw [negotiateRoles_eq, deliveries, negotiation]
    rfl
  · next other =>
    rw [forwardRelay_eq, deliveries]
    split
    · next negotiation => exact absurd negotiation (other _ _ _)
    · rfl

theorem sound_unaccepted (unaccepted : ¬ Accepted checks world server relay clientId) : Sound world server relay
      ((handleActrRelay checks world server relay clientId requestEnvelopeId).2.sent.drop server.sent.length) := by
  simp only [handleActrRelay]
  split
  · exact sound_refused rfl
  · next realm active =>
    split
    · exact sound_refused rfl
    · next may =>
      split
      · exact sound_refused rfl
      · next claims inTolerancePeriod checked =>
        split
        · exact sound_refused rfl
        · next own =>
          split
          · simp [Sound]
          · next current =>
            exact absurd ⟨⟨realm, active⟩, not_not.mp may, ⟨claims, inTolerancePeriod, checked, not_not.mp own⟩,
              not_not.mp current⟩ unaccepted

theorem relay_reaches_parties_iff (checks : Checks) (world : World) (server : Server) (relay : ActrRelay)
    (clientId requestEnvelopeId : String) :
    Sound world server relay
        ((handleActrRelay checks world server relay clientId requestEnvelopeId).2.sent.drop server.sent.length) ↔
      (Accepted checks world server relay clientId → Faithful server relay) := by
  by_cases accepted : Accepted checks world server relay clientId
  · have may := accepted.2.1
    rw [sent_accepted accepted, List.drop_left, deliveries, Faithful, forall_prop_of_true accepted]
    split
    · rw [assignments, sound_append, sound_delivery may]
      apply and_congr_right
      intro _
      cases blocked server _ with
      | true => simp [Sound]
      | false => simp [sound_delivery may]
    · exact sound_delivery may
  · exact iff_of_true (sound_unaccepted accepted) fun holds => absurd holds accepted

def vault : ActrId := ⟨⟨7⟩, 9, ⟨"acme", "vault", "1.0.0"⟩⟩

def echoRules : AclTable := AclTable.empty.insert ⟨7, some 7, typeKey guest.type, typeKey host.type, true⟩

def besideVault : Server :=
  { Server.new with
    clients := AList.insert "guest" ⟨"guest", some guest, none, true⟩ (AList.singleton "vault" ⟨"vault", some vault, none, true⟩)
    actorIdIndex := AList.insert guest "guest" (AList.singleton vault "vault") }

def receivers (target : ActrId) (payload : RelayPayload) : List String :=
  (handleActrRelay guestChecks { quiet with acl _ := .ok echoRules } besideVault
    ⟨guest, guestCredential, target, some payload⟩ "guest" "request").2.sent.map Prod.fst

theorem denied_vault_is_reached :
    ActorAcl.canDiscover (.ok echoRules) (discoveryQuery guest vault) = .ok false ∧
    receivers { vault with type := host.type } (.iceCandidate []) = ["vault"] ∧
    receivers host (.roleNegotiation guest vault 7) = ["guest", "vault"] :=
  ⟨rfl, rfl, rfl⟩

end Actr.Proof.Signaling
