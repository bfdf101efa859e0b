import Actr.Actrix.Signaling.Requests
import Actr.Proof.Signaling.ServiceRegistry

/-! # In whose name a request acts -/

namespace Actr.Proof.Signaling
open Actrix.Signaling ServiceRegistry Actr.Protocol Library.Maps

def entriesOf (r : ServiceRegistry) (actorId : ActrId) (serviceName : String) : List ServiceInfo :=
  (r.instancesOf serviceName).filter fun service => service.actorId = actorId

def SparesEntries (actorId : ActrId) (r t : ServiceRegistry) : Prop :=
  ∀ serviceName, entriesOf t actorId serviceName = entriesOf r actorId serviceName

section Registry

variable {r t u : ServiceRegistry} {actorId other : ActrId}

theorem SparesEntries.trans (first : SparesEntries actorId r t) (second : SparesEntries actorId t u) :
    SparesEntries actorId r u :=
  fun serviceName => (second serviceName).trans (first serviceName)

theorem sparesEntries_insert {serviceName : String} {instances : List ServiceInfo}
    (services : t.services = r.services.insert serviceName instances)
    (kept : (instances.filter fun service => service.actorId = actorId) = entriesOf r actorId serviceName) :
    SparesEntries actorId r t := by
  intro name
  rw [entriesOf, instancesOf, services, listAt_insert]
  split
  · next same =>
    rw [same]
    exact kept
  · rfl

theorem filter_measured (distinct : other ≠ actorId) (metrics : LoadMetrics) (now : UInt64)
    (instances : List ServiceInfo) :
    ((instances.map fun service => if service.actorId = actorId then measured metrics now service else service).filter
      fun service => service.actorId = other) = instances.filter fun service => service.actorId = other := by
  induction instances with
  | nil => rfl
  | cons service rest ih =>
    by_cases own : service.actorId = actorId
    · have foreign : service.actorId ≠ other := own ▸ distinct.symm
      have still : (measured metrics now service).actorId ≠ other := foreign
      simp [own, still, distinct.symm, ih]
    · simp [own, List.filter_cons, ih]

theorem spares_updateLoadMetrics (distinct : other ≠ actorId) (metrics : LoadMetrics) (now : UInt64) :
    SparesEntries other r (r.updateLoadMetrics actorId metrics now).2 := by
  refine updateLoadMetrics_rule (fun _ => rfl) fun r spares serviceName => spares.trans ?_
  unfold mapInstances
  split
  · next instances found =>
    apply sparesEntries_insert rfl
    rw [filter_measured distinct, entriesOf, instancesOf, listAt_of_lookup found]
  · exact fun _ => rfl

theorem spares_restoreService {service : ServiceInfo} (distinct : other ≠ service.actorId) :
    SparesEntries other r (r.restoreService service).2 := by
  apply sparesEntries_insert rfl
  rw [List.filter_append, entriesOf]
  split <;> simp [distinct.symm]

section

variable (distinct : other ≠ actorId)
include distinct

theorem spares_restoreServiceFromStorage (loaded : Option (Except String (List ServiceInfo))) :
    SparesEntries other r (r.restoreServiceFromStorage actorId loaded).2 :=
  restoreServiceFromStorage_rule (fun _ spares _ own => spares.trans (spares_restoreService (own ▸ distinct))) loaded
    fun _ => rfl

theorem spares_unregisterService (serviceName : String) :
    SparesEntries other r (r.unregisterServiceMemoryOnly actorId serviceName).2 := by
  intro name
  unfold entriesOf
  rw [instancesOf_unregister]
  split
  · next same =>
    rw [same, List.filter_filter]
    apply List.filter_congr
    intro service _
    by_cases own : service.actorId = other <;> simp [own, distinct]
  · rfl

theorem spares_foldl (names : List String) (spares : SparesEntries other r t) :
    SparesEntries other r (names.foldl (fun r name => (r.unregisterServiceMemoryOnly actorId name).2) t) :=
  List.foldlRecOn (motive := SparesEntries other r) _ _ spares fun _ spares name _ =>
    spares.trans (spares_unregisterService distinct name)

theorem spares_unregisterActor : SparesEntries other r (r.unregisterActor actorId) := by
  unfold unregisterActor
  split
  · exact spares_foldl distinct _ fun _ => rfl
  · exact fun _ => rfl

theorem spares_unregisterActorMemoryOnly : SparesEntries other r (r.unregisterActorMemoryOnly actorId) := by
  unfold unregisterActorMemoryOnly
  split
  · exact spares_foldl distinct _ fun _ => rfl
  · exact fun _ => rfl

end

end Registry

section Subscriptions

variable {manager : PresenceManager} {subscriber other : ActrId} {targetType wanted : ActrType}

theorem mem_subscribe : other ∈ (manager.subscribe subscriber targetType).getSubscribers wanted ↔
      other ∈ manager.getSubscribers wanted ∨ wanted = targetType ∧ other = subscriber := by
  rw [PresenceManager.subscribe, PresenceManager.getSubscribers, listAt_insert]
  split
  · next same =>
    rw [same, mem_pushNew]
    simp
  · next different => simp [different, PresenceManager.getSubscribers]

theorem mem_unsubscribe :
    other ∈ (manager.unsubscribe subscriber targetType).2.getSubscribers wanted ↔
      other ∈ manager.getSubscribers wanted ∧ ¬ (wanted = targetType ∧ other = subscriber) := by
  cases found : manager.subscriptions.lookup targetType with
  | none =>
    simp only [PresenceManager.unsubscribe, found, PresenceManager.getSubscribers]
    have absent := listAt_of_lookup_none found
    constructor
    · intro member
      refine ⟨member, ?_⟩
      rintro ⟨rfl, _⟩
      rw [absent] at member
      cases member
    · exact fun member => member.1
  | some subscribers =>
    have listed : manager.getSubscribers targetType = subscribers := listAt_of_lookup found
    have left : (manager.unsubscribe subscriber targetType).2.getSubscribers wanted =
        if wanted = targetType then subscribers.filter (· ≠ subscriber) else manager.getSubscribers wanted := by
      simp only [PresenceManager.unsubscribe, found]
      split
      · split
        · next empty =>
          rw [PresenceManager.getSubscribers, listAt_erase, List.isEmpty_iff.mp empty]
          rfl
        · exact listAt_insert
      · exact listAt_insert
    rw [left]
    split
    · next same =>
      subst same
      simp [listed]
    · next different => simp [different]

end Subscriptions

structure Untouched (actorId : ActrId) (before after : Server) : Prop where
  entries : SparesEntries actorId before.serviceRegistry after.serviceRegistry
  subscriptions : ∀ targetType, actorId ∈ after.presenceManager.getSubscribers targetType ↔
    actorId ∈ before.presenceManager.getSubscribers targetType
  decisions : (after.decisions.filter fun decision => decision.1 = actorId) =
    before.decisions.filter fun decision => decision.1 = actorId

section Server

variable {server after : Server} {actorId source other : ActrId} {clientId : String} {world : World}

theorem untouched_refl : Untouched actorId server server := ⟨fun _ => rfl, fun _ => Iff.rfl, rfl⟩

theorem send_only_sends (server : Server) (clientId : String) (envelope : SignalingEnvelope) :
    ∃ sent, (server.sendEnvelopeToClient clientId envelope).2 = { server with sent } := by
  unfold Server.sendEnvelopeToClient
  split
  · split
    · exact ⟨_, rfl⟩
    · exact ⟨server.sent, rfl⟩
  · exact ⟨server.sent, rfl⟩

theorem untouched_send_iff {envelope : SignalingEnvelope} :
    Untouched actorId server (after.sendEnvelopeToClient clientId envelope).2 ↔ Untouched actorId server after := by
  obtain ⟨sent, same⟩ := send_only_sends after clientId envelope
  rw [same]
  constructor
  all_goals
    intro untouched
    exact ⟨untouched.entries, untouched.subscriptions, untouched.decisions⟩

theorem Untouched.send {envelope : SignalingEnvelope} (untouched : Untouched actorId server after) :
    Untouched actorId server (after.sendEnvelopeToClient clientId envelope).2 :=
  untouched_send_iff.mpr untouched

theorem pinged_rule {P : ServiceRegistry → Prop} {registry : ServiceRegistry} {ping : Ping} {now : UInt64}
    (update : ∀ r, P r → P (r.updateLoadMetrics source ping.metrics now).2)
    (restore : ∀ r, P r → P (r.restoreServiceFromStorage source world.storage).2) (start : P registry) :
    P (Server.pinged world registry source ping now) := by
  have updated := update registry start
  unfold Server.pinged
  split
  · next first =>
    rw [first] at updated
    exact updated
  · next registry first =>
    rw [first] at updated
    have restored := restore registry updated
    split
    · next second =>
      rw [second] at restored
      exact update _ restored
    · next second =>
      rw [second] at restored
      exact restored

theorem spares_pinged (distinct : other ≠ source) (registry : ServiceRegistry) (ping : Ping) (now : UInt64) :
    SparesEntries other registry (Server.pinged world registry source ping now) :=
  pinged_rule (fun _ spares => spares.trans (spares_updateLoadMetrics distinct ping.metrics now))
    (fun _ spares => spares.trans (spares_restoreServiceFromStorage distinct world.storage)) fun _ => rfl

end Server

end Actr.Proof.Signaling
