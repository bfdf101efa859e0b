import Actr.Proof.Signaling.ActorIndex
import Actr.Proof.Signaling.Requests

/-! # The entries of an actor in the service registry -/

namespace Actr.Proof.Signaling
open Actrix.Signaling ServiceRegistry Actr.Protocol Library.Maps

variable {metrics : LoadMetrics} {loaded : Option (Except String (List ServiceInfo))} {order : List String}

def Live (r : ServiceRegistry) (actorId : ActrId) (name : String) : Prop :=
  ∃ service ∈ r.instancesOf name, service.actorId = actorId ∧ service.isRestoredFromStorage = false

section Entries

variable {r t u : ServiceRegistry} {actorId other source : ActrId} {serviceName name : String} {service : ServiceInfo}
variable {services : List ServiceInfo}

theorem Live.mem_actorsOf (live : Live r actorId name) : actorId ∈ actorsOf r name := by
  obtain ⟨service, listed, own, -⟩ := live
  exact Signaling.mem_actorsOf.mpr ⟨service, listed, own⟩

theorem mem_all : service ∈ r.all ↔ ∃ name, service ∈ r.instancesOf name :=
  List.mem_flatMap.trans exists_mem_entry

theorem absent_iff : (∀ service ∈ r.all, service.actorId ≠ actorId) ↔ ∀ name, actorId ∉ actorsOf r name := by
  constructor
  · intro absent name member
    obtain ⟨service, listed, own⟩ := mem_actorsOf.mp member
    exact absent service (mem_all.mpr ⟨name, listed⟩) own
  · intro absent service member own
    obtain ⟨name, listed⟩ := mem_all.mp member
    exact absent name (mem_actorsOf.mpr ⟨service, listed, own⟩)

theorem ActorExact.lookup_none (inv : ActorExact r) (absent : ∀ name, actorId ∉ actorsOf r name) :
    r.actorIndex.lookup actorId = none := by
  cases found : r.actorIndex.lookup actorId with
  | none => rfl
  | some names =>
    cases names with
    | nil => exact absurd found (inv.fullIndex actorId)
    | cons first =>
      have listed : first ∈ namesOf r.actorIndex actorId := by
        rw [namesOf, listAt_of_lookup found]
        exact List.mem_cons_self
      exact absurd ((inv.exact actorId first).mp listed) (absent first)

theorem mem_entriesOf : service ∈ entriesOf r actorId name ↔ service ∈ r.instancesOf name ∧ service.actorId = actorId := by
  simp [entriesOf]

theorem SparesEntries.mem_actorsOf (spares : SparesEntries actorId r t) (member : actorId ∈ actorsOf t name) :
    actorId ∈ actorsOf r name := by
  obtain ⟨service, own⟩ := Signaling.mem_actorsOf.mp member
  rw [← mem_entriesOf, spares name, mem_entriesOf] at own
  exact Signaling.mem_actorsOf.mpr ⟨service, own⟩

theorem SparesEntries.live (spares : SparesEntries actorId r t) (live : Live r actorId name) :
    Live t actorId name := by
  obtain ⟨service, listed, own, registered⟩ := live
  have kept := mem_entriesOf.mpr ⟨listed, own⟩
  rw [← spares name] at kept
  exact ⟨service, (mem_entriesOf.mp kept).1, own, registered⟩

def Carries (r t : ServiceRegistry) : Prop :=
  ∀ name, ∀ service ∈ r.instancesOf name, ∃ kept ∈ t.instancesOf name,
    kept.actorId = service.actorId ∧ kept.isRestoredFromStorage = service.isRestoredFromStorage

theorem Carries.refl : Carries r r := fun _ service listed => ⟨service, listed, rfl, rfl⟩

theorem Carries.trans (first : Carries r t) (second : Carries t u) : Carries r u := by
  intro name service listed
  obtain ⟨middle, listed, own, registered⟩ := first name service listed
  obtain ⟨kept, listed, own', registered'⟩ := second name middle listed
  exact ⟨kept, listed, own'.trans own, registered'.trans registered⟩

theorem Carries.live (carries : Carries r t) (live : Live r actorId name) : Live t actorId name := by
  obtain ⟨service, listed, own, registered⟩ := live
  obtain ⟨kept, listed, own', registered'⟩ := carries name service listed
  exact ⟨kept, listed, own'.trans own, registered'.trans registered⟩

theorem carries_insert {instances : List ServiceInfo}
    (services : t.services = r.services.insert serviceName instances)
    (kept : ∀ service ∈ r.instancesOf serviceName, ∃ kept ∈ instances,
      kept.actorId = service.actorId ∧ kept.isRestoredFromStorage = service.isRestoredFromStorage) : Carries r t := by
  intro name service listed
  rw [instancesOf, services, listAt_insert]
  split
  · next same =>
    subst same
    exact kept service listed
  · exact ⟨service, listed, rfl, rfl⟩

theorem carries_mapInstances {change : ServiceInfo → ServiceInfo}
    (same : ∀ service, (change service).actorId = service.actorId ∧
      (change service).isRestoredFromStorage = service.isRestoredFromStorage) :
    Carries r (r.mapInstances serviceName (List.map change)) := by
  unfold mapInstances
  split
  · next instances found =>
    apply carries_insert rfl
    intro service listed
    rw [instancesOf, listAt_of_lookup found] at listed
    exact ⟨change service, List.mem_map.mpr ⟨service, listed, rfl⟩, same service⟩
  · exact .refl

theorem carries_updateLoadMetrics {now : UInt64} : Carries r (r.updateLoadMetrics actorId metrics now).2 := by
  refine updateLoadMetrics_rule .refl fun r carries name => carries.trans (carries_mapInstances ?_)
  intro service
  split
  · exact ⟨rfl, rfl⟩
  · exact ⟨rfl, rfl⟩

theorem carries_restoreService : Carries r (r.restoreService service).2 := by
  apply carries_insert rfl
  intro present listed
  exact ⟨present, List.mem_append_left _ listed, rfl, rfl⟩

theorem carries_restoreServiceFromStorage : Carries r (r.restoreServiceFromStorage actorId loaded).2 :=
  restoreServiceFromStorage_rule (fun _ carries _ _ => carries.trans carries_restoreService) loaded .refl

variable {messageTypes : List String} {wsAddress : Option String} {now : UInt64}

theorem mem_actorsOf_register :
    other ∈ actorsOf (r.registerServiceFull actorId serviceName messageTypes wsAddress now) name →
      other = actorId ∨ other ∈ actorsOf r name := by
  obtain ⟨kept, sublist, -, listed⟩ := declared_register r actorId serviceName messageTypes wsAddress now
  unfold actorsOf
  rw [listed]
  split
  · next same =>
    subst same
    rw [List.map_append, List.mem_append]
    rintro (old | new)
    · exact .inr ((sublist.map Prod.fst).subset old)
    · exact .inl (List.mem_singleton.mp new)
  · exact .inr

theorem instancesOf_register (r : ServiceRegistry) (actorId : ActrId) (serviceName : String)
    (messageTypes : List String)
    (wsAddress : Option String) (now : UInt64) : ∃ registered : ServiceInfo,
      (∀ name, (r.registerServiceFull actorId serviceName messageTypes wsAddress now).instancesOf name =
        if name = serviceName then ((r.instancesOf serviceName).filter fun service =>
            ¬ service.isRestoredFromStorage ∧ service.actorId ≠ actorId) ++ [registered] else r.instancesOf name) ∧
      registered.actorId = actorId ∧ registered.isRestoredFromStorage = false :=
  ⟨_, fun _ => listAt_insert, rfl, rfl⟩

theorem live_register : Live (r.registerServiceFull actorId serviceName messageTypes wsAddress now) actorId serviceName := by
  obtain ⟨registered, listed, own, new⟩ := instancesOf_register r actorId serviceName messageTypes wsAddress now
  refine ⟨registered, ?_, own, new⟩
  rw [listed, if_pos rfl]
  exact List.mem_append_right _ List.mem_cons_self

theorem Live.register (live : Live r other name) :
    Live (r.registerServiceFull actorId serviceName messageTypes wsAddress now) other name := by
  obtain ⟨registered, listed, -, -⟩ := instancesOf_register r actorId serviceName messageTypes wsAddress now
  obtain ⟨service, member, own, new⟩ := live
  by_cases same : name = serviceName
  · subst same
    by_cases mine : other = actorId
    · subst mine
      exact live_register
    · refine ⟨service, ?_, own, new⟩
      rw [listed, if_pos rfl]
      apply List.mem_append_left
      apply List.mem_filter.mpr
      simp [member, new, own, mine]
  · refine ⟨service, ?_, own, new⟩
    rw [listed, if_neg same]
    exact member

theorem Live.cleanup (live : Live r actorId name)
    (current : ∀ service ∈ r.instancesOf name, service.actorId = actorId → name ∈ order → expired now service = false) :
    Live (r.cleanupExpiredServices now order) actorId name := by
  obtain ⟨service, listed, own, fresh⟩ := live
  refine ⟨service, ?_, own, fresh⟩
  unfold cleanupExpiredServices
  rw [instancesOf_foldl]
  refine List.mem_filter.mpr ⟨listed, decide_eq_true ?_⟩
  rintro pair member ⟨owner, rfl⟩
  obtain ⟨serviceName, ordered, member⟩ := List.mem_flatMap.mp member
  obtain ⟨other, found, rfl⟩ := List.mem_map.mp member
  obtain ⟨found, old⟩ := List.mem_filter.mp found
  rw [current other found (owner.symm.trans own) ordered] at old
  cases old

theorem mem_actorsOf_cleanup (member : other ∈ actorsOf (r.cleanupExpiredServices now order) name) :
    other ∈ actorsOf r name :=
  ((mem_actorsOf_foldl Prod.fst Prod.snd).mp member).1

theorem absent_releaseServices (inv : ActorExact r) (mode : Server.CleanupMode) (name : String) :
    actorId ∉ actorsOf (Server.releaseServices r actorId mode) name := by
  have unindexed (found : r.actorIndex.lookup actorId = none) : actorId ∉ actorsOf r name := by
    intro member
    have listed := (inv.exact actorId name).mpr member
    rw [namesOf, listAt_of_lookup_none found] at listed
    cases listed
  have indexed {names : List String} (found : r.actorIndex.lookup actorId = some names) (start : ServiceRegistry)
      (same : actorsOf start name = actorsOf r name) : actorId ∉ actorsOf (names.foldl (fun r serviceName =>
        (r.unregisterServiceMemoryOnly actorId serviceName).2) start) name := by
    intro member
    obtain ⟨member, kept⟩ := (mem_actorsOf_foldl (fun _ => actorId) id).mp member
    have listed := (inv.exact actorId name).mpr (same ▸ member)
    rw [namesOf, listAt_of_lookup found] at listed
    exact kept name listed ⟨rfl, rfl⟩
  cases mode with
  | connectionClosed =>
    change actorId ∉ actorsOf (r.unregisterActorMemoryOnly actorId) name
    unfold unregisterActorMemoryOnly
    split
    · next names found => exact indexed found r rfl
    · next found => exact unindexed found
  | explicitUnregister =>
    change actorId ∉ actorsOf (r.unregisterActor actorId) name
    unfold unregisterActor
    split
    · next names found => exact indexed found _ rfl
    · next found => exact unindexed found

theorem ActorExact.releaseServices (inv : ActorExact r) (mode : Server.CleanupMode) :
    ActorExact (Server.releaseServices r actorId mode) := by
  cases mode with
  | connectionClosed => exact inv.unregisterActorMemoryOnly actorId
  | explicitUnregister => exact inv.unregisterActor actorId

theorem spares_releaseServices (distinct : other ≠ actorId) (mode : Server.CleanupMode) :
    SparesEntries other r (Server.releaseServices r actorId mode) := by
  cases mode with
  | connectionClosed => exact spares_unregisterActorMemoryOnly distinct
  | explicitUnregister => exact spares_unregisterActor distinct

variable {world : World} {ping : Ping}

def stored : Option (Except String (List ServiceInfo)) → List ServiceInfo
  | some (.ok services) => services
  | _ => []

theorem ActorExact.pinged (inv : ActorExact r) : ActorExact (Server.pinged world r source ping now) :=
  pinged_rule (fun _ inv => inv.same same_updateLoadMetrics)
    (fun _ inv => inv.restoreServiceFromStorage source world.storage) inv

theorem carries_pinged : Carries r (Server.pinged world r source ping now) :=
  pinged_rule (fun _ carries => carries.trans carries_updateLoadMetrics)
    (fun _ carries => carries.trans carries_restoreServiceFromStorage) .refl

theorem updateLoadMetrics_of_unindexed (unindexed : r.actorIndex.lookup actorId = none) :
    r.updateLoadMetrics actorId metrics now =
      (.error ("未找到 Actor " ++ toString actorId.serialNumber ++ " 的服务注册"), r) := by
  unfold updateLoadMetrics
  rw [unindexed]

theorem restored_of_foreign (foreign : ∀ service ∈ services, service.actorId ≠ actorId)
    (state : Nat × ServiceRegistry) : services.foldl (restoreMatching actorId) state = state := by
  induction services with
  | nil => rfl
  | cons first rest ih =>
    have skipped : restoreMatching actorId state first = state := if_pos (foreign first List.mem_cons_self)
    rw [List.foldl_cons, skipped]
    exact ih fun service member => foreign service (List.mem_cons_of_mem _ member)

theorem pinged_of_foreign (unindexed : r.actorIndex.lookup source = none)
    (foreign : ∀ service ∈ stored world.storage, service.actorId ≠ source) :
    Server.pinged world r source ping now = r := by
  have restored : (r.restoreServiceFromStorage source world.storage).1 ≠ .ok true ∧
      (r.restoreServiceFromStorage source world.storage).2 = r := by
    unfold restoreServiceFromStorage
    split
    · simp
    · simp
    · next services found =>
      have foreign' : ∀ service ∈ services, service.actorId ≠ source := by
        rw [found] at foreign
        exact foreign
      rw [restored_of_foreign foreign']
      simp
  unfold Server.pinged
  rw [updateLoadMetrics_of_unindexed unindexed]
  simp only
  split
  · next second =>
    rw [second] at restored
    exact absurd rfl restored.1
  · next second =>
    rw [second] at restored
    exact restored.2

def rowKey (service : ServiceInfo) : Nat × Nat × String :=
  (service.actorId.serialNumber, service.actorId.realm.realmId, service.serviceName)

theorem actorsOf_restoreEntry : actorsOf (r.restoreEntry service) name =
      if name = service.serviceName then actorsOf r name ++ [service.actorId] else actorsOf r name := by
  unfold actorsOf
  rw [declared_restoreEntry]
  split
  · rw [List.map_append]
    rfl
  · rfl

theorem ActorExact.restoreEntry (inv : ActorExact r) (new : service.actorId ∉ actorsOf r service.serviceName) :
    ActorExact (r.restoreEntry service) := by
  have unlisted : service.serviceName ∉ namesOf r.actorIndex service.actorId := by
    rw [inv.exact]
    exact new
  have indexed (other : ActrId) : namesOf (r.restoreEntry service).actorIndex other =
      namesOf r.actorIndex other ++ if other = service.actorId then [service.serviceName] else [] := namesOf_pushName
  constructor
  case full => exact full_insert inv.full (List.append_ne_nil_of_right_ne_nil _ (List.cons_ne_nil _ _))
  case unique =>
    intro name
    rw [actorsOf_restoreEntry]
    split
    · next same =>
      subst same
      exact Library.Slots.nodup_snoc (inv.unique _) new
    · exact inv.unique name
  case fullIndex => exact full_pushName inv.fullIndex
  case nodup =>
    intro other
    rw [indexed]
    split
    · next same =>
      subst same
      exact Library.Slots.nodup_snoc (inv.nodup _) unlisted
    · rw [List.append_nil]
      exact inv.nodup other
  case exact =>
    intro other name
    rw [indexed, actorsOf_restoreEntry]
    by_cases mine : other = service.actorId
    · by_cases named : name = service.serviceName
      · simp [mine, named]
      · simp [mine, named, inv.exact]
    · by_cases named : name = service.serviceName
      · simp [mine, named, inv.exact]
      · simp [mine, named, inv.exact]

theorem ActorExact.restoreEntries (inv : ActorExact r) (distinct : (services.map rowKey).Nodup)
    (new : ∀ service ∈ services, service.actorId ∉ actorsOf r service.serviceName) :
    ActorExact (services.foldl ServiceRegistry.restoreEntry r) := by
  induction services generalizing r with
  | nil => exact inv
  | cons first rest ih =>
    obtain ⟨fresh, distinct⟩ := List.nodup_cons.mp distinct
    refine ih (inv.restoreEntry (new first List.mem_cons_self)) distinct ?_
    intro service member
    rw [actorsOf_restoreEntry]
    have old := new service (List.mem_cons_of_mem _ member)
    split
    · next named =>
      rw [List.mem_append, not_or]
      refine ⟨old, ?_⟩
      rintro own
      have same : rowKey service = rowKey first := by
        unfold rowKey
        rw [List.mem_singleton.mp own, named]
      exact fresh (List.mem_map.mpr ⟨service, member, same⟩)
    · exact old

theorem actorExact_restored (keyed : ((stored loaded).map rowKey).Nodup) :
    ActorExact (ServiceRegistry.empty.restoreFromStorage loaded).2 := by
  unfold ServiceRegistry.restoreFromStorage
  split
  · exact actorExact_empty
  · apply actorExact_empty.restoreEntries keyed
    intro service _ listed
    cases listed
  · exact actorExact_empty

end Entries

end Actr.Proof.Signaling
