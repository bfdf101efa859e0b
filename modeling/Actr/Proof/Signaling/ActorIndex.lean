import Actr.Proof.Signaling.ServiceRegistry

/-! # The actor index is exact -/

namespace Actr.Proof.Signaling
open Actrix.Signaling ServiceRegistry Actr.Protocol
open Library.Maps Library.Machine

variable {names : List String}

structure ActorExact (r : ServiceRegistry) : Prop where
  full : Full r.services
  unique : ∀ name, (actorsOf r name).Nodup
  fullIndex : Full r.actorIndex
  nodup : ∀ actorId, (namesOf r.actorIndex actorId).Nodup
  exact : ∀ actorId name, name ∈ namesOf r.actorIndex actorId ↔ actorId ∈ actorsOf r name

section Steps

variable {r t : ServiceRegistry} {actorId : ActrId} {serviceName : String} {name : String}

theorem actorsOf_congr (same : declared t name = declared r name) : actorsOf t name = actorsOf r name :=
  congrArg (List.map Prod.fst) same

theorem ActorExact.same (inv : ActorExact r) (same : Same r t) : ActorExact t where
  full := same.full inv.full
  unique name := by
    rw [actorsOf_congr (same.declared name)]
    exact inv.unique name
  fullIndex := by
    rw [same.actors]
    exact inv.fullIndex
  nodup actorId := by
    rw [same.actors]
    exact inv.nodup actorId
  exact actorId name := by
    rw [same.actors, actorsOf_congr (same.declared name)]
    exact inv.exact actorId name

theorem ActorExact.register (inv : ActorExact r) (actorId : ActrId) (serviceName : String)
    (messageTypes : List String) (wsAddress : Option String) (now : UInt64) :
    ActorExact (r.registerServiceFull actorId serviceName messageTypes wsAddress now) := by
  obtain ⟨kept, sublist, others, listed⟩ := declared_register r actorId serviceName messageTypes wsAddress now
  have elsewhere : ∀ name, name ≠ serviceName →
      actorsOf (r.registerServiceFull actorId serviceName messageTypes wsAddress now) name = actorsOf r name := by
    intro name different
    exact actorsOf_congr ((listed name).trans (if_neg different))
  constructor
  case full => exact full_register inv.full
  case unique =>
    intro name
    by_cases same : name = serviceName
    · subst same
      rw [actorsOf, listed, if_pos rfl, List.map_append]
      refine Library.Slots.nodup_snoc ((inv.unique name).sublist (sublist.map Prod.fst)) ?_
      intro member
      obtain ⟨entry, listed, same⟩ := List.mem_map.mp member
      exact others entry listed same
    · rw [elsewhere name same]
      exact inv.unique name
  case fullIndex => exact rebuild_full
  case nodup =>
    intro other
    rw [actors_register]
    have filtered := (inv.nodup other).filter fun name => decide (name ≠ serviceName)
    split
    · exact Library.Slots.nodup_snoc filtered (by simp)
    · rw [List.append_nil]
      exact filtered
  case exact =>
    intro other name
    rw [actors_register, List.mem_append, List.mem_filter, decide_eq_true_eq]
    by_cases same : name = serviceName
    · subst same
      split
      · next present => simp [present]
      · next absent => simp [absent]
    · rw [elsewhere name same, ← inv.exact other name]
      split
      · simp [same]
      · simp [same]

theorem mem_actorsOf_unregister {other : ActrId} :
    other ∈ actorsOf (r.unregisterServiceMemoryOnly actorId serviceName).2 name ↔
      other ∈ actorsOf r name ∧ ¬ (name = serviceName ∧ other = actorId) := by
  have removed := @mem_actorsOf_foldl r other name _ [(actorId, serviceName)] Prod.fst Prod.snd
  simpa [and_comm] using removed

theorem sublist_actorsOf_unregister (name : String) :
    (actorsOf (r.unregisterServiceMemoryOnly actorId serviceName).2 name).Sublist (actorsOf r name) := by
  simp only [actorsOf, declared_unregister]
  split
  · next same =>
    rw [same]
    exact List.filter_sublist.map Prod.fst
  · exact List.Sublist.refl _

theorem mem_namesOf_unregister {other : ActrId}
    (listed : serviceName ∈ namesOf r.actorIndex actorId → actorId ∈ actorsOf r serviceName) :
    name ∈ namesOf (r.unregisterServiceMemoryOnly actorId serviceName).2.actorIndex other ↔
      name ∈ namesOf r.actorIndex other ∧ ¬ (name = serviceName ∧ other = actorId) := by
  rw [actors_unregister listed]
  by_cases same : other = actorId
  · subst same
    simp
  · simp [same]

theorem nodup_unregister (nodup : ∀ other, (namesOf r.actorIndex other).Nodup)
    (listed : serviceName ∈ namesOf r.actorIndex actorId → actorId ∈ actorsOf r serviceName) (other : ActrId) :
    (namesOf (r.unregisterServiceMemoryOnly actorId serviceName).2.actorIndex other).Nodup := by
  rw [actors_unregister listed]
  split
  · exact (nodup actorId).filter _
  · exact nodup other

theorem ActorExact.unregister (inv : ActorExact r) (actorId : ActrId) (serviceName : String) :
    ActorExact (r.unregisterServiceMemoryOnly actorId serviceName).2 := by
  have listed := (inv.exact actorId serviceName).mp
  constructor
  case full => exact full_unregister inv.full
  case unique =>
    intro name
    exact (inv.unique name).sublist (sublist_actorsOf_unregister name)
  case fullIndex => exact fullActors_unregister inv.fullIndex
  case nodup => exact nodup_unregister inv.nodup listed
  case exact =>
    intro other name
    rw [mem_namesOf_unregister listed, mem_actorsOf_unregister, inv.exact other name]

structure Leaving (actorId : ActrId) (r t : ServiceRegistry) : Prop where
  full : Full t.services
  fullIndex : Full t.actorIndex
  names : ∀ other, namesOf t.actorIndex other = if other = actorId then [] else namesOf r.actorIndex other

theorem Leaving.unregister (leaving : Leaving actorId r t) :
    Leaving actorId r (t.unregisterServiceMemoryOnly actorId serviceName).2 where
  full := full_unregister leaving.full
  fullIndex := fullActors_unregister leaving.fullIndex
  names other := by
    have gone := (leaving.names actorId).trans (if_pos rfl)
    rw [actors_unregister (by rw [gone]; nofun), gone, leaving.names]
    split
    · rfl
    · rfl

theorem ActorExact.unregisterActor (inv : ActorExact r) (actorId : ActrId) :
    ActorExact (r.unregisterActor actorId) := by
  unfold ServiceRegistry.unregisterActor
  split
  · next names found =>
    have mine : namesOf r.actorIndex actorId = names := listAt_of_lookup found
    have leaving : Leaving actorId r { r with actorIndex := r.actorIndex.erase actorId } :=
      ⟨inv.full, full_erase inv.fullIndex, fun _ => listAt_erase⟩
    have left := List.foldlRecOn (motive := Leaving actorId r) names
      (fun r name => (r.unregisterService actorId name).2) leaving fun _ leaving _ _ => leaving.unregister
    refine ⟨left.full, ?_, left.fullIndex, ?_, ?_⟩
    · intro name
      have fewer := @instancesOf_foldl { r with actorIndex := r.actorIndex.erase actorId } name _ names
        (fun _ => actorId) id
      refine (inv.unique name).sublist (.map Prod.fst (.map declaration ?_))
      exact fewer ▸ List.filter_sublist
    · intro other
      refine (left.names other) ▸ ?_
      split
      · exact List.nodup_nil
      · exact inv.nodup other
    · intro other name
      refine (left.names other) ▸ ?_
      refine Iff.trans ?_ (mem_actorsOf_foldl (fun _ => actorId) id).symm
      change _ ↔ other ∈ actorsOf r name ∧ _
      rw [← inv.exact, ← mine]
      by_cases same : other = actorId
      · simp [same]
      · simp [same]
  · exact inv

theorem ActorExact.unregisterActorMemoryOnly (inv : ActorExact r) (actorId : ActrId) :
    ActorExact (r.unregisterActorMemoryOnly actorId) := by
  unfold ServiceRegistry.unregisterActorMemoryOnly
  split
  · exact List.foldlRecOn (motive := ActorExact) _ _ inv fun _ inv name _ => inv.unregister actorId name
  · exact inv

theorem ActorExact.cleanup (inv : ActorExact r) (now : UInt64) (order : List String) :
    ActorExact (r.cleanupExpiredServices now order) :=
  List.foldlRecOn (motive := ActorExact) _ _ inv fun _ inv pair _ => inv.unregister pair.1 pair.2

theorem ActorExact.restoreService (inv : ActorExact r) (service : ServiceInfo) :
    ActorExact (r.restoreService service).2 := by
  constructor
  case full => exact full_restoreService inv.full
  case unique =>
    intro name
    rw [actorsOf_restoreService]
    split
    · exact nodup_pushNew (inv.unique name)
    · exact inv.unique name
  case fullIndex => exact fullActors_restoreService inv.fullIndex
  case nodup =>
    intro other
    rw [actors_restoreService]
    split
    · exact nodup_pushNew (inv.nodup other)
    · exact inv.nodup other
  case exact =>
    intro other name
    rw [actors_restoreService, actorsOf_restoreService]
    by_cases mine : other = service.actorId
    · by_cases named : name = service.serviceName
      · simp [mine, named, mem_pushNew]
      · simp [mine, named, mem_pushNew, inv.exact]
    · by_cases named : name = service.serviceName
      · simp [mine, named, mem_pushNew, inv.exact]
      · simp [mine, named, inv.exact]

theorem ActorExact.restoreServiceFromStorage (inv : ActorExact r) (actorId : ActrId)
    (loaded : Option (Except String (List ServiceInfo))) :
    ActorExact (r.restoreServiceFromStorage actorId loaded).2 :=
  restoreServiceFromStorage_rule (fun _ inv service _ => inv.restoreService service) loaded inv

end Steps

section Results

def isBulkRestore : Action → Bool
  | .restoreFromStorage _ => true
  | _ => false

theorem actorExact_empty : ActorExact empty where
  full _ := by nofun
  unique _ := List.nodup_nil
  fullIndex _ := by nofun
  nodup _ := List.nodup_nil
  exact _ _ := by
    constructor
    · nofun
    · nofun

theorem actorExact_step {r t : ServiceRegistry} {action : Action} (inv : ActorExact r)
    (online : isBulkRestore action = false) (taken : step r action = some t) : ActorExact t := by
  cases action with
  | restoreFromStorage => cases online
  | registerServiceFull actorId serviceName messageTypes wsAddress now =>
    cases taken
    exact inv.register actorId serviceName messageTypes wsAddress now
  | restoreServiceFromStorage actorId loaded =>
    cases taken
    exact inv.restoreServiceFromStorage actorId loaded
  | updateLoadMetrics =>
    cases taken
    exact inv.same same_updateLoadMetrics
  | updateServiceStatus =>
    cases taken
    exact inv.same same_updateServiceStatus
  | unregisterService actorId serviceName =>
    cases taken
    exact inv.unregister actorId serviceName
  | unregisterActor actorId =>
    cases taken
    exact inv.unregisterActor actorId
  | unregisterActorMemoryOnly actorId =>
    cases taken
    exact inv.unregisterActorMemoryOnly actorId
  | cleanupExpiredServices now order =>
    obtain ⟨-, rfl⟩ := of_guard taken
    exact inv.cleanup now order

theorem actor_index_exact (actions : List Action) (r : ServiceRegistry)
    (online : ∀ action ∈ actions, isBulkRestore action = false) (run : exec step empty actions = some r) :
    (∀ name, r.services.lookup name ≠ some []) ∧ (∀ name, ((r.instancesOf name).map (·.actorId)).Nodup) ∧
    (∀ actorId, r.actorIndex.lookup actorId ≠ some []) ∧ (∀ actorId, (namesOf r.actorIndex actorId).Nodup ∧
      ∀ name, name ∈ namesOf r.actorIndex actorId ↔ ∃ service ∈ r.instancesOf name, service.actorId = actorId) := by
  have inv : ActorExact r := by
    refine exec_invariant_on ?_ online actorExact_empty run
    intro s action t inv online taken
    exact actorExact_step inv online taken
  have actors : ∀ name, actorsOf r name = (r.instancesOf name).map (·.actorId) := by
    intro name
    simp only [actorsOf, declared, List.map_map]
    rfl
  refine ⟨inv.full, ?_, inv.fullIndex, ?_⟩
  · intro name
    rw [← actors]
    exact inv.unique name
  · intro actorId
    refine ⟨inv.nodup actorId, ?_⟩
    intro name
    rw [inv.exact actorId name, actors, List.mem_map]

def departure : List Action :=
  [.registerServiceFull (echo 1) "chat" ["Say"] none 100, .registerServiceFull (echo 2) "chat" ["Say"] none 100,
    .registerServiceFull (echo 1) "mail" ["Send"] none 100, .unregisterActor (echo 1)]

theorem actor_index_exact_after_departure :
    ∃ r, exec step empty departure = some r ∧ namesOf r.actorIndex (echo 1) = [] ∧
      namesOf r.actorIndex (echo 2) = ["chat"] ∧
      ∀ name, name ∈ namesOf r.actorIndex (echo 2) ↔ ∃ service ∈ r.instancesOf name, service.actorId = echo 2 := by
  refine ⟨_, rfl, rfl, rfl, ?_⟩
  exact ((actor_index_exact departure _ (by decide) rfl).2.2.2 (echo 2)).2

end Results

end Actr.Proof.Signaling
