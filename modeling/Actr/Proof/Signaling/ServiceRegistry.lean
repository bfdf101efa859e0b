import Actr.Actrix.Signaling.ServiceRegistry

/-!
# What the registry operations do to the maps, key by key
-/

namespace Actr.Proof.Signaling
open Actrix.Signaling ServiceRegistry Actr.Protocol Library.Maps

variable {status : ServiceStatus}

section Names

variable {K : Type} [DecidableEq K] {index : Index K} {key other : K} {keys : List K} {list : List String}
variable {serviceName : String}

theorem keepNames_getD : (keepNames serviceName list).getD [] = list.filter (· ≠ serviceName) := by
  simp only [keepNames]
  split
  · next empty => exact (List.isEmpty_iff.mp empty).symm
  · rfl

theorem keepNames_ne_nil : keepNames serviceName list ≠ some [] := by
  simp only [keepNames]
  split
  · nofun
  · next filled =>
    intro same
    rw [Option.some.inj same] at filled
    exact filled rfl

theorem namesOf_removeName : namesOf (removeName index serviceName) key = (namesOf index key).filter (· ≠ serviceName) := by
  unfold namesOf listAt removeName
  rw [lookup_retain]
  cases index.lookup key with
  | none => rfl
  | some => exact keepNames_getD

theorem full_removeName : Full (removeName index serviceName) := by
  intro key
  unfold removeName
  rw [lookup_retain]
  cases index.lookup key with
  | none => nofun
  | some => exact keepNames_ne_nil

theorem namesOf_removeNameAt :
    namesOf (removeNameAt index key serviceName) other =
      if other = key then (namesOf index key).filter (· ≠ serviceName) else namesOf index other := by
  cases found : index.lookup key with
  | none =>
    simp only [removeNameAt, found, namesOf, listAt_of_lookup_none found, List.filter_nil]
    split
    · next same =>
      rw [same]
      exact listAt_of_lookup_none found
    · rfl
  | some names =>
    simp only [namesOf, listAt_of_lookup found, ← keepNames_getD]
    cases kept : keepNames serviceName names with
    | none =>
      simp only [removeNameAt, found, kept, listAt_erase]
      rfl
    | some =>
      simp only [removeNameAt, found, kept, listAt_insert]
      rfl

theorem full_removeNameAt (full : Full index) : Full (removeNameAt index key serviceName) := by
  unfold removeNameAt
  split
  · split
    · next names _ rest kept =>
      apply full_insert full
      rintro rfl
      exact keepNames_ne_nil kept
    · exact full_erase full
  · exact full

theorem namesOf_pushName : namesOf (pushName index key serviceName) other =
      namesOf index other ++ if other = key then [serviceName] else [] := by
  unfold pushName namesOf
  rw [listAt_insert]
  split
  · next same => rw [same]
  · rw [List.append_nil]

theorem full_pushName (full : Full index) : Full (pushName index key serviceName) := by
  apply full_insert full
  simp

theorem namesOf_foldl_pushName (nodup : keys.Nodup) :
    namesOf (keys.foldl (fun index key => pushName index key serviceName) index) other =
      namesOf index other ++ if other ∈ keys then [serviceName] else [] := by
  induction keys generalizing index with
  | nil => simp
  | cons first rest ih =>
    obtain ⟨fresh, nodup⟩ := List.nodup_cons.mp nodup
    rw [List.foldl_cons, ih nodup, namesOf_pushName, List.append_assoc]
    congr 1
    by_cases same : other = first
    · subst same
      simp [fresh]
    · simp [same]

end Names

def declaration (service : ServiceInfo) : ActrId × List String := (service.actorId, service.messageTypes)

def declared (r : ServiceRegistry) (serviceName : String) : List (ActrId × List String) :=
  (r.instancesOf serviceName).map declaration

def actorsOf (r : ServiceRegistry) (serviceName : String) : List ActrId := (declared r serviceName).map Prod.fst

def typesOf (r : ServiceRegistry) (serviceName : String) : List String := (declared r serviceName).flatMap Prod.snd

structure Same (r t : ServiceRegistry) : Prop where
  actors : t.actorIndex = r.actorIndex
  types : t.messageTypeIndex = r.messageTypeIndex
  declared : ∀ name, declared t name = declared r name
  full : Full r.services → Full t.services

section Registry

variable {r t u : ServiceRegistry} {actorId : ActrId} {serviceName name messageType : String}
variable {now : UInt64} {metrics : LoadMetrics}

section Rules

variable {P : ServiceRegistry → Prop}

theorem updateLoadMetrics_rule (start : P r) (update : ∀ r, P r → ∀ name, P (r.mapInstances name (List.map fun service =>
    if service.actorId = actorId then measured metrics now service else service))) :
    P (r.updateLoadMetrics actorId metrics now).2 := by
  unfold updateLoadMetrics
  split
  · exact List.foldlRecOn (motive := P) _ _ start fun r holds name _ => update r holds name
  · exact start

variable (restore : ∀ r, P r → ∀ service, service.actorId = actorId → P (r.restoreService service).2)
include restore

theorem restoreMatching_rule (services : List ServiceInfo) {state : Nat × ServiceRegistry} (start : P state.2) :
    P (services.foldl (restoreMatching actorId) state).2 := by
  refine List.foldlRecOn (motive := P ∘ Prod.snd) _ _ start ?_
  intro state holds service _
  unfold restoreMatching
  split
  · exact holds
  · next own => exact restore state.2 holds service (not_not.mp own)

theorem restoreServiceFromStorage_rule (loaded : Option (Except String (List ServiceInfo))) (start : P r) :
    P (r.restoreServiceFromStorage actorId loaded).2 := by
  unfold restoreServiceFromStorage
  split
  · exact start
  · exact start
  · exact restoreMatching_rule restore _ start

end Rules

theorem rebuild_actors : namesOf (r.rebuildIndexesForService serviceName).actorIndex actorId =
      (namesOf r.actorIndex actorId).filter (· ≠ serviceName) ++
        if actorId ∈ actorsOf r serviceName then [serviceName] else [] := by
  have collected : (r.instancesOf serviceName).foldl (fun ids service => pushNew ids service.actorId) [] =
      (actorsOf r serviceName).foldl pushNew [] := by
    simp only [actorsOf, declared, List.foldl_map]
    rfl
  simp only [rebuildIndexesForService, collected]
  rw [namesOf_foldl_pushName (nodup_foldl_pushNew List.nodup_nil), namesOf_removeName]
  simp only [mem_foldl_pushNew, List.not_mem_nil, false_or]

theorem rebuild_types : namesOf (r.rebuildIndexesForService serviceName).messageTypeIndex messageType =
      (namesOf r.messageTypeIndex messageType).filter (· ≠ serviceName) ++
        if messageType ∈ typesOf r serviceName then [serviceName] else [] := by
  have collected : (r.instancesOf serviceName).foldl
      (fun types service => service.messageTypes.foldl pushNew types) [] =
      (typesOf r serviceName).foldl pushNew [] := by
    simp only [typesOf, declared, List.foldl_flatMap, List.foldl_map]
    rfl
  simp only [rebuildIndexesForService, collected]
  rw [namesOf_foldl_pushName (nodup_foldl_pushNew List.nodup_nil), namesOf_removeName]
  simp only [mem_foldl_pushNew, List.not_mem_nil, false_or]

theorem rebuild_full : Full (r.rebuildIndexesForService serviceName).actorIndex :=
  List.foldlRecOn (motive := Full) _ _ full_removeName fun _ full _ _ => full_pushName full

theorem Same.refl : Same r r := ⟨rfl, rfl, fun _ => rfl, id⟩

theorem Same.trans (first : Same r t) (second : Same t u) : Same r u where
  actors := second.actors.trans first.actors
  types := second.types.trans first.types
  declared name := (second.declared name).trans (first.declared name)
  full := second.full ∘ first.full

theorem declared_insert {services : AList fun _ : String => List ServiceInfo} {instances : List ServiceInfo}
    (stored : t.services = services.insert serviceName instances) (others : r.services = services) :
    declared t name = if name = serviceName then instances.map declaration else declared r name := by
  simp only [declared, instancesOf, stored, others, listAt_insert]
  split
  · rfl
  · rfl

theorem same_mapInstances {change : List ServiceInfo → List ServiceInfo}
    (kept : ∀ instances, (change instances).map declaration = instances.map declaration) :
    Same r (r.mapInstances serviceName change) := by
  unfold mapInstances
  split
  · next instances found =>
    refine ⟨rfl, rfl, ?_, ?_⟩
    · intro name
      rw [declared_insert rfl rfl, kept]
      split
      · next same =>
        rw [same, declared, instancesOf, listAt_of_lookup found]
      · rfl
    · intro full
      apply full_insert full
      intro none
      have empty := kept instances
      rw [none, List.map_nil, eq_comm, List.map_eq_nil_iff] at empty
      rw [empty] at found
      exact full serviceName found
  · exact .refl

theorem same_updateLoadMetrics : Same r (r.updateLoadMetrics actorId metrics now).2 := by
  refine updateLoadMetrics_rule .refl fun r same name => same.trans (same_mapInstances ?_)
  intro instances
  rw [List.map_map]
  apply List.map_congr_left
  intro service _
  simp only [Function.comp_apply]
  split <;> rfl

theorem map_declaration_setStatus (instances : List ServiceInfo) :
    (setStatus actorId status now instances).map declaration = instances.map declaration := by
  induction instances with
  | nil => rfl
  | cons first rest ih =>
    unfold setStatus
    split
    · rfl
    · rw [List.map_cons, List.map_cons, ih]

theorem same_updateServiceStatus : Same r (r.updateServiceStatus actorId serviceName status now).2 := by
  unfold updateServiceStatus
  split
  · exact same_mapInstances map_declaration_setStatus
  · exact .refl

end Registry

section Removal

variable {r : ServiceRegistry} {actorId other : ActrId} {serviceName name messageType : String}

theorem map_declaration_filter (instances : List ServiceInfo) :
    (instances.filter fun service => service.actorId ≠ actorId).map declaration =
      (instances.map declaration).filter fun entry => entry.1 ≠ actorId := by
  rw [List.filter_map]
  rfl

theorem instancesOf_unregister :
    (r.unregisterServiceMemoryOnly actorId serviceName).2.instancesOf name =
      if name = serviceName then (r.instancesOf serviceName).filter (fun service => service.actorId ≠ actorId)
      else r.instancesOf name := by
  cases found : r.services.lookup serviceName with
  | none =>
    have absent : r.instancesOf serviceName = [] := listAt_of_lookup_none found
    simp only [unregisterServiceMemoryOnly, found, absent]
    split
    · next same =>
      rw [same]
      exact absent
    · rfl
  | some instances =>
    have listed : r.instancesOf serviceName = instances := listAt_of_lookup found
    simp only [unregisterServiceMemoryOnly, found, listed]
    split
    · next unchanged =>
      rw [List.filter_eq_self.mpr (List.length_filter_eq_length_iff.mp unchanged)]
      split
      · next same =>
        rw [same]
        exact listed
      · rfl
    · split
      · next last =>
        rw [List.isEmpty_iff.mp last]
        exact listAt_erase
      · exact listAt_insert

section Removals

variable {α : Type} {items : List α} (actor : α → ActrId) (named : α → String)

theorem instancesOf_foldl :
    (items.foldl (fun r item => (r.unregisterServiceMemoryOnly (actor item) (named item)).2) r).instancesOf name =
      (r.instancesOf name).filter fun service => ∀ item ∈ items, ¬ (service.actorId = actor item ∧ name = named item) := by
  induction items generalizing r with
  | nil => simp
  | cons first rest ih =>
    rw [List.foldl_cons, ih, instancesOf_unregister]
    split
    · next same =>
      rw [← same, List.filter_filter]
      apply List.filter_congr
      intro service _
      rw [Bool.eq_iff_iff]
      simp [← same, and_comm]
    · next different => simp [different]

theorem mem_actorsOf : actorId ∈ actorsOf r name ↔ ∃ service ∈ r.instancesOf name, service.actorId = actorId := by
  simp only [actorsOf, declared, List.map_map, List.mem_map]
  rfl

theorem mem_actorsOf_foldl :
    other ∈ actorsOf (items.foldl (fun r item => (r.unregisterServiceMemoryOnly (actor item) (named item)).2) r) name ↔
      other ∈ actorsOf r name ∧ ∀ item ∈ items, ¬ (other = actor item ∧ name = named item) := by
  rw [mem_actorsOf, mem_actorsOf, instancesOf_foldl]
  constructor
  · rintro ⟨service, member, rfl⟩
    obtain ⟨listed, kept⟩ := List.mem_filter.mp member
    exact ⟨⟨service, listed, rfl⟩, of_decide_eq_true kept⟩
  · rintro ⟨⟨service, listed, rfl⟩, kept⟩
    exact ⟨service, List.mem_filter.mpr ⟨listed, decide_eq_true kept⟩, rfl⟩

end Removals

theorem declared_unregister :
    declared (r.unregisterServiceMemoryOnly actorId serviceName).2 name =
      if name = serviceName then (declared r serviceName).filter (fun entry => entry.1 ≠ actorId)
      else declared r name := by
  unfold declared
  rw [instancesOf_unregister]
  split
  · exact map_declaration_filter _
  · rfl

theorem full_unregister (full : Full r.services) :
    Full (r.unregisterServiceMemoryOnly actorId serviceName).2.services := by
  cases found : r.services.lookup serviceName with
  | none =>
    simp only [unregisterServiceMemoryOnly, found]
    exact full
  | some =>
    simp only [unregisterServiceMemoryOnly, found]
    split
    · exact full
    · split
      · exact full_erase full
      · next filled =>
        apply full_insert full
        intro none
        exact filled (List.isEmpty_iff.mpr none)

theorem fullActors_unregister (full : Full r.actorIndex) :
    Full (r.unregisterServiceMemoryOnly actorId serviceName).2.actorIndex := by
  cases found : r.services.lookup serviceName with
  | none =>
    simp only [unregisterServiceMemoryOnly, found]
    exact full_removeNameAt full
  | some =>
    simp only [unregisterServiceMemoryOnly, found]
    split
    · exact full
    · split
      · exact full_removeNameAt full
      · exact full_removeNameAt full

theorem actors_unregister (exactly : serviceName ∈ namesOf r.actorIndex actorId → actorId ∈ actorsOf r serviceName) :
    namesOf (r.unregisterServiceMemoryOnly actorId serviceName).2.actorIndex other =
      if other = actorId then (namesOf r.actorIndex actorId).filter (· ≠ serviceName)
      else namesOf r.actorIndex other := by
  cases found : r.services.lookup serviceName with
  | none =>
    simp only [unregisterServiceMemoryOnly, found]
    exact namesOf_removeNameAt
  | some =>
    simp only [unregisterServiceMemoryOnly, found]
    split
    · next unchanged =>
      have absent : actorId ∉ actorsOf r serviceName := by
        simp only [actorsOf, declared, instancesOf, listAt_of_lookup found, List.map_map, List.mem_map]
        rintro ⟨service, member, same⟩
        have kept := List.length_filter_eq_length_iff.mp unchanged service member
        exact of_decide_eq_true kept same
      have unlisted : serviceName ∉ namesOf r.actorIndex actorId := fun listed => absent (exactly listed)
      split
      · next same =>
        rw [same, eq_comm]
        apply List.filter_eq_self.mpr
        intro listed member
        apply decide_eq_true
        rintro rfl
        exact unlisted member
      · rfl
    · split
      · exact namesOf_removeNameAt
      · exact namesOf_removeNameAt

theorem types_unregister :
    namesOf (r.unregisterServiceMemoryOnly actorId serviceName).2.messageTypeIndex messageType =
      if declared r serviceName ≠ [] ∧ declared (r.unregisterServiceMemoryOnly actorId serviceName).2 serviceName = []
      then (namesOf r.messageTypeIndex messageType).filter (· ≠ serviceName)
      else namesOf r.messageTypeIndex messageType := by
  rw [declared_unregister, if_pos rfl]
  cases found : r.services.lookup serviceName with
  | none =>
    have absent : declared r serviceName = [] := by
      rw [declared, instancesOf, listAt_of_lookup_none found, List.map_nil]
    simp only [unregisterServiceMemoryOnly, found, absent]
    rfl
  | some instances =>
    have listed : declared r serviceName = instances.map declaration := by
      rw [declared, instancesOf, listAt_of_lookup found]
    simp only [unregisterServiceMemoryOnly, found]
    rw [listed, ← map_declaration_filter]
    split
    · next unchanged =>
      have kept := List.filter_eq_self.mpr (List.length_filter_eq_length_iff.mp unchanged)
      rw [kept, if_neg fun both => both.1 both.2]
    · next changed =>
      split
      · next last =>
        rw [List.isEmpty_iff.mp last, if_pos]
        · exact namesOf_removeName
        · refine ⟨?_, rfl⟩
          intro none
          rw [List.map_eq_nil_iff] at none
          rw [none] at changed
          exact changed rfl
      · next filled =>
        rw [if_neg]
        · rfl
        · rintro ⟨-, none⟩
          exact filled (List.isEmpty_iff.mpr (List.map_eq_nil_iff.mp none))

end Removal

section Insertion

variable {r : ServiceRegistry} {service : ServiceInfo} {actorId other : ActrId} {serviceName name messageType : String}
variable {messageTypes : List String} {wsAddress : Option String} {now : UInt64}

theorem any_actorId :
    (r.instancesOf serviceName).any (fun entry => entry.actorId = actorId) = true ↔ actorId ∈ actorsOf r serviceName := by
  simp only [actorsOf, declared, List.map_map, List.any_eq_true, List.mem_map, decide_eq_true_eq]
  rfl

theorem declared_restoreService : declared (r.restoreService service).2 name = if name = service.serviceName then
        declared r name ++ if service.actorId ∈ actorsOf r name then [] else [declaration service]
      else declared r name := by
  rw [declared_insert rfl rfl]
  split
  · next same =>
    subst same
    rw [List.map_append]
    congr 1
    by_cases present : service.actorId ∈ actorsOf r service.serviceName
    · rw [if_pos present, if_neg (by simpa using any_actorId.mpr present)]
      rfl
    · rw [if_neg present, if_pos (by rw [any_actorId]; exact present)]
      rfl
  · rfl

theorem actorsOf_restoreService (name : String) : actorsOf (r.restoreService service).2 name =
      if name = service.serviceName then pushNew (actorsOf r name) service.actorId else actorsOf r name := by
  have listed : actorsOf (r.restoreService service).2 name = _ :=
    congrArg (List.map Prod.fst) declared_restoreService
  rw [listed]
  split
  · unfold pushNew
    by_cases present : service.actorId ∈ actorsOf r name
    · rw [if_pos present, if_pos present, List.append_nil]
      rfl
    · rw [if_neg present, if_neg present, List.map_append]
      rfl
  · rfl

theorem full_restoreService (full : Full r.services) : Full (r.restoreService service).2.services := by
  apply full_insert full
  intro none
  obtain ⟨empty, absent⟩ := List.append_eq_nil_iff.mp none
  rw [empty] at absent
  cases absent

theorem actors_restoreService : namesOf (r.restoreService service).2.actorIndex other =
      if other = service.actorId then pushNew (namesOf r.actorIndex other) service.serviceName
      else namesOf r.actorIndex other := by
  have inserted : namesOf (r.restoreService service).2.actorIndex other =
      if other = service.actorId then pushNew (namesOf r.actorIndex service.actorId) service.serviceName
      else namesOf r.actorIndex other := listAt_insert
  rw [inserted]
  split
  · next same => rw [same]
  · rfl

theorem pushNew_ne_nil {α : Type} [DecidableEq α] {elements : List α} {element : α} :
    pushNew elements element ≠ [] := by
  have member : element ∈ pushNew elements element := mem_pushNew.mpr (.inr rfl)
  intro none
  rw [none] at member
  cases member

theorem fullActors_restoreService (full : Full r.actorIndex) : Full (r.restoreService service).2.actorIndex :=
  full_insert full pushNew_ne_nil

theorem restoreMatching_snd (state : Nat × ServiceRegistry) : (restoreMatching actorId state service).2 =
      if service.actorId = actorId then (state.2.restoreService service).2 else state.2 := by
  by_cases own : service.actorId = actorId <;> simp [restoreMatching, own]

theorem types_foldl_pushNew {index : Index String} {types : List String} :
    namesOf (types.foldl (fun index messageType =>
        index.insert messageType (pushNew (namesOf index messageType) serviceName)) index) messageType =
      if messageType ∈ types then pushNew (namesOf index messageType) serviceName else namesOf index messageType := by
  induction types generalizing index with
  | nil => simp
  | cons first rest ih =>
    have once : pushNew (pushNew (namesOf index messageType) serviceName) serviceName =
        pushNew (namesOf index messageType) serviceName := by
      nth_rewrite 1 [pushNew]
      rw [if_pos (mem_pushNew.mpr (.inr rfl))]
    have inserted : namesOf (index.insert first (pushNew (namesOf index first) serviceName)) messageType =
        if messageType = first then pushNew (namesOf index first) serviceName
        else namesOf index messageType := listAt_insert
    rw [List.foldl_cons, ih, inserted]
    by_cases same : messageType = first
    · subst same
      simp [once]
    · simp [same]

theorem types_restoreService : namesOf (r.restoreService service).2.messageTypeIndex messageType =
      if messageType ∈ service.messageTypes then pushNew (namesOf r.messageTypeIndex messageType) service.serviceName
      else namesOf r.messageTypeIndex messageType := types_foldl_pushNew

theorem declared_restoreEntry : declared (r.restoreEntry service) name =
      if name = service.serviceName then declared r name ++ [declaration service] else declared r name := by
  rw [declared_insert rfl rfl]
  split
  · next same =>
    subst same
    rw [List.map_append]
    rfl
  · rfl

theorem count_types_restoreEntry :
    (namesOf (r.restoreEntry service).messageTypeIndex messageType).count name =
      (namesOf r.messageTypeIndex messageType).count name +
        if name = service.serviceName then service.messageTypes.count messageType else 0 := by
  unfold restoreEntry
  generalize service.messageTypes = types
  generalize r.messageTypeIndex = index
  induction types generalizing index with
  | nil => simp
  | cons first rest ih =>
    rw [List.foldl_cons, ih, namesOf_pushName, List.count_append, List.count_cons]
    by_cases named : name = service.serviceName
    · by_cases typed : messageType = first
      · simp [named, typed]
        omega
      · simp [named, typed, Ne.symm typed]
    · by_cases typed : messageType = first
      · simp [named, typed, Ne.symm named]
      · simp [named, typed]

theorem declared_register (r : ServiceRegistry) (actorId : ActrId) (serviceName : String) (messageTypes : List String)
    (wsAddress : Option String) (now : UInt64) :
    ∃ kept, kept.Sublist (declared r serviceName) ∧ (∀ entry ∈ kept, entry.1 ≠ actorId) ∧
      ∀ name, declared (r.registerServiceFull actorId serviceName messageTypes wsAddress now) name =
        if name = serviceName then kept ++ [(actorId, messageTypes)] else declared r name := by
  refine ⟨((r.instancesOf serviceName).filter fun service =>
    ¬ service.isRestoredFromStorage ∧ service.actorId ≠ actorId).map declaration, ?_, ?_, ?_⟩
  · exact List.filter_sublist.map declaration
  · intro entry member
    obtain ⟨service, listed, rfl⟩ := List.mem_map.mp member
    exact (of_decide_eq_true (List.mem_filter.mp listed).2).2
  · intro name
    rw [declared_insert rfl rfl, List.map_append]
    rfl

theorem actors_register :
    namesOf (r.registerServiceFull actorId serviceName messageTypes wsAddress now).actorIndex other =
      (namesOf r.actorIndex other).filter (· ≠ serviceName) ++
        if other ∈ actorsOf (r.registerServiceFull actorId serviceName messageTypes wsAddress now) serviceName
        then [serviceName] else [] := rebuild_actors

theorem types_register :
    namesOf (r.registerServiceFull actorId serviceName messageTypes wsAddress now).messageTypeIndex messageType =
      (namesOf r.messageTypeIndex messageType).filter (· ≠ serviceName) ++
        if messageType ∈ typesOf (r.registerServiceFull actorId serviceName messageTypes wsAddress now) serviceName
        then [serviceName] else [] := rebuild_types

theorem full_register (full : Full r.services) :
    Full (r.registerServiceFull actorId serviceName messageTypes wsAddress now).services :=
  full_insert full (List.append_ne_nil_of_right_ne_nil _ (List.cons_ne_nil _ _))

end Insertion

def echo (serial : Nat) : ActrId := ⟨⟨1⟩, serial, ⟨"acme", "echo", "1.0.0"⟩⟩

end Actr.Proof.Signaling
