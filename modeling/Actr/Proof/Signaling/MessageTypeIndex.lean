import Actr.Proof.Signaling.ServiceRegistry
import Mathlib.Data.List.Count

/-! # When the message-type index is exact -/

namespace Actr.Proof.Signaling
open Actrix.Signaling ServiceRegistry Actr.Protocol
open Library.Maps Library.Machine

variable {service : ServiceInfo}

/-- The index names a service under a message type if one of its instances declares it, and then once. -/
def TypesExact (r : ServiceRegistry) : Prop :=
  ∀ messageType, (namesOf r.messageTypeIndex messageType).Nodup ∧
    ∀ name, name ∈ namesOf r.messageTypeIndex messageType ↔
      ∃ service ∈ r.instancesOf name, messageType ∈ service.messageTypes

section Views

variable {r : ServiceRegistry} {name messageType : String}

theorem mem_typesOf : messageType ∈ typesOf r name ↔ ∃ service ∈ r.instancesOf name, messageType ∈ service.messageTypes := by
  simp only [typesOf, declared, List.mem_flatMap, List.mem_map]
  constructor
  · rintro ⟨entry, ⟨service, member, rfl⟩, declares⟩
    exact ⟨service, member, declares⟩
  · rintro ⟨service, member, declares⟩
    exact ⟨declaration service, ⟨service, member, rfl⟩, declares⟩

theorem typesExact_iff_mem : TypesExact r ↔ ∀ messageType, (namesOf r.messageTypeIndex messageType).Nodup ∧
      ∀ name, name ∈ namesOf r.messageTypeIndex messageType ↔ messageType ∈ typesOf r name := by
  simp only [TypesExact, mem_typesOf]

theorem typesExact_iff_count :
    TypesExact r ↔ ∀ messageType name, (namesOf r.messageTypeIndex messageType).count name =
      if messageType ∈ typesOf r name then 1 else 0 := by
  rw [typesExact_iff_mem]
  constructor
  · intro exactly messageType name
    obtain ⟨nodup, listed⟩ := exactly messageType
    split
    · next declares => exact List.count_eq_one_of_mem nodup ((listed name).mpr declares)
    · next absent => exact List.count_eq_zero_of_not_mem fun member => absent ((listed name).mp member)
  · intro count messageType
    constructor
    · apply List.nodup_iff_count_le_one.mpr
      intro name
      rw [count messageType name]
      split
      · exact le_rfl
      · exact Nat.zero_le 1
    · intro name
      rw [← List.count_pos_iff, count messageType name]
      split
      · next declares => simp [declares]
      · next absent => simp [absent]

end Views

section Removals

variable {r t u : ServiceRegistry} {actorId : ActrId} {serviceName : String}

structure Removes (r t : ServiceRegistry) : Prop where
  sublist : ∀ name, (declared t name).Sublist (declared r name)
  count : ∀ messageType name, (namesOf t.messageTypeIndex messageType).count name =
    if declared r name ≠ [] ∧ declared t name = [] then 0 else (namesOf r.messageTypeIndex messageType).count name

theorem removes_of_same (services : t.services = r.services) (types : t.messageTypeIndex = r.messageTypeIndex) :
    Removes r t := by
  have listed : ∀ name, declared t name = declared r name := by
    intro name
    simp only [declared, instancesOf, services]
  constructor
  · intro name
    rw [listed name]
  · intro messageType name
    rw [listed name, types, if_neg fun both => both.1 both.2]

theorem Removes.trans (first : Removes r t) (second : Removes t u) : Removes r u := by
  refine ⟨fun name => (second.sublist name).trans (first.sublist name), ?_⟩
  intro messageType name
  rw [second.count messageType name, first.count messageType name]
  by_cases before : declared r name = []
  · have middle : declared t name = [] := List.sublist_nil.mp (before ▸ first.sublist name)
    simp [before, middle]
  · by_cases middle : declared t name = []
    · have after : declared u name = [] := List.sublist_nil.mp (middle ▸ second.sublist name)
      simp [before, middle, after]
    · simp [before, middle]

theorem removes_unregister : Removes r (r.unregisterServiceMemoryOnly actorId serviceName).2 := by
  constructor
  · intro name
    rw [declared_unregister]
    split
    · next same =>
      rw [same]
      exact List.filter_sublist
    · exact List.Sublist.refl _
  · intro messageType name
    rw [types_unregister]
    by_cases same : name = serviceName
    · subst same
      split
      · exact List.count_eq_zero_of_not_mem (by simp)
      · rfl
    · have kept : ¬ (declared r name ≠ [] ∧
          declared (r.unregisterServiceMemoryOnly actorId serviceName).2 name = []) := by
        rw [declared_unregister, if_neg same]
        exact fun both => both.1 both.2
      split
      · exact List.count_filter (decide_eq_true same)
      · rfl

/-- Where an instance of a service stays, every message type of the service is one of an instance that stays. -/
def Covers (r : ServiceRegistry) (stays : String → ServiceInfo → Bool) : Prop :=
  ∀ name, ∀ kept ∈ r.instancesOf name, stays name kept = true →
    ∀ messageType, ∀ service ∈ r.instancesOf name, messageType ∈ service.messageTypes →
      ∃ other ∈ r.instancesOf name, stays name other = true ∧ messageType ∈ other.messageTypes

theorem typesExact_removes (exactly : TypesExact r) (removes : Removes r t) {stays : String → ServiceInfo → Bool}
    (instances : ∀ name, t.instancesOf name = (r.instancesOf name).filter (stays name)) :
    TypesExact t ↔ Covers r stays := by
  have covers : Covers r stays ↔
      ∀ name, declared t name ≠ [] → ∀ messageType ∈ typesOf r name, messageType ∈ typesOf t name := by
    simp [Covers, declared, mem_typesOf, instances, and_assoc]
  rw [covers]
  rw [typesExact_iff_count] at exactly ⊢
  have fewer : ∀ name messageType, messageType ∈ typesOf t name → messageType ∈ typesOf r name := by
    intro name messageType declares
    obtain ⟨entry, member, declares⟩ := List.mem_flatMap.mp declares
    exact List.mem_flatMap.mpr ⟨entry, (removes.sublist name).subset member, declares⟩
  have none : ∀ name messageType, declared t name = [] → messageType ∉ typesOf t name := by
    intro name messageType empty
    unfold typesOf
    rw [empty]
    exact List.not_mem_nil
  constructor
  · intro after name filled messageType declares
    have count := after messageType name
    rw [removes.count, if_neg fun both => filled both.2, exactly messageType name, if_pos declares] at count
    by_contra lost
    rw [if_neg lost] at count
    cases count
  · intro kept messageType name
    rw [removes.count, exactly messageType name]
    by_cases empty : declared t name = []
    · have after := none name messageType empty
      by_cases before : declared r name = []
      · have absent : messageType ∉ typesOf r name := by
          unfold typesOf
          rw [before]
          exact List.not_mem_nil
        simp [before, after, absent]
      · simp [before, empty, after]
    · rw [if_neg fun both => empty both.2]
      by_cases declares : messageType ∈ typesOf r name
      · rw [if_pos declares, if_pos (kept name empty messageType declares)]
      · rw [if_neg declares, if_neg fun after => declares (fewer name messageType after)]

def withdraw (r : ServiceRegistry) (pairs : List (ActrId × String)) : ServiceRegistry :=
  pairs.foldl (fun r pair => (r.unregisterServiceMemoryOnly pair.1 pair.2).2) r

theorem removes_withdraw (pairs : List (ActrId × String)) : Removes r (withdraw r pairs) :=
  List.foldlRecOn (motive := Removes r) _ _ (removes_of_same rfl rfl) fun _ removes _ _ =>
    removes.trans removes_unregister

theorem typesExact_withdraw (exactly : TypesExact r) (services : t.services = r.services)
    (types : t.messageTypeIndex = r.messageTypeIndex) (pairs : List (ActrId × String)) :
    TypesExact (withdraw t pairs) ↔ Covers r fun name service => (service.actorId, name) ∉ pairs := by
  refine typesExact_removes exactly ((removes_of_same services types).trans (removes_withdraw pairs)) fun name => ?_
  rw [withdraw, instancesOf_foldl, instancesOf, instancesOf, services]
  apply List.filter_congr
  intro service _
  rw [decide_eq_decide]
  constructor
  · intro kept member
    exact kept _ member ⟨rfl, rfl⟩
  · rintro kept pair member ⟨own, named⟩
    exact kept (by rwa [own, named])

/-- The actors and services that an operation takes out. -/
def removed (r : ServiceRegistry) : Action → List (ActrId × String)
  | .unregisterService actorId serviceName => [(actorId, serviceName)]
  | .unregisterActor actorId | .unregisterActorMemoryOnly actorId =>
    (namesOf r.actorIndex actorId).map fun serviceName => (actorId, serviceName)
  | .cleanupExpiredServices now order => order.flatMap fun serviceName =>
    ((r.instancesOf serviceName).filter (expired now)).map fun service => (service.actorId, serviceName)
  | _ => []

theorem unregisterActor_eq : ∃ start : ServiceRegistry, start.services = r.services ∧
      start.messageTypeIndex = r.messageTypeIndex ∧
      r.unregisterActor actorId = withdraw start (removed r (.unregisterActor actorId)) := by
  unfold unregisterActor
  split
  · next names found =>
    refine ⟨{ r with actorIndex := r.actorIndex.erase actorId }, rfl, rfl, ?_⟩
    rw [removed, namesOf, listAt_of_lookup found, withdraw, List.foldl_map]
    rfl
  · next found =>
    refine ⟨r, rfl, rfl, ?_⟩
    rw [removed, namesOf, listAt_of_lookup_none found]
    rfl

theorem unregisterActorMemoryOnly_eq :
    r.unregisterActorMemoryOnly actorId = withdraw r (removed r (.unregisterActorMemoryOnly actorId)) := by
  unfold unregisterActorMemoryOnly
  split
  · next names found =>
    rw [removed, namesOf, listAt_of_lookup found, withdraw, List.foldl_map]
  · next found =>
    rw [removed, namesOf, listAt_of_lookup_none found]
    rfl

end Removals

section Registration

variable {r t : ServiceRegistry}

theorem typesOf_congr {name : String} (same : declared t name = declared r name) : typesOf t name = typesOf r name :=
  congrArg (List.flatMap Prod.snd) same

theorem typesExact_same (exactly : TypesExact r) (same : Same r t) : TypesExact t := by
  rw [typesExact_iff_count] at exactly ⊢
  intro messageType name
  rw [same.types, typesOf_congr (same.declared name)]
  exact exactly messageType name

theorem typesExact_register (exactly : TypesExact r) (actorId : ActrId) (serviceName : String)
    (messageTypes : List String) (wsAddress : Option String) (now : UInt64) :
    TypesExact (r.registerServiceFull actorId serviceName messageTypes wsAddress now) := by
  obtain ⟨kept, -, -, listed⟩ := declared_register r actorId serviceName messageTypes wsAddress now
  rw [typesExact_iff_count] at exactly ⊢
  intro messageType name
  rw [types_register, List.count_append]
  by_cases same : name = serviceName
  · subst same
    rw [List.count_eq_zero_of_not_mem (by simp)]
    split
    · simp
    · simp
  · have elsewhere := typesOf_congr ((listed name).trans (if_neg same))
    have others : ((namesOf r.messageTypeIndex messageType).filter (· ≠ serviceName)).count name =
        (namesOf r.messageTypeIndex messageType).count name := List.count_filter (decide_eq_true same)
    rw [others, elsewhere, exactly messageType name]
    have single : (if messageType ∈ typesOf (r.registerServiceFull actorId serviceName messageTypes wsAddress now)
        serviceName then [serviceName] else []).count name = 0 := by
      apply List.count_eq_zero_of_not_mem
      split
      · simpa using same
      · exact List.not_mem_nil
    rw [single, Nat.add_zero]

end Registration

section Restores

variable {r : ServiceRegistry} {actorId : ActrId}

def restored (r : ServiceRegistry) (actorId : ActrId) (services : List ServiceInfo) : ServiceRegistry :=
  (services.foldl (restoreMatching actorId) (0, r)).2

def Loaded (actorId : ActrId) (services : List ServiceInfo) (name messageType : String) : Prop :=
  ∃ service ∈ services, service.actorId = actorId ∧ service.serviceName = name ∧ messageType ∈ service.messageTypes

/-- The row of an actor for a service that a restore comes to first. -/
def firstRow (actorId : ActrId) (services : List ServiceInfo) (name : String) : Option ServiceInfo :=
  services.find? fun service => service.actorId = actorId ∧ service.serviceName = name

theorem nodup_restored (nodup : ∀ messageType, (namesOf r.messageTypeIndex messageType).Nodup)
    (services : List ServiceInfo) (messageType : String) :
    (namesOf (restored r actorId services).messageTypeIndex messageType).Nodup := by
  refine restoreMatching_rule (P := fun r => ∀ messageType, (namesOf r.messageTypeIndex messageType).Nodup) ?_ services
    nodup messageType
  intro r nodup service _ messageType
  rw [types_restoreService]
  split
  · exact nodup_pushNew (nodup messageType)
  · exact nodup messageType

theorem index_restored (services : List ServiceInfo) (state : Nat × ServiceRegistry) (messageType name : String) :
    name ∈ namesOf (services.foldl (restoreMatching actorId) state).2.messageTypeIndex messageType ↔
      name ∈ namesOf state.2.messageTypeIndex messageType ∨ Loaded actorId services name messageType := by
  induction services generalizing state with
  | nil => simp [Loaded]
  | cons first rest ih =>
    rw [List.foldl_cons, ih, restoreMatching_snd]
    split
    · next mine =>
      rw [types_restoreService]
      split
      · next declares => simp [mem_pushNew, Loaded, mine, declares, or_assoc, eq_comm]
      · next absent => simp [Loaded, mine, absent]
    · next different => simp [Loaded, different]

theorem declared_restored (services : List ServiceInfo) (state : Nat × ServiceRegistry) (name : String) :
    declared (services.foldl (restoreMatching actorId) state).2 name = declared state.2 name ++
      if actorId ∈ actorsOf state.2 name then [] else ((firstRow actorId services name).map declaration).toList := by
  induction services generalizing state with
  | nil => simp [firstRow]
  | cons first rest ih =>
    rw [List.foldl_cons, ih, restoreMatching_snd]
    split
    · next mine =>
      by_cases named : name = first.serviceName
      · subst named
        have found : firstRow actorId (first :: rest) first.serviceName = some first := by simp [firstRow, mine]
        have present : actorId ∈ actorsOf (state.2.restoreService first).2 first.serviceName := by
          rw [actorsOf_restoreService, if_pos rfl, mem_pushNew]
          exact .inr mine.symm
        rw [if_pos present, List.append_nil, declared_restoreService, if_pos rfl, found, mine]
        rfl
      · have skipped : firstRow actorId (first :: rest) name = firstRow actorId rest name := by
          simp [firstRow, Ne.symm named]
        rw [actorsOf_restoreService, declared_restoreService, if_neg named, if_neg named, skipped]
    · next different => simp [firstRow, different]

theorem typesExact_restored (exactly : TypesExact r) (services : List ServiceInfo) :
    TypesExact (restored r actorId services) ↔ ∀ name messageType, Loaded actorId services name messageType →
      messageType ∈ typesOf r name ∨ actorId ∉ actorsOf r name ∧
        ∃ row ∈ firstRow actorId services name, messageType ∈ row.messageTypes := by
  have types (name messageType : String) : messageType ∈ typesOf (restored r actorId services) name ↔
      messageType ∈ typesOf r name ∨ actorId ∉ actorsOf r name ∧
        ∃ row ∈ firstRow actorId services name, messageType ∈ row.messageTypes := by
    unfold typesOf restored
    rw [declared_restored, List.flatMap_append, List.mem_append]
    refine or_congr_right ?_
    by_cases present : actorId ∈ actorsOf r name
    · simp [present]
    · simp [present, declaration]
  rw [typesExact_iff_mem] at exactly ⊢
  constructor
  · intro after name messageType loaded
    exact (types name messageType).mp (((after messageType).2 name).mp ((index_restored ..).mpr (.inr loaded)))
  · intro declares messageType
    refine ⟨nodup_restored (fun messageType => (exactly messageType).1) services messageType, fun name => ?_⟩
    rw [types, restored, index_restored, (exactly messageType).2 name]
    constructor
    · rintro (old | loaded)
      · exact .inl old
      · exact declares name messageType loaded
    · rintro (old | ⟨-, row, found, listed⟩)
      · exact .inl old
      · have own := List.find?_some found
        simp only [Bool.decide_and, Bool.and_eq_true, decide_eq_true_eq] at own
        exact .inr ⟨row, List.mem_of_find?_eq_some found, own.1, own.2, listed⟩

end Restores

section StartUp

variable {r : ServiceRegistry}

def pairsOf (services : List ServiceInfo) : List (String × String) :=
  services.flatMap fun service => service.messageTypes.map fun messageType => (service.serviceName, messageType)

theorem count_map_pair (types : List String) (serviceName name messageType : String) :
    (types.map fun messageType => (serviceName, messageType)).count (name, messageType) =
      if name = serviceName then types.count messageType else 0 := by
  split
  · next same =>
    subst same
    exact List.count_map_of_injective types _ (fun _ _ equal => congrArg Prod.snd equal) messageType
  · next different =>
    apply List.count_eq_zero_of_not_mem
    intro member
    obtain ⟨_, -, equal⟩ := List.mem_map.mp member
    exact different (congrArg Prod.fst equal).symm

theorem count_restoreEntries (services : List ServiceInfo) (messageType name : String) :
    (namesOf (services.foldl restoreEntry r).messageTypeIndex messageType).count name =
      (namesOf r.messageTypeIndex messageType).count name + (pairsOf services).count (name, messageType) := by
  induction services generalizing r with
  | nil => simp [pairsOf]
  | cons first rest ih =>
    rw [List.foldl_cons, ih, count_types_restoreEntry]
    unfold pairsOf
    rw [List.flatMap_cons, List.count_append, count_map_pair, Nat.add_assoc]

theorem mem_typesOf_restoreEntry {name messageType : String} :
    messageType ∈ typesOf (r.restoreEntry service) name ↔
      messageType ∈ typesOf r name ∨ (name = service.serviceName ∧ messageType ∈ service.messageTypes) := by
  unfold typesOf
  rw [declared_restoreEntry]
  split
  · next same => simp [same, declaration]
  · next different => simp [different]

theorem mem_typesOf_restoreEntries (services : List ServiceInfo) (name messageType : String) :
    messageType ∈ typesOf (services.foldl restoreEntry r) name ↔
      messageType ∈ typesOf r name ∨ (name, messageType) ∈ pairsOf services := by
  induction services generalizing r with
  | nil => simp [pairsOf]
  | cons first rest ih =>
    rw [List.foldl_cons, ih, mem_typesOf_restoreEntry, or_assoc]
    simp [pairsOf, eq_comm, and_comm]

theorem typesExact_restoreEntries (exactly : TypesExact r) (services : List ServiceInfo) :
    TypesExact (services.foldl restoreEntry r) ↔
      (pairsOf services).Nodup ∧ ∀ pair ∈ pairsOf services, pair.2 ∉ typesOf r pair.1 := by
  rw [typesExact_iff_count] at exactly ⊢
  constructor
  · intro after
    constructor
    · apply List.nodup_iff_count_le_one.mpr
      rintro ⟨name, messageType⟩
      have count := after messageType name
      rw [count_restoreEntries] at count
      split at count
      · omega
      · omega
    · rintro ⟨name, messageType⟩ member before
      have count := after messageType name
      have positive := List.count_pos_iff.mpr member
      rw [count_restoreEntries, exactly messageType name, if_pos before] at count
      split at count
      · omega
      · omega
  · rintro ⟨nodup, new⟩ messageType name
    rw [count_restoreEntries, exactly messageType name]
    by_cases loaded : (name, messageType) ∈ pairsOf services
    · rw [if_neg (new _ loaded), if_pos ((mem_typesOf_restoreEntries ..).mpr (.inr loaded)),
        List.count_eq_one_of_mem nodup loaded]
    · rw [List.count_eq_zero_of_not_mem loaded]
      by_cases before : messageType ∈ typesOf r name
      · rw [if_pos before, if_pos ((mem_typesOf_restoreEntries ..).mpr (.inl before))]
      · rw [if_neg before, if_neg]
        intro after
        rcases (mem_typesOf_restoreEntries ..).mp after with old | new
        · exact before old
        · exact loaded new

end StartUp

/-- The exact conditions under which one operation keeps the message-type index exact. -/
def Guarded (r : ServiceRegistry) (action : Action) (_ : ServiceRegistry) : Prop :=
  match action with
  | .restoreFromStorage (some (.ok services)) =>
    (pairsOf services).Nodup ∧ ∀ pair ∈ pairsOf services, pair.2 ∉ typesOf r pair.1
  | .restoreServiceFromStorage actorId (some (.ok services)) =>
    ∀ name messageType, Loaded actorId services name messageType →
      messageType ∈ typesOf r name ∨ actorId ∉ actorsOf r name ∧
        ∃ row ∈ firstRow actorId services name, messageType ∈ row.messageTypes
  | .unregisterService _ _ | .unregisterActor _ | .unregisterActorMemoryOnly _ | .cleanupExpiredServices _ _ =>
    Covers r fun name service => (service.actorId, name) ∉ removed r action
  | _ => True

/-- Discovery by message type: every service with an instance that declares it, once, with its available instances. -/
def DiscoversExactly (r : ServiceRegistry) : Prop :=
  ∀ messageType, ∃ names : List String, names.Nodup ∧
    (∀ name, name ∈ names ↔ ∃ service ∈ r.instancesOf name, messageType ∈ service.messageTypes) ∧
    r.discoverByMessageType messageType =
      names.flatMap fun name => (r.instancesOf name).filter fun service => service.status = .available

section Results

variable {r t : ServiceRegistry} {action : Action}

theorem discoversExactly_of_typesExact (exactly : TypesExact r) : DiscoversExactly r := by
  intro messageType
  obtain ⟨nodup, listed⟩ := exactly messageType
  exact ⟨namesOf r.messageTypeIndex messageType, nodup, listed, rfl⟩

theorem typesExact_iff_guarded (exactly : TypesExact r) (taken : step r action = some t) :
    TypesExact t ↔ Guarded r action t := by
  cases action with
  | restoreFromStorage loaded =>
    cases taken
    cases loaded with
    | none => exact iff_of_true exactly trivial
    | some answer =>
      cases answer with
      | error => exact iff_of_true exactly trivial
      | ok services => exact typesExact_restoreEntries exactly services
  | registerServiceFull actorId serviceName messageTypes wsAddress now =>
    cases taken
    exact iff_of_true (typesExact_register exactly actorId serviceName messageTypes wsAddress now) trivial
  | restoreServiceFromStorage actorId loaded =>
    cases taken
    cases loaded with
    | none => exact iff_of_true exactly trivial
    | some answer =>
      cases answer with
      | error => exact iff_of_true exactly trivial
      | ok services => exact typesExact_restored exactly services
  | updateLoadMetrics =>
    cases taken
    exact iff_of_true (typesExact_same exactly same_updateLoadMetrics) trivial
  | updateServiceStatus =>
    cases taken
    exact iff_of_true (typesExact_same exactly same_updateServiceStatus) trivial
  | unregisterService actorId serviceName =>
    cases taken
    exact typesExact_withdraw exactly rfl rfl [(actorId, serviceName)]
  | unregisterActor actorId =>
    cases taken
    obtain ⟨start, services, types, whole⟩ := @unregisterActor_eq r actorId
    rw [whole]
    exact typesExact_withdraw exactly services types _
  | unregisterActorMemoryOnly =>
    cases taken
    rw [unregisterActorMemoryOnly_eq]
    exact typesExact_withdraw exactly rfl rfl _
  | cleanupExpiredServices =>
    obtain ⟨-, rfl⟩ := of_guard taken
    exact typesExact_withdraw exactly rfl rfl _

theorem typesExact_empty : TypesExact empty := by
  intro messageType
  refine ⟨List.nodup_nil, ?_⟩
  intro name
  constructor
  · nofun
  · rintro ⟨service, member, -⟩
    cases member

theorem message_type_index_exact_iff_guarded (actions : List Action) :
    Along step (fun _ _ t => TypesExact t ∧ DiscoversExactly t) empty actions ↔ Along step Guarded empty actions := by
  apply along_iff typesExact_empty
  · intro r action t exactly taken
    rw [← typesExact_iff_guarded exactly taken]
    exact and_iff_left_of_imp discoversExactly_of_typesExact
  · intro r action t exactly taken guarded
    exact (typesExact_iff_guarded exactly taken).mpr guarded

def scaledIn : List Action :=
  [.registerServiceFull (echo 1) "chat" ["Say"] none 100, .registerServiceFull (echo 2) "chat" ["Shout"] none 100,
    .unregisterService (echo 2) "chat"]

theorem removal_leaves_stale_message_type :
    ∃ r, exec step empty scaledIn = some r ∧ namesOf r.messageTypeIndex "Shout" = ["chat"] ∧
      (r.discoverByMessageType "Shout").map declaration = [(echo 1, ["Say"])] ∧
      ¬ Along step (fun _ _ t => TypesExact t ∧ DiscoversExactly t) empty scaledIn := by
  refine ⟨_, rfl, rfl, rfl, ?_⟩
  intro along
  have shape : scaledIn = scaledIn.take 2 ++ .unregisterService (echo 2) "chat" :: [] := rfl
  rw [shape] at along
  have exactly := (along_at along rfl rfl).1
  have declares := mem_typesOf.mpr (((exactly "Shout").2 "chat").mp (by decide))
  exact absurd declares (by decide)

end Results

end Actr.Proof.Signaling
