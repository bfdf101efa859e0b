import Actr.Library.Machine
import Actr.Library.Maps
import Actr.Protocol.ActrId

/-!
# The service registry

The instances of every service, with one index by message type and one by actor.
-/

namespace Actr.Actrix.Signaling
open Protocol Library.Maps

def serviceExpiryThresholdSecs : UInt64 := 60

inductive ServiceStatus where
  | available
  | busy
  | maintenance
  | unavailable
  deriving DecidableEq, Repr

structure ServiceInfo where
  actorId : ActrId
  serviceName : String
  messageTypes : List String
  status : ServiceStatus
  lastHeartbeatTimeSecs : UInt64
  serviceAvailabilityState : Option Int
  powerReserve : Option Float32
  mailboxBacklog : Option Float32
  wsAddress : Option String
  isRestoredFromStorage : Bool

abbrev Index (K : Type) := AList fun _ : K => List String

structure ServiceRegistry where
  services : AList fun _ : String => List ServiceInfo
  messageTypeIndex : Index String
  actorIndex : Index ActrId

namespace ServiceRegistry

def empty : ServiceRegistry := ⟨∅, ∅, ∅⟩

def instancesOf (r : ServiceRegistry) (serviceName : String) : List ServiceInfo :=
  listAt r.services serviceName

section Index

variable {K : Type} [DecidableEq K]

def namesOf (index : Index K) (key : K) : List String := listAt index key

def pushName (index : Index K) (key : K) (serviceName : String) : Index K :=
  index.insert key (namesOf index key ++ [serviceName])

def keepNames (serviceName : String) (names : List String) : Option (List String) :=
  let kept := names.filter (· ≠ serviceName)
  if kept.isEmpty then none else some kept

def removeName (index : Index K) (serviceName : String) : Index K := retain index (keepNames serviceName)

def removeNameAt (index : Index K) (key : K) (serviceName : String) : Index K :=
  match index.lookup key with
  | some names =>
    match keepNames serviceName names with
    | some kept => index.insert key kept
    | none => index.erase key
  | none => index

end Index

def rebuildIndexesForService (r : ServiceRegistry) (serviceName : String) : ServiceRegistry :=
  let services := r.instancesOf serviceName
  let actorIds := services.foldl (fun ids service => pushNew ids service.actorId) []
  let messageTypes := services.foldl (fun types service => service.messageTypes.foldl pushNew types) []
  { r with
    messageTypeIndex := messageTypes.foldl (fun index messageType => pushName index messageType serviceName)
      (removeName r.messageTypeIndex serviceName)
    actorIndex := actorIds.foldl (fun index actorId => pushName index actorId serviceName)
      (removeName r.actorIndex serviceName) }

def restoreEntry (r : ServiceRegistry) (service : ServiceInfo) : ServiceRegistry where
  services := r.services.insert service.serviceName
    (r.instancesOf service.serviceName ++ [{ service with isRestoredFromStorage := true }])
  messageTypeIndex := service.messageTypes.foldl
    (fun index messageType => pushName index messageType service.serviceName) r.messageTypeIndex
  actorIndex := pushName r.actorIndex service.actorId service.serviceName

-- `none` stands for a registry without a cache.
def restoreFromStorage (r : ServiceRegistry) (loaded : Option (Except String (List ServiceInfo))) :
    Except String Nat × ServiceRegistry :=
  match loaded with
  | none => (.ok 0, r)
  | some (.ok services) => (.ok services.length, services.foldl restoreEntry r)
  | some (.error error) => (.error ("恢复失败: " ++ error), r)

def registerServiceFull (r : ServiceRegistry) (actorId : ActrId) (serviceName : String) (messageTypes : List String)
    (wsAddress : Option String) (now : UInt64) : ServiceRegistry :=
  let serviceInfo : ServiceInfo :=
    { actorId, serviceName, messageTypes, wsAddress
      status := .available
      lastHeartbeatTimeSecs := now
      serviceAvailabilityState := none
      powerReserve := none
      mailboxBacklog := none
      isRestoredFromStorage := false }
  let kept := (r.instancesOf serviceName).filter fun service =>
    ¬ service.isRestoredFromStorage ∧ service.actorId ≠ actorId
  { r with services := r.services.insert serviceName (kept ++ [serviceInfo]) }.rebuildIndexesForService serviceName

def mapInstances (r : ServiceRegistry) (serviceName : String) (change : List ServiceInfo → List ServiceInfo) :
    ServiceRegistry :=
  match r.services.lookup serviceName with
  | some services => { r with services := r.services.insert serviceName (change services) }
  | none => r

structure LoadMetrics where
  serviceAvailabilityState : Int
  powerReserve : Float32
  mailboxBacklog : Float32

def measured (metrics : LoadMetrics) (now : UInt64) (service : ServiceInfo) : ServiceInfo :=
  { service with
    serviceAvailabilityState := some metrics.serviceAvailabilityState
    powerReserve := some metrics.powerReserve
    mailboxBacklog := some metrics.mailboxBacklog
    lastHeartbeatTimeSecs := now }

def updateLoadMetrics (r : ServiceRegistry) (actorId : ActrId) (metrics : LoadMetrics) (now : UInt64) :
    Except String Unit × ServiceRegistry :=
  match r.actorIndex.lookup actorId with
  | some serviceNames =>
    (.ok (), serviceNames.foldl
      (fun r serviceName => r.mapInstances serviceName (List.map fun service =>
        if service.actorId = actorId then measured metrics now service else service)) r)
  | none => (.error ("未找到 Actor " ++ toString actorId.serialNumber ++ " 的服务注册"), r)

def setStatus (actorId : ActrId) (status : ServiceStatus) (now : UInt64) : List ServiceInfo → List ServiceInfo
  | [] => []
  | service :: rest =>
    if service.actorId = actorId then { service with status, lastHeartbeatTimeSecs := now } :: rest
    else service :: setStatus actorId status now rest

def updateServiceStatus (r : ServiceRegistry) (actorId : ActrId) (serviceName : String) (status : ServiceStatus)
    (now : UInt64) : Except String Unit × ServiceRegistry :=
  if (r.instancesOf serviceName).any (fun service => service.actorId = actorId) then
    (.ok (), r.mapInstances serviceName (setStatus actorId status now))
  else (.error ("未找到服务实例: " ++ serviceName ++ " (Actor " ++ toString actorId.serialNumber ++ ")"), r)

def dropName (r : ServiceRegistry) (actorId : ActrId) (serviceName : String) : ServiceRegistry :=
  { r with actorIndex := removeNameAt r.actorIndex actorId serviceName }

def unregisterServiceMemoryOnly (r : ServiceRegistry) (actorId : ActrId) (serviceName : String) :
    Except String Unit × ServiceRegistry :=
  match r.services.lookup serviceName with
  | some services =>
    let kept := services.filter fun service => service.actorId ≠ actorId
    if kept.length = services.length then
      (.error ("未找到要注销的服务实例: " ++ serviceName ++ " (Actor " ++ toString actorId.serialNumber ++ ")"), r)
    else if kept.isEmpty then
      (.ok (), { r with
        services := r.services.erase serviceName
        messageTypeIndex := removeName r.messageTypeIndex serviceName }.dropName actorId serviceName)
    else (.ok (), { r with services := r.services.insert serviceName kept }.dropName actorId serviceName)
  | none => (.ok (), r.dropName actorId serviceName)

def unregisterService (r : ServiceRegistry) (actorId : ActrId) (serviceName : String) :
    Except String Unit × ServiceRegistry :=
  r.unregisterServiceMemoryOnly actorId serviceName

def unregisterActor (r : ServiceRegistry) (actorId : ActrId) : ServiceRegistry :=
  match r.actorIndex.lookup actorId with
  | some serviceNames =>
    serviceNames.foldl (fun r serviceName => (r.unregisterService actorId serviceName).2)
      { r with actorIndex := r.actorIndex.erase actorId }
  | none => r

def unregisterActorMemoryOnly (r : ServiceRegistry) (actorId : ActrId) : ServiceRegistry :=
  match r.actorIndex.lookup actorId with
  | some serviceNames =>
    serviceNames.foldl (fun r serviceName => (r.unregisterServiceMemoryOnly actorId serviceName).2) r
  | none => r

-- The difference wraps around if the last heartbeat is in the future.
def expired (now : UInt64) (service : ServiceInfo) : Bool :=
  serviceExpiryThresholdSecs < now - service.lastHeartbeatTimeSecs

def cleanupExpiredServices (r : ServiceRegistry) (now : UInt64) (order : List String) : ServiceRegistry :=
  let servicesToRemove := order.flatMap fun serviceName =>
    ((r.instancesOf serviceName).filter (expired now)).map fun service => (service.actorId, serviceName)
  servicesToRemove.foldl (fun r pair => (r.unregisterServiceMemoryOnly pair.1 pair.2).2) r

/-- `none` is the panic of a build with overflow checks at a heartbeat in the future. -/
def cleanupChecked (overflowChecks : Bool) (r : ServiceRegistry) (now : UInt64) (order : List String) :
    Option ServiceRegistry :=
  if overflowChecks ∧ ∃ serviceName ∈ order, ∃ service ∈ r.instancesOf serviceName, now < service.lastHeartbeatTimeSecs
  then none
  else some (r.cleanupExpiredServices now order)

def restoreService (r : ServiceRegistry) (service : ServiceInfo) : Bool × ServiceRegistry :=
  let inserted := ¬ (r.instancesOf service.serviceName).any (fun entry => entry.actorId = service.actorId)
  let newTypes := service.messageTypes.filter fun messageType =>
    service.serviceName ∉ namesOf r.messageTypeIndex messageType
  let actorNew := service.serviceName ∉ namesOf r.actorIndex service.actorId
  (inserted ∨ newTypes ≠ [] ∨ actorNew,
    { services := r.services.insert service.serviceName (r.instancesOf service.serviceName ++
        if inserted then [{ service with isRestoredFromStorage := true }] else [])
      messageTypeIndex := service.messageTypes.foldl
        (fun index messageType => index.insert messageType (pushNew (namesOf index messageType) service.serviceName))
        r.messageTypeIndex
      actorIndex := r.actorIndex.insert service.actorId
        (pushNew (namesOf r.actorIndex service.actorId) service.serviceName) })

def restoreMatching (actorId : ActrId) (state : Nat × ServiceRegistry) (service : ServiceInfo) :
    Nat × ServiceRegistry :=
  if service.actorId ≠ actorId then state
  else
    let (changed, r) := state.2.restoreService service
    (if changed then state.1 + 1 else state.1, r)

def restoreServiceFromStorage (r : ServiceRegistry) (actorId : ActrId)
    (loaded : Option (Except String (List ServiceInfo))) : Except String Bool × ServiceRegistry :=
  match loaded with
  | none => (.ok false, r)
  | some (.error error) => (.error ("Failed to load services from storage: " ++ error), r)
  | some (.ok services) =>
    let (restoredCount, r) := services.foldl (restoreMatching actorId) (0, r)
    (.ok (decide (0 < restoredCount)), r)

def discoverByMessageType (r : ServiceRegistry) (messageType : String) : List ServiceInfo :=
  (namesOf r.messageTypeIndex messageType).flatMap fun serviceName =>
    (r.instancesOf serviceName).filter fun service => service.status = .available

inductive Action where
  | restoreFromStorage (loaded : Option (Except String (List ServiceInfo)))
  | registerServiceFull (actorId : ActrId) (serviceName : String) (messageTypes : List String)
      (wsAddress : Option String) (now : UInt64)
  | restoreServiceFromStorage (actorId : ActrId) (loaded : Option (Except String (List ServiceInfo)))
  | updateLoadMetrics (actorId : ActrId) (metrics : LoadMetrics) (now : UInt64)
  | updateServiceStatus (actorId : ActrId) (serviceName : String) (status : ServiceStatus) (now : UInt64)
  | unregisterService (actorId : ActrId) (serviceName : String)
  | unregisterActor (actorId : ActrId)
  | unregisterActorMemoryOnly (actorId : ActrId)
  | cleanupExpiredServices (now : UInt64) (order : List String)

def step (r : ServiceRegistry) : Action → Option ServiceRegistry
  | .restoreFromStorage loaded => some (r.restoreFromStorage loaded).2
  | .registerServiceFull actorId serviceName messageTypes wsAddress now =>
    some (r.registerServiceFull actorId serviceName messageTypes wsAddress now)
  | .restoreServiceFromStorage actorId loaded => some (r.restoreServiceFromStorage actorId loaded).2
  | .updateLoadMetrics actorId metrics now => some (r.updateLoadMetrics actorId metrics now).2
  | .updateServiceStatus actorId serviceName status now => some (r.updateServiceStatus actorId serviceName status now).2
  | .unregisterService actorId serviceName => some (r.unregisterService actorId serviceName).2
  | .unregisterActor actorId => some (r.unregisterActor actorId)
  | .unregisterActorMemoryOnly actorId => some (r.unregisterActorMemoryOnly actorId)
  | .cleanupExpiredServices now order =>
    if order.Perm r.services.keys then some (r.cleanupExpiredServices now order) else none

end ServiceRegistry

end Actr.Actrix.Signaling
