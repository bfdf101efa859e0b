import Actr.Actrix.Signaling.Connections
import Actr.Actrix.Signaling.Requests

/-!
# Connections with their registry entries and subscriptions

The accept path of a connection enters its actor into the service registry after it has let go of `clients`, and the
cleanup of a connection that found no replacement takes it out after it has let go of `clients`, too.
-/

namespace Actr.Actrix.Signaling
open Protocol

structure Sessions where
  tables : Connections
  serviceRegistry : ServiceRegistry
  presenceManager : PresenceManager
  enrolling : AList fun _ : String => ActrId
  releasing : AList fun _ : String => ActrId × Server.CleanupMode
  lapsed : List ActrId

def serviceNameOf (actorId : ActrId) : String := actorId.type.manufacturer ++ ":" ++ actorId.type.name

def cleanupMode : Option Connection → Server.CleanupMode
  | some (.running .unregistering) => .explicitUnregister
  | _ => .connectionClosed

namespace Sessions

def start (loaded : Option (Except String (List ServiceInfo))) : Sessions :=
  ⟨.init, (ServiceRegistry.empty.restoreFromStorage loaded).2, .empty, ∅, ∅, []⟩

inductive Action where
  | connection (action : Connections.Action)
  | enroll (clientId : String) (wsAddress : Option String) (now : UInt64)
  | releaseServices (clientId : String)
  | ping (clientId : String) (source : ActrId) (world : World) (ping : Ping) (now : UInt64)
  | subscribe (clientId : String) (source : ActrId) (targetType : ActrType)
  | unsubscribe (clientId : String) (source : ActrId) (targetType : ActrType)
  | expire (now : UInt64) (order : List String)

def advance (s : Sessions) (action : Connections.Action) : Option Sessions :=
  (s.tables.step action).map fun tables => { s with tables }

def whenIdle (s : Sessions) (clientId : String) (next : Option Sessions) : Option Sessions :=
  if s.releasing.lookup clientId = none then next else none

def connect (s : Sessions) (action : Connections.Action) : Option Sessions :=
  match action with
  | .accept _ _ _ => s.advance action
  | .register =>
    match s.tables.holder with
    | some (.registering clientId actorId _) =>
      (s.advance action).map fun t => { t with enrolling := t.enrolling.insert clientId actorId }
    | _ => none
  | .spawn clientId => if s.enrolling.lookup clientId = none then s.advance action else none
  | .unregister clientId | .stopReceiving clientId | .cleanup clientId | .receiveTaskEnds clientId =>
    s.whenIdle clientId (s.advance action)
  | .releaseIndex =>
    match s.tables.holder with
    | some (.cleaning clientId actorId none) =>
      let mode := cleanupMode (s.tables.connections.lookup clientId)
      (s.advance action).map fun t => { t with releasing := t.releasing.insert clientId (actorId, mode) }
    | _ => s.advance action
  | .sendTaskEnds clientId => (s.advance action).map fun t => { t with releasing := t.releasing.erase clientId }

def enroll (s : Sessions) (clientId : String) (wsAddress : Option String) (now : UInt64) : Option Sessions :=
  (s.enrolling.lookup clientId).map fun actorId =>
    { s with
      serviceRegistry := s.serviceRegistry.registerServiceFull actorId (serviceNameOf actorId) [] wsAddress now
      enrolling := s.enrolling.erase clientId
      lapsed := s.lapsed.filter (· ≠ actorId) }

def releaseServices (s : Sessions) (clientId : String) : Option Sessions :=
  (s.releasing.lookup clientId).map fun (actorId, mode) =>
    { s with
      serviceRegistry := Server.releaseServices s.serviceRegistry actorId mode
      releasing := s.releasing.erase clientId }

def whenServing (s : Sessions) (clientId : String) (next : Sessions) : Option Sessions :=
  if s.tables.connections.lookup clientId = some (.running .serving) then s.whenIdle clientId (some next) else none

def lapsing (registry : ServiceRegistry) (now : UInt64) (order : List String) : List ActrId :=
  order.flatMap fun serviceName =>
    ((registry.instancesOf serviceName).filter fun service =>
      ServiceRegistry.expired now service ∧ serviceNameOf service.actorId = serviceName).map fun service => service.actorId

def expire (s : Sessions) (now : UInt64) (order : List String) : Option Sessions :=
  if order.Perm s.serviceRegistry.services.keys then
    some { s with
      serviceRegistry := s.serviceRegistry.cleanupExpiredServices now order
      lapsed := s.lapsed ++ lapsing s.serviceRegistry now order }
  else none

def step (s : Sessions) : Action → Option Sessions
  | .connection action => s.connect action
  | .enroll clientId wsAddress now => s.enroll clientId wsAddress now
  | .releaseServices clientId => s.releaseServices clientId
  | .ping clientId source world ping now =>
    s.whenServing clientId { s with serviceRegistry := Server.pinged world s.serviceRegistry source ping now }
  | .subscribe clientId source targetType =>
    s.whenServing clientId { s with presenceManager := s.presenceManager.subscribe source targetType }
  | .unsubscribe clientId source targetType =>
    s.whenServing clientId { s with presenceManager := (s.presenceManager.unsubscribe source targetType).2 }
  | .expire now order => s.expire now order

end Sessions

end Actr.Actrix.Signaling
