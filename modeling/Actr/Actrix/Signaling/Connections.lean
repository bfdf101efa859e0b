import Actr.Actrix.Signaling.Server

/-!
# Connections that come and go

`handle_websocket_connection` and `cleanup_client`, one step for what a task does between two points at which it can
be suspended.
-/

namespace Actr.Actrix.Signaling
open Protocol

inductive ReceiveTask where
  | serving
  | unregistering
  | ending
  | ended
  deriving DecidableEq, Repr

inductive Connection where
  | accepted
  | running (receive : ReceiveTask)
  | closing
  | closed
  deriving DecidableEq, Repr

inductive Holder where
  | registering (clientId : String) (actorId : ActrId) (webrtcRole : Option String)
  | cleaning (clientId : String) (actorId : ActrId) (replacement : Option String)
  deriving DecidableEq, Repr

structure Connections where
  clients : Clients
  actorIdIndex : ActorIdIndex
  holder : Option Holder
  connections : AList fun _ : String => Connection
  latest : AList fun _ : ActrId => String

def removeStaleActorClients (clients : Clients) (actorId : ActrId) : List String × Clients :=
  let staleClientIds := (clients.entries.filter fun entry => entry.2.actorId = some actorId).map Sigma.fst
  (staleClientIds, staleClientIds.foldl (fun clients clientId => clients.erase clientId) clients)

namespace Connections

def init : Connections := ⟨∅, ∅, none, ∅, ∅⟩

inductive Action where
  | accept (clientId : String) (urlIdentity : Option ActrId) (webrtcRole : Option String)
  | register
  | spawn (clientId : String)
  | unregister (clientId : String)
  | stopReceiving (clientId : String)
  | cleanup (clientId : String)
  | releaseIndex
  | sendTaskEnds (clientId : String)
  | receiveTaskEnds (clientId : String)
  deriving DecidableEq, Repr

def cleanedUp : Connection → Option Connection
  | .running .unregistering => some (.running .serving)
  | .running .ending => some (.running .ended)
  | .closing => some .closed
  | _ => none

def setConnection (s : Connections) (clientId : String) (connection : Connection) : Connections :=
  { s with connections := s.connections.insert clientId connection }

def insertClient (s : Connections) (clientId : String) (actorId : Option ActrId) (webrtcRole : Option String) :
    Connections :=
  { s with clients := s.clients.insert clientId ⟨clientId, actorId, webrtcRole, true⟩ }.setConnection clientId .accepted

def accept (s : Connections) (clientId : String) (urlIdentity : Option ActrId) (webrtcRole : Option String) :
    Option Connections :=
  if s.holder = none ∧ s.connections.lookup clientId = none then
    match urlIdentity with
    | some actorId =>
      some { s with
        clients := (removeStaleActorClients s.clients actorId).2
        holder := some (.registering clientId actorId webrtcRole) }
    | none => some (s.insertClient clientId none webrtcRole)
  else none

def register (s : Connections) : Option Connections :=
  match s.holder with
  | some (.registering clientId actorId webrtcRole) =>
    some ({ s with
      actorIdIndex := s.actorIdIndex.insert actorId clientId
      holder := none
      latest := s.latest.insert actorId clientId }.insertClient clientId (some actorId) webrtcRole)
  | _ => none

def cleanup (s : Connections) (clientId : String) : Option Connections :=
  if s.holder ≠ none then none
  else
    match (s.connections.lookup clientId).bind cleanedUp with
    | none => none
    | some next =>
      match s.clients.lookup clientId with
      | none => some (s.setConnection clientId next)
      | some client =>
        let clients := s.clients.erase clientId
        match client.actorId with
        | none => some ({ s with clients }.setConnection clientId next)
        | some actorId =>
          let replacement := Server.replacementClientId clients clientId actorId
          some { s with clients, holder := some (.cleaning clientId actorId replacement) }

def releaseIndex (s : Connections) : Option Connections :=
  match s.holder with
  | some (.cleaning clientId actorId replacement) =>
    match (s.connections.lookup clientId).bind cleanedUp with
    | some next =>
      some ({ s with
        actorIdIndex := Server.releaseIndex s.actorIdIndex clientId actorId replacement
        holder := none }.setConnection clientId next)
    | none => none
  | _ => none

-- Only the receive task can hold the lock for a connection whose outer task still waits.
def abortReceive (holder : Option Holder) (clientId : String) : Option Holder :=
  match holder with
  | some (.cleaning cleaned actorId replacement) =>
    if cleaned = clientId then none else some (.cleaning cleaned actorId replacement)
  | other => other

def sendTaskEnds (s : Connections) (clientId : String) : Option Connections :=
  match s.connections.lookup clientId with
  | some (.running _) => some ({ s with holder := abortReceive s.holder clientId }.setConnection clientId .closing)
  | _ => none

def move (s : Connections) (clientId : String) (before after : Connection) : Option Connections :=
  if s.connections.lookup clientId = some before then some (s.setConnection clientId after) else none

def step (s : Connections) : Action → Option Connections
  | .accept clientId urlIdentity webrtcRole => s.accept clientId urlIdentity webrtcRole
  | .register => s.register
  | .spawn clientId => s.move clientId .accepted (.running .serving)
  | .unregister clientId => s.move clientId (.running .serving) (.running .unregistering)
  | .stopReceiving clientId => s.move clientId (.running .serving) (.running .ending)
  | .cleanup clientId => s.cleanup clientId
  | .releaseIndex => s.releaseIndex
  | .sendTaskEnds clientId => s.sendTaskEnds clientId
  | .receiveTaskEnds clientId => s.move clientId (.running .ended) .closing

end Connections

end Actr.Actrix.Signaling
