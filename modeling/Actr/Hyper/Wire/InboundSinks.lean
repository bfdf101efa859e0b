import Actr.Library.Machine
import Actr.Protocol.ActrId
import Mathlib.Data.List.AList

/-!
# The sinks of inbound WebSocket connections

`spawn_connection_tasks` and `finish_lane_task` for any number of connections.
-/

namespace Actr.Hyper.Wire
open Protocol

-- `removing` and `hooking` are the places of the lane that found no other lane left.
inductive LaneTask where
  | running
  | removing
  | hooking
  | finished
  deriving DecidableEq, Repr

structure InboundConnection where
  peer : Option ActrId
  registered : Bool
  activeLanes : Nat
  lanes : List LaneTask
  -- whether a lane has taken the sink out, and how often the disconnected hook was called; nothing reads them
  removed : Bool
  disconnects : Nat
  deriving DecidableEq, Repr

def laneCount : Nat := 4

def InboundConnection.accepted (connection : InboundConnection) : Bool :=
  connection.registered && connection.lanes.length = laneCount

abbrev InboundSinkMap := AList (fun _ : ActrId => Nat)

structure InboundSinks where
  hookCallback : Bool
  inboundSinks : InboundSinkMap
  connections : List InboundConnection

namespace InboundSinks

def initial (hookCallback : Bool) : InboundSinks := ⟨hookCallback, ∅, []⟩

def setConnection (s : InboundSinks) (index : Nat) (connection : InboundConnection) : InboundSinks :=
  { s with connections := s.connections.set index connection }

def setLane (connection : InboundConnection) (lane : Nat) (task : LaneTask) : InboundConnection :=
  { connection with lanes := connection.lanes.set lane task }

def register (s : InboundSinks) (index : Nat) (connection : InboundConnection) : InboundSinks :=
  { s.setConnection index { connection with registered := true } with
    inboundSinks :=
      match connection.peer with
      | some peer => s.inboundSinks.insert peer index
      | none => s.inboundSinks }

def spawn (connection : InboundConnection) : InboundConnection :=
  { connection with activeLanes := connection.activeLanes + 1, lanes := connection.lanes ++ [.running] }

def finishLaneTask (connection : InboundConnection) (lane : Nat) : InboundConnection :=
  let remaining := connection.activeLanes - 1
  setLane { connection with activeLanes := remaining } lane
    (if remaining = 0 ∧ connection.peer.isSome then .removing else .finished)

def remove (s : InboundSinks) (index lane : Nat) (connection : InboundConnection) (peer : ActrId) : InboundSinks :=
  { s.setConnection index
      { setLane connection lane (if s.hookCallback then .hooking else .finished) with removed := true } with
    inboundSinks := s.inboundSinks.erase peer }

def callHook (connection : InboundConnection) (lane : Nat) : InboundConnection :=
  { setLane connection lane .finished with disconnects := connection.disconnects + 1 }

inductive Action where
  | accept (peer : Option ActrId)
  | register (index : Nat)
  | spawn (index : Nat)
  | laneEnds (index lane : Nat)
  | removeSink (index lane : Nat)
  | hook (index lane : Nat)

def step (s : InboundSinks) : Action → Option InboundSinks
  | .accept peer =>
    if s.connections.getLast?.all InboundConnection.accepted then
      some { s with connections := s.connections ++ [⟨peer, false, 0, [], false, 0⟩] }
    else none
  | .register index =>
    s.connections[index]?.bind fun connection =>
      if connection.registered then none else some (s.register index connection)
  | .spawn index =>
    s.connections[index]?.bind fun connection =>
      if connection.registered ∧ connection.lanes.length < laneCount then
        some (s.setConnection index (InboundSinks.spawn connection))
      else none
  | .laneEnds index lane =>
    s.connections[index]?.bind fun connection =>
      if connection.lanes[lane]? = some .running then some (s.setConnection index (finishLaneTask connection lane))
      else none
  | .removeSink index lane =>
    s.connections[index]?.bind fun connection =>
      if connection.lanes[lane]? = some .removing then connection.peer.map (s.remove index lane connection)
      else none
  | .hook index lane =>
    s.connections[index]?.bind fun connection =>
      if connection.lanes[lane]? = some .hooking then some (s.setConnection index (callHook connection lane))
      else none

end InboundSinks

end Actr.Hyper.Wire
