import Actr.Library.Machine
import Actr.Protocol.ActrId
import Actr.Protocol.Envelope

/-!
# The registry of data streams

Every stream has a worker task with a bounded queue, spawned by the first dispatch that finds no other and left to
drain when the stream is unregistered.
-/

namespace Actr.Hyper.Inbound
open Protocol

structure DataChunk where
  streamId : String
  sequence : Nat
  payload : Bytes
  deriving DecidableEq

abbrev DataChunkCallback := Nat

/-- `ticket` and `seen` are ghosts: the number of the dispatch, and how many registrations and
unregistrations had been made when it took the callback. -/
structure QueuedChunk where
  chunk : DataChunk
  senderId : ActrId
  callback : DataChunkCallback
  ticket : Nat
  seen : Nat
  deriving DecidableEq

/-- `hasTx` tells whether the table still holds a sender; the task itself is found under its generation. -/
structure StreamWorker where
  hasTx : Bool
  generation : Nat
  deriving DecidableEq

structure StreamEntry where
  callback : Option DataChunkCallback
  worker : Option StreamWorker
  deriving DecidableEq

/-- `left` is behind the loop, `finished` and `notified` follow the two writes of `mark_finished`. -/
inductive WorkerPhase where
  | receiving
  | running (queued : QueuedChunk)
  | left
  | finished
  | notified
  | exited
  | aborted
  deriving DecidableEq

structure WorkerTask where
  streamId : String
  queue : List QueuedChunk
  phase : WorkerPhase
  deriving DecidableEq

def WorkerTask.isFinished (worker : WorkerTask) : Bool :=
  match worker.phase with
  | .finished | .notified | .exited => true
  | _ => false

def WorkerTask.isNotified (worker : WorkerTask) : Bool :=
  match worker.phase with
  | .notified | .exited => true
  | _ => false

def WorkerTask.isClosed (worker : WorkerTask) : Bool :=
  match worker.phase with
  | .exited | .aborted => true
  | _ => false

/-- Where a dispatch is: in front of the locked section of `worker_tx`, waiting there for a worker that drains,
or holding a sender. -/
inductive DispatchPhase where
  | looking
  | subscribing (generation : Nat)
  | waiting (generation : Nat)
  | sending (generation : Nat) (queued : QueuedChunk)
  | stalled (generation : Nat) (queued : QueuedChunk)
  | returned
  | dropped
  deriving DecidableEq

-- The ghost `begun` counts the registrations and unregistrations before the call.
structure Dispatch where
  chunk : DataChunk
  senderId : ActrId
  payloadType : PayloadType
  phase : DispatchPhase
  begun : Nat
  deriving DecidableEq

def Dispatch.holdsTx (dispatch : Dispatch) (generation : Nat) : Bool :=
  match dispatch.phase with
  | .sending holding _ | .stalled holding _ => holding == generation
  | _ => false

def Dispatch.isStalled (dispatch : Dispatch) (generation : Nat) : Bool :=
  match dispatch.phase with
  | .stalled waiting _ => waiting == generation
  | _ => false

/-- `cancelled` is the shutdown token. The last three fields are ghosts, with the newest element at the end:
what was registered and unregistered, the chunks that went into a queue, and the calls of callbacks. -/
structure Registry where
  streams : String → Option StreamEntry
  shuttingDown : Bool
  nextGeneration : Nat
  cancelled : Bool
  queueDepth : Nat
  panicCount : Nat
  droppedCount : Nat
  workers : List WorkerTask
  dispatches : List Dispatch
  registrations : List (String × Option DataChunkCallback)
  accepted : List QueuedChunk
  delivered : List QueuedChunk

namespace Registry

def build (queueDepth : Nat) : Registry where
  streams _ := none
  shuttingDown := false
  nextGeneration := 0
  cancelled := false
  queueDepth := queueDepth
  panicCount := 0
  droppedCount := 0
  workers := []
  dispatches := []
  registrations := []
  accepted := []
  delivered := []

def isFinished (registry : Registry) (generation : Nat) : Bool :=
  match registry.workers[generation]? with
  | some worker => worker.isFinished
  | none => false

def register (registry : Registry) (streamId : String) (callback : DataChunkCallback) : Registry :=
  if registry.shuttingDown || registry.cancelled then registry
  else
    let entry := (registry.streams streamId).getD ⟨none, none⟩
    { registry with
      streams := Function.update registry.streams streamId (some { entry with callback := some callback })
      registrations := registry.registrations ++ [(streamId, some callback)] }

def unregister (registry : Registry) (streamId : String) : Registry :=
  let registry := { registry with registrations := registry.registrations ++ [(streamId, none)] }
  match registry.streams streamId with
  | none => registry
  | some entry =>
    let shouldRemove :=
      match entry.worker with
      | none => true
      | some worker => registry.isFinished worker.generation
    let kept : StreamEntry := ⟨none, entry.worker.map fun worker => { worker with hasTx := false }⟩
    { registry with
      streams := Function.update registry.streams streamId (if shouldRemove then none else some kept) }

def setPhase (registry : Registry) (call : Nat) (phase : DispatchPhase) : Registry :=
  { registry with dispatches := registry.dispatches.modify call fun dispatch => { dispatch with phase := phase } }

def spawnWorker (registry : Registry) (streamId : String) (entry : StreamEntry) : Registry :=
  { registry with
    nextGeneration := registry.nextGeneration + 1
    workers := registry.workers ++ [⟨streamId, [], .receiving⟩]
    streams := Function.update registry.streams streamId
      (some { entry with worker := some ⟨true, registry.nextGeneration⟩ }) }

def workerTx (registry : Registry) (call : Nat) (dispatch : Dispatch) : Registry :=
  if registry.shuttingDown || registry.cancelled then registry.setPhase call .returned
  else
    match registry.streams dispatch.chunk.streamId with
    | none => registry.setPhase call .returned
    | some entry =>
      match entry.callback with
      | none => registry.setPhase call .returned
      | some callback =>
        let queued : QueuedChunk :=
          ⟨dispatch.chunk, dispatch.senderId, callback, call, registry.registrations.length⟩
        let spawned := (registry.spawnWorker dispatch.chunk.streamId entry).setPhase call
          (.sending registry.nextGeneration queued)
        match entry.worker with
        | none => spawned
        | some worker =>
          if registry.isFinished worker.generation then spawned
          else if worker.hasTx then registry.setPhase call (.sending worker.generation queued)
          else registry.setPhase call (.subscribing worker.generation)

def push (registry : Registry) (call generation : Nat) (queued : QueuedChunk) : Registry :=
  { registry.setPhase call .returned with
    workers := registry.workers.modify generation fun worker => { worker with queue := worker.queue ++ [queued] }
    accepted := registry.accepted ++ [queued] }

def overflow (registry : Registry) (call generation : Nat) (queued : QueuedChunk) : PayloadType → Registry
  | .streamLatencyFirst =>
    { registry.setPhase call .returned with droppedCount := registry.droppedCount + 1 }
  | _ => registry.setPhase call (.stalled generation queued)

/-- Free places of the queue go to stalled senders first, so that a send may find the queue full (`full`)
while some of them have not yet used theirs. -/
inductive DispatchStep where
  | look
  | subscribe
  | wake
  | giveUp
  | trySend (full : Bool)
  | send
  | drop
  deriving DecidableEq

def resume (registry : Registry) (call : Nat) (dispatch : Dispatch) : DispatchStep → Option Registry
  | .look => if dispatch.phase = .looking then some (registry.workerTx call dispatch) else none
  | .subscribe =>
    match dispatch.phase with
    | .subscribing generation =>
      some (registry.setPhase call (if registry.isFinished generation then .looking else .waiting generation))
    | _ => none
  | .wake =>
    match dispatch.phase with
    | .waiting generation =>
      match registry.workers[generation]? with
      | some worker => if worker.isNotified then some (registry.setPhase call .looking) else none
      | none => none
    | _ => none
  | .giveUp =>
    match dispatch.phase with
    | .waiting _ => if registry.cancelled then some (registry.setPhase call .returned) else none
    | _ => none
  | .trySend full =>
    match dispatch.phase with
    | .sending generation queued =>
      match registry.workers[generation]? with
      | none => none
      | some worker =>
        if worker.isClosed then some (registry.setPhase call .returned)
        else if full then
          if registry.queueDepth ≤ worker.queue.length ∨
              registry.dispatches.any (fun other => other.isStalled generation) then
            some (registry.overflow call generation queued dispatch.payloadType)
          else none
        else if worker.queue.length < registry.queueDepth then some (registry.push call generation queued)
        else none
    | _ => none
  | .send =>
    match dispatch.phase with
    | .stalled generation queued =>
      match registry.workers[generation]? with
      | none => none
      | some worker =>
        if worker.isClosed then some (registry.setPhase call .returned)
        else if worker.queue.length < registry.queueDepth then some (registry.push call generation queued)
        else none
    | _ => none
  | .drop =>
    match dispatch.phase with
    | .looking | .waiting _ | .stalled _ _ => some (registry.setPhase call .dropped)
    | _ => none

def hasSender (registry : Registry) (generation : Nat) (worker : WorkerTask) : Bool :=
  registry.dispatches.any (fun dispatch => dispatch.holdsTx generation) ||
    match registry.streams worker.streamId with
    | some entry => entry.worker == some ⟨true, generation⟩
    | none => false

inductive WorkerStep where
  | recv
  | drained
  | stop
  | callbackDone (panicked : Bool)
  | markFinished
  | notify
  | cleanup
  | abort
  deriving DecidableEq

def setWorker (registry : Registry) (generation : Nat) (worker : WorkerTask) : Registry :=
  { registry with workers := registry.workers.set generation worker }

def cleanup (registry : Registry) (generation : Nat) (worker : WorkerTask) : Registry :=
  let shouldRemove :=
    match registry.streams worker.streamId with
    | some entry =>
      entry.callback.isNone &&
        match entry.worker with
        | some current => current.generation == generation
        | none => false
    | none => false
  { registry.setWorker generation { worker with phase := .exited } with
    streams := if shouldRemove then Function.update registry.streams worker.streamId none else registry.streams }

def work (registry : Registry) (generation : Nat) (worker : WorkerTask) : WorkerStep → Option Registry
  | .recv =>
    if worker.phase = .receiving then
      match worker.queue with
      | [] => none
      | queued :: rest =>
        some { registry.setWorker generation { worker with queue := rest, phase := .running queued } with
          delivered := registry.delivered ++ [queued] }
    else none
  | .drained =>
    if worker.phase = .receiving ∧ worker.queue = [] ∧ registry.hasSender generation worker = false then
      some (registry.setWorker generation { worker with phase := .left })
    else none
  | .stop =>
    if worker.phase = .receiving ∧ registry.cancelled then
      some (registry.setWorker generation { worker with phase := .left })
    else none
  | .callbackDone panicked =>
    match worker.phase with
    | .running _ =>
      some { registry.setWorker generation { worker with phase := .receiving } with
        panicCount := if panicked then registry.panicCount + 1 else registry.panicCount }
    | _ => none
  | .markFinished =>
    if worker.phase = .left then some (registry.setWorker generation { worker with phase := .finished }) else none
  | .notify =>
    if worker.phase = .finished then some (registry.setWorker generation { worker with phase := .notified })
    else none
  | .cleanup => if worker.phase = .notified then some (registry.cleanup generation worker) else none
  | .abort =>
    match worker.phase with
    | .receiving | .running _ =>
      if registry.shuttingDown then some (registry.setWorker generation { worker with phase := .aborted })
      else none
    | _ => none

inductive Action where
  | register (streamId : String) (callback : DataChunkCallback)
  | unregister (streamId : String)
  | dispatch (chunk : DataChunk) (senderId : ActrId) (payloadType : PayloadType)
  | dispatcher (call : Nat) (move : DispatchStep)
  | worker (generation : Nat) (move : WorkerStep)
  | cancel
  | drain

def step (registry : Registry) : Action → Option Registry
  | .register streamId callback => some (registry.register streamId callback)
  | .unregister streamId => some (registry.unregister streamId)
  | .dispatch chunk senderId payloadType =>
    some { registry with
      dispatches := registry.dispatches ++
        [⟨chunk, senderId, payloadType, .looking, registry.registrations.length⟩] }
  | .dispatcher call move =>
    match registry.dispatches[call]? with
    | some dispatch => registry.resume call dispatch move
    | none => none
  | .worker generation move =>
    match registry.workers[generation]? with
    | some worker => registry.work generation worker move
    | none => none
  | .cancel => some { registry with cancelled := true }
  | .drain =>
    if registry.cancelled then some { registry with shuttingDown := true, streams := fun _ => none } else none

end Registry

end Actr.Hyper.Inbound
