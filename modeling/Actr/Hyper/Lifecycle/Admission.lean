import Actr.Hyper.Dispatch.ConflictKey
import Actr.Hyper.Lifecycle.Dedup
import Actr.Library.Machine
import Actr.Runtime.Acl

/-!
# Admission of inbound requests

`admit_incoming` up to the continuation it returns, and the continuation: an answer that is ready, the wait for the
result of an earlier request with the same id, or the dispatch with its dedup completion.
-/

namespace Actr.Hyper.Lifecycle
open Protocol Actr.Runtime Hyper.Dispatch

/-- What `admit_incoming` reads of the node. The credential itself only goes into the context of the call,
and `dispatch_scheduler` is present exactly when the gate is on. -/
structure Node where
  actorId : Option ActrId
  acl : Option Acl
  hasCredentialState : Bool
  hasDispatchScheduler : Bool
  conflictKeys : ConflictKeySpec

inductive IncomingContinuation where
  | ready (result : ActorResult Bytes)
  | wait (waiter : Nat) (timeout : Nat)
  | dispatch (key : Option ConflictKey)

def envelopeIsTell (envelope : RpcEnvelope) : Bool := envelope.direction == some Direction.tell.toInt

def nanosPerMilli : Nat := 1000000

def duplicateWaitTimeout (timeoutMs : Int) : Nat :=
  if timeoutMs > 0 then timeoutMs.toNat * nanosPerMilli else dedupTtl

def actorIdNotSet : ActrError :=
  .internal "Actor ID not set - node must be started before handling messages"

def credentialNotSet : ActrError :=
  .internal "Credential not set - node must be started before handling messages"

def aclDenied (callerId : Option ActrId) (actorId : ActrId) : ActrError :=
  .permissionDenied ("ACL denied: " ++ (callerId.map ActrId.toStringRepr).getD "<unknown>" ++
    " is not allowed to call " ++ actorId.toStringRepr)

def schedulerTerminated : ActrError := .unavailable "dispatch scheduler terminated"

def duplicateTimedOut (timeout : Nat) : ActrError :=
  .unavailable ("duplicate request in-flight timed out after " ++ toString (timeout / nanosPerMilli) ++ "ms")

def duplicateUnavailable : ActrError := .unavailable "duplicate request result unavailable"

namespace Node

def refusal (node : Node) (callerId : Option ActrId) : Option ActrError :=
  match node.actorId with
  | none => some actorIdNotSet
  | some actorId =>
    match checkAclPermission callerId actorId node.acl with
    | .error message => some (.internal ("ACL check failed: " ++ message))
    | .ok allowed => if allowed then none else some (aclDenied callerId actorId)

def admitIncoming (node : Node) (dedup : DedupState) (now channel : Nat) (envelope : RpcEnvelope)
    (callerId : Option ActrId) : DedupState × IncomingContinuation :=
  match node.refusal callerId with
  | some error => (dedup, .ready (.error error))
  | none =>
    match dedup.checkOrMark now envelope.requestId channel with
    | (dedup, .inFlight waiter) =>
      if envelopeIsTell envelope then (dedup, .ready (.ok []))
      else (dedup, .wait waiter (duplicateWaitTimeout envelope.timeoutMs))
    | (dedup, .duplicate cached) => (dedup, .ready cached)
    | (dedup, .fresh) =>
      if node.hasCredentialState then
        let key := node.conflictKeys.extract envelope.routeKey callerId (envelope.payload.getD [])
        (dedup, .dispatch (if node.hasDispatchScheduler then some key else none))
      else (dedup, .ready (.error credentialNotSet))

end Node

def cachedResult (isTell : Bool) (result : ActorResult Bytes) : ActorResult Bytes :=
  match result, isTell with
  | .ok _, true => .ok []
  | _, _ => result

def pollWaiter (channel : WatchChannel) : Option (ActorResult Bytes) :=
  match channel.value with
  | some result => some result
  | none => if channel.senderAlive then none else some (.error duplicateUnavailable)

inductive Phase where
  | waiting (waiter since timeout : Nat)
  | dispatching
  | resolved (reply : ActorResult Bytes)
  deriving DecidableEq

/-- Ghost: what the dedup table made of a request, with the request whose entry it met. -/
inductive Role where
  | refused
  | original
  | waited (owner : Nat)
  | cached (owner : Nat)
  | dropped (owner : Nat)
  deriving DecidableEq

/-- A request handled by the node; its place in the list of tasks also names its watch channel. `role` and
`dispatched`, the result its own dispatch had, are ghosts. -/
structure Admission where
  callerId : Option ActrId
  envelope : RpcEnvelope
  phase : Phase
  role : Role
  dispatched : Option (ActorResult Bytes)
  deriving DecidableEq

-- Ghost: a request that `check_or_mark` found fresh, and the time and result of its `complete`.
structure Flight where
  ticket : Nat
  requestId : String
  markedAt : Nat
  completion : Option (Nat × ActorResult Bytes)
  deriving DecidableEq

-- Ghost: a call of `check_or_mark`, with the flights before it.
structure Check where
  requestId : String
  time : Nat
  flights : List Flight
  deriving DecidableEq

-- The ghost lists `flights` and `checks` have their newest element in front.
structure Runtime where
  dedup : DedupState
  clock : Nat
  tasks : List Admission
  flights : List Flight
  checks : List Check

namespace Runtime

def initial : Runtime where
  dedup := .new
  clock := 0
  tasks := []
  flights := []
  checks := []

def lastFlight (runtime : Runtime) (requestId : String) : Option Flight :=
  runtime.flights.find? fun flight => flight.requestId == requestId

def roleOf (runtime : Runtime) (envelope : RpcEnvelope) : DedupOutcome → Role
  | .fresh => .original
  | .inFlight waiter => if envelopeIsTell envelope then .dropped waiter else .waited waiter
  | .duplicate _ => .cached (((runtime.lastFlight envelope.requestId).map Flight.ticket).getD 0)

def admitted (callerId : Option ActrId) (envelope : RpcEnvelope) (now : Nat) (role : Role) :
    IncomingContinuation → Admission
  | .ready result => ⟨callerId, envelope, .resolved result, role, none⟩
  | .wait waiter timeout => ⟨callerId, envelope, .waiting waiter now timeout, role, none⟩
  | .dispatch _ => ⟨callerId, envelope, .dispatching, role, none⟩

def handleIncoming (node : Node) (runtime : Runtime) (callerId : Option ActrId) (envelope : RpcEnvelope) (now : Nat) :
    Runtime :=
  let ticket := runtime.tasks.length
  let (dedup, continuation) := node.admitIncoming runtime.dedup now ticket envelope callerId
  match node.refusal callerId with
  | some _ =>
    { runtime with
      dedup := dedup
      clock := now
      tasks := runtime.tasks ++ [admitted callerId envelope now .refused continuation] }
  | none =>
    let outcome := (runtime.dedup.checkOrMark now envelope.requestId ticket).2
    { dedup := dedup
      clock := now
      tasks := runtime.tasks ++ [admitted callerId envelope now (runtime.roleOf envelope outcome) continuation]
      flights :=
        if outcome = .fresh then ⟨ticket, envelope.requestId, now, none⟩ :: runtime.flights
        else runtime.flights
      checks := ⟨envelope.requestId, now, runtime.flights⟩ :: runtime.checks }

def finish (runtime : Runtime) (ticket : Nat) (task : Admission) (result : ActorResult Bytes)
    (dispatched : Option (ActorResult Bytes)) (now : Nat) : Runtime :=
  let cached := cachedResult (envelopeIsTell task.envelope) result
  { runtime with
    dedup := runtime.dedup.complete task.envelope.requestId cached
    clock := now
    tasks := runtime.tasks.set ticket { task with phase := .resolved result, dispatched := dispatched }
    flights := runtime.flights.map fun flight =>
      if flight.ticket = ticket then { flight with completion := some (now, cached) } else flight }

def resolve (runtime : Runtime) (ticket : Nat) (task : Admission) (reply : ActorResult Bytes) (now : Nat) : Runtime :=
  { runtime with clock := now, tasks := runtime.tasks.set ticket { task with phase := .resolved reply } }

/-- `dispatched` is the end of a dispatch with its result and `terminated` the loss of the job by the
scheduler; `woken` and `expired` end the wait of a duplicate. -/
inductive Action where
  | incoming (callerId : Option ActrId) (envelope : RpcEnvelope) (now : Nat)
  | dispatched (ticket : Nat) (result : ActorResult Bytes) (now : Nat)
  | terminated (ticket : Nat) (now : Nat)
  | woken (ticket : Nat) (now : Nat)
  | expired (ticket : Nat) (now : Nat)

def Action.time : Action → Nat
  | .incoming _ _ now | .dispatched _ _ now | .terminated _ now | .woken _ now | .expired _ now => now

def perform (node : Node) (runtime : Runtime) : Action → Option Runtime
  | .incoming callerId envelope now => some (runtime.handleIncoming node callerId envelope now)
  | .dispatched ticket result now =>
    match runtime.tasks[ticket]? with
    | some task =>
      if task.phase = .dispatching then some (runtime.finish ticket task result (some result) now) else none
    | none => none
  | .terminated ticket now =>
    match runtime.tasks[ticket]? with
    | some task =>
      if node.hasDispatchScheduler ∧ task.phase = .dispatching then
        some (runtime.finish ticket task (.error schedulerTerminated) none now)
      else none
    | none => none
  | .woken ticket now =>
    match runtime.tasks[ticket]? with
    | some task =>
      match task.phase with
      | .waiting waiter _ _ =>
        ((runtime.dedup.channels waiter).bind pollWaiter).map fun result =>
          runtime.resolve ticket task result now
      | _ => none
    | none => none
  | .expired ticket now =>
    match runtime.tasks[ticket]? with
    | some task =>
      match task.phase with
      | .waiting _ since timeout =>
        if since + timeout ≤ now then
          some (runtime.resolve ticket task (.error (duplicateTimedOut timeout)) now)
        else none
      | _ => none
    | none => none

def step (node : Node) (runtime : Runtime) (action : Action) : Option Runtime :=
  if runtime.clock ≤ action.time then runtime.perform node action else none

end Runtime

end Actr.Hyper.Lifecycle
