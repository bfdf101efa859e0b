import Actr.Hyper.Dispatch.Scheduler
import Actr.Hyper.Executor.Runner
import Actr.Hyper.Lifecycle.Admission
import Actr.Hyper.Wire.Gate
import Actr.Mailbox.Sqlite

/-!
# The mailbox loop and the shutdown of a node

The loop that dequeues batches of durable messages and dispatches them, with the reply and the acknowledgement of
each, next to the lane of the shell, the dispatch scheduler, the runner and the coordinator of the shutdown.
-/

namespace Actr.Hyper.Lifecycle
open Protocol Hyper.Dispatch Hyper.Executor Actr.Mailbox

def dispatchableDirection (rawDirection : Option Int) : Option Direction :=
  match Wire.directionForRouting rawDirection with
  | .ok .request => some .request
  | .ok .tell => some .tell
  | _ => none

def dispatchExpectsResponse (rawDirection : Option Int) : Option Bool :=
  (dispatchableDirection rawDirection).map fun direction => direction ≠ .tell

structure Inner extends Node where
  decodeEnvelope : Bytes → Option RpcEnvelope
  decodeActrId : Bytes → Option ActrId

/-- How a request is dispatched: not at all, by a job that the scheduler has refused or taken, or by a call. -/
inductive Path where
  | answered
  | refused
  | job (ticket : Nat)
  | call (ticket : Nat)
  deriving DecidableEq

-- `settled` is set when the reply is sent, and the message of a record acknowledged.
structure Request where
  record : Option MessageRecord
  path : Path
  settled : Bool
  deriving DecidableEq

inductive JobReply where
  | pending
  | sent (result : ActorResult Bytes)
  | lost
  deriving DecidableEq

structure Job where
  call : Option Nat
  reply : JobReply
  deriving DecidableEq

/-- What carries requests. `requests` are in the order of the tasks of `runtime`, and `jobs` in that of the scheduler's
tickets. -/
structure Core where
  runtime : Runtime
  scheduler : Scheduler
  runner : Runner
  requests : List Request
  jobs : List Job

/-- `incoming` admits a request, `resolve`, `woken` and `expired` give its continuation the result, and `settle` ends it.
`start` and `complete` are the ends of the body of a job. -/
inductive CoreAction where
  | incoming (record : Option MessageRecord) (callerId : Option ActrId) (envelope : RpcEnvelope) (now : Nat)
  | resolve (request now : Nat)
  | woken (request now : Nat)
  | expired (request now : Nat)
  | settle (request : Nat)
  | schedule (action : Dispatch.Action)
  | start (job : Nat)
  | complete (index : Nat)
  | run (action : Executor.Action)

namespace Core

def start (budget : Nat) (mode : RunnerMode) (hasDispatchTimeout : Bool) : Core where
  runtime := .initial
  scheduler := .spawn budget
  runner := .spawn mode hasDispatchTimeout
  requests := []
  jobs := []

def callOf (s : Core) (request : Request) : Option Nat :=
  match request.path with
  | .call ticket => some ticket
  | .job ticket => s.jobs[ticket]?.bind Job.call
  | _ => none

def returned (s : Core) (call : Nat) : Option (ActorResult Bytes) :=
  match s.runner.calls[call]?.map Call.phase with
  | some (.returned result) => some result
  | _ => none

-- `admit_incoming`, up to the first poll of its continuation.
def admitIncoming (s : Core) (inner : Inner) (record : Option MessageRecord) (callerId : Option ActrId)
    (envelope : RpcEnvelope) (now : Nat) : Option Core :=
  if s.runtime.clock ≤ now then
    let continuation := (inner.toNode.admitIncoming s.runtime.dedup now s.runtime.tasks.length envelope callerId).2
    let s := { s with runtime := s.runtime.handleIncoming inner.toNode callerId envelope now }
    match continuation with
    | .ready _ | .wait _ _ => some { s with requests := s.requests ++ [⟨record, .answered, false⟩] }
    | .dispatch none =>
      (s.runner.step (.call .dispatch)).map fun runner =>
        { s with runner, requests := s.requests ++ [⟨record, .call s.runner.calls.length, false⟩] }
    | .dispatch (some key) =>
      if !s.scheduler.admission || s.scheduler.cancelled then
        some { s with requests := s.requests ++ [⟨record, .refused, false⟩] }
      else
        (s.scheduler.step (.submit key)).map fun scheduler =>
          { s with
            scheduler
            requests := s.requests ++ [⟨record, .job s.scheduler.nextTicket, false⟩]
            jobs := s.jobs ++ [⟨none, .pending⟩] }
  else none

def resolution (s : Core) (index now : Nat) (request : Request) : Option Runtime.Action :=
  match request.path with
  | .answered => none
  | .refused => some (.terminated index now)
  | .call ticket => (s.returned ticket).map fun result => .dispatched index result now
  | .job ticket =>
    s.jobs[ticket]?.bind fun job =>
      match job.reply with
      | .pending => none
      | .sent result => some (.dispatched index result now)
      | .lost => some (.terminated index now)

def runtimeStep (s : Core) (inner : Inner) (action : Runtime.Action) : Option Core :=
  (s.runtime.step inner.toNode action).map fun runtime => { s with runtime }

def isResolved (task : Admission) : Bool :=
  match task.phase with
  | .resolved _ => true
  | _ => false

-- The scheduler's task, its submitters and its shutdown. A job whose send fails is lost.
def schedule (s : Core) : Dispatch.Action → Option Core
  | .acquire index => (s.scheduler.step (.acquire index)).map fun scheduler => { s with scheduler }
  | .send index =>
    match s.scheduler.submitters[index]? with
    | some submitter =>
      (s.scheduler.step (.send index)).map fun scheduler =>
        { s with
          scheduler
          jobs := if s.scheduler.receiverClosed || s.scheduler.exited
            then s.jobs.modify submitter.job.ticket fun job => { job with reply := .lost }
            else s.jobs }
    | none => none
  | .shutdown => (s.scheduler.step .shutdown).map fun scheduler => { s with scheduler }
  | .cancelObserved => (s.scheduler.step .cancelObserved).map fun scheduler => { s with scheduler }
  | .received => (s.scheduler.step .received).map fun scheduler => { s with scheduler }
  | .exit => (s.scheduler.step .exit).map fun scheduler => { s with scheduler }
  | _ => none

def step (inner : Inner) (s : Core) : CoreAction → Option Core
  | .incoming record callerId envelope now => s.admitIncoming inner record callerId envelope now
  | .resolve index now =>
    s.requests[index]?.bind fun request => (s.resolution index now request).bind (s.runtimeStep inner)
  | .woken index now => s.runtimeStep inner (.woken index now)
  | .expired index now => s.runtimeStep inner (.expired index now)
  | .settle index =>
    match s.requests[index]?, s.runtime.tasks[index]? with
    | some request, some task =>
      if isResolved task && !request.settled then
        some { s with requests := s.requests.set index { request with settled := true } }
      else none
    | _, _ => none
  | .schedule action => s.schedule action
  | .start ticket =>
    match s.jobs[ticket]? with
    | some ⟨none, .pending⟩ =>
      if s.scheduler.task.inflight.any fun flight => flight.job.ticket = ticket then
        (s.runner.step (.call .dispatch)).map fun runner =>
          { s with runner, jobs := s.jobs.set ticket ⟨some s.runner.calls.length, .pending⟩ }
      else none
    | _ => none
  | .complete index =>
    s.scheduler.task.inflight[index]?.bind fun flight =>
      s.jobs[flight.job.ticket]?.bind fun job =>
        (job.call.bind s.returned).bind fun result =>
          (s.scheduler.step (.completed index)).map fun scheduler =>
            { s with scheduler, jobs := s.jobs.set flight.job.ticket ⟨job.call, .sent result⟩ }
  | .run action => (s.runner.step action).map fun runner => { s with runner }

end Core

/-- `dequeuing` and `handling` hold the guard of the batch admission; `current` is the request that the loop awaits. -/
inductive MailboxLoop where
  | selecting
  | dequeuing
  | handling (rest : List MessageRecord) (current : Option Nat)
  | ended
  deriving DecidableEq

def MailboxLoop.holdsGuard : MailboxLoop → Bool
  | .dequeuing | .handling _ _ => true
  | _ => false

inductive Coordinator where
  | waiting
  | quiescing
  | closingScheduler
  | joiningScheduler
  | closingIntake
  | beforeStop
  | stopping (call : Nat)
  | closingAgain
  | beforeShutdown
  | joining (call : Nat)
  | finished
  deriving DecidableEq

def Coordinator.calls : Coordinator → List Nat
  | .stopping call | .joining call => [call]
  | _ => []

inductive Ack where
  | undecodable (record : MessageRecord)
  | invalidDirection (record : MessageRecord)
  | replied (request : Nat) (record : MessageRecord)
  deriving DecidableEq

-- `dequeued` and `acks` are ghosts.
structure NodeState extends Core where
  admissionOpen : Bool
  loop : MailboxLoop
  coordinator : Coordinator
  deadLetters : List MessageRecord
  dequeued : List MessageRecord
  acks : List Ack

/-- `enter` to `endLoop` are the steps of the mailbox loop, `reply` is the tail that replies and acknowledges, `stop` the
coordinator, and `others` what happens around them. -/
inductive NodeAction where
  | enter
  | dequeue (messages : List MessageRecord)
  | dequeueFailed
  | interrupted
  | next (now : Nat) (stored : Bool)
  | admitted
  | leaveBatch
  | endLoop
  | reply (request : Nat)
  | stop
  | others (action : CoreAction)

namespace NodeState

def start (budget : Nat) (mode : RunnerMode) (hasDispatchTimeout : Bool) : NodeState where
  toCore := .start budget mode hasDispatchTimeout
  admissionOpen := true
  loop := .selecting
  coordinator := .waiting
  deadLetters := []
  dequeued := []
  acks := []

/-- The calls whose futures are held by requests, jobs and the coordinator. -/
def owned (s : NodeState) : List Nat :=
  s.requests.filterMap s.callOf ++ s.jobs.filterMap Job.call ++ s.coordinator.calls

def perform (s : NodeState) (inner : Inner) (action : CoreAction) : Option NodeState :=
  (s.toCore.step inner action).map fun core => { s with toCore := core }

def next (s : NodeState) (inner : Inner) (record : MessageRecord) (rest : List MessageRecord) (now : Nat)
    (stored : Bool) : Option NodeState :=
  match inner.decodeEnvelope record.payload with
  | none =>
    some { s with
      loop := .handling rest none
      deadLetters := if stored then s.deadLetters ++ [record] else s.deadLetters
      acks := s.acks ++ [.undecodable record] }
  | some envelope =>
    match dispatchExpectsResponse envelope.direction with
    | none => some { s with loop := .handling rest none, acks := s.acks ++ [.invalidDirection record] }
    | some _ =>
      { s with loop := .handling rest (some s.requests.length) }.perform inner
        (.incoming (some record) (inner.decodeActrId record.sender) envelope now)

-- The submission of the record is over, so that the loop goes on while its continuation waits.
def submitted (s : NodeState) (request : Request) : Bool :=
  match request.path with
  | .job ticket => s.scheduler.submitters.all fun submitter => submitter.job.ticket ≠ ticket
  | _ => true

-- `mailbox_reply_and_ack`; the loop itself runs it when there is no scheduler.
def reply (s : NodeState) (inner : Inner) (index : Nat) (record : Option MessageRecord) : NodeState :=
  { s with
    acks := match record with
      | some record => s.acks ++ [.replied index record]
      | none => s.acks
    loop := match s.loop with
      | .handling rest current =>
        if current = some index ∧ inner.hasDispatchScheduler = false then .handling rest none
        else .handling rest current
      | loop => loop }

def isOthers (s : NodeState) : CoreAction → Bool
  | .incoming record callerId _ _ => record = none ∧ callerId = none
  | .settle _ | .schedule .shutdown => false
  | .run (.call command) => !command.isRaw
  | .run (.drop ticket) => ticket ∉ s.owned
  | .run .stopIntake | .run .dropHandle => false
  | _ => true

-- `spawn_workload_stop_task` and `shutdown_actor_runner`.
def coordinate (s : NodeState) (inner : Inner) : Option NodeState :=
  match s.coordinator with
  | .waiting => some { s with coordinator := .quiescing }
  | .quiescing =>
    if s.loop.holdsGuard then none else some { s with admissionOpen := false, coordinator := .closingScheduler }
  | .closingScheduler =>
    if inner.hasDispatchScheduler then
      { s with coordinator := .joiningScheduler }.perform inner (.schedule .shutdown)
    else some { s with coordinator := .closingIntake }
  | .joiningScheduler => if s.scheduler.exited then some { s with coordinator := .closingIntake } else none
  | .closingIntake => { s with coordinator := .beforeStop }.perform inner (.run .stopIntake)
  | .beforeStop =>
    { s with coordinator := .stopping s.runner.calls.length }.perform inner (.run (.call (.lifecycle .onStop)))
  | .stopping call => (s.returned call).map fun _ => { s with coordinator := .closingAgain }
  | .closingAgain => { s with coordinator := .beforeShutdown }.perform inner (.run .stopIntake)
  | .beforeShutdown =>
    { s with coordinator := .joining s.runner.calls.length }.perform inner (.run (.call .shutdown))
  | .joining call =>
    if (s.returned call).isSome && s.runner.loop = .exited then some { s with coordinator := .finished } else none
  | .finished => none

def step (inner : Inner) (s : NodeState) : NodeAction → Option NodeState
  | .enter =>
    if s.loop = .selecting then some { s with loop := if s.admissionOpen then .dequeuing else .ended } else none
  | .dequeue messages =>
    if s.loop = .dequeuing then
      some { s with
        loop := if messages = [] then .selecting else .handling messages none
        dequeued := s.dequeued ++ messages }
    else none
  | .dequeueFailed => if s.loop = .dequeuing then some { s with loop := .selecting } else none
  | .interrupted => if s.loop = .dequeuing then some { s with loop := .selecting } else none
  | .next now stored =>
    match s.loop with
    | .handling (record :: rest) none => s.next inner record rest now stored
    | _ => none
  | .admitted =>
    match s.loop with
    | .handling rest (some index) =>
      match s.requests[index]? with
      | some request =>
        if inner.hasDispatchScheduler && s.submitted request then some { s with loop := .handling rest none }
        else none
      | none => none
    | _ => none
  | .leaveBatch => if s.loop = .handling [] none then some { s with loop := .selecting } else none
  | .endLoop =>
    if s.loop = .selecting ∧ s.coordinator ≠ .waiting then some { s with loop := .ended } else none
  | .reply index =>
    s.requests[index]?.bind fun request => (s.reply inner index request.record).perform inner (.settle index)
  | .stop => s.coordinate inner
  | .others action => if s.isOthers action then s.perform inner action else none

end NodeState

end Actr.Hyper.Lifecycle
