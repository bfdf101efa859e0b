import Actr.Hyper.Dispatch.ConflictKey
import Actr.Library.Machine

/-!
# The dispatch scheduler

`SchedulerTask` with its `enqueue`, `pump`, `start`, `on_complete` and `drop_queued`, and around it the intake
channel, the admission lock of `SchedulerHandle` and the `select!` loop of `run`.
-/

namespace Actr.Hyper.Dispatch

/-- A submitted job. The ticket stands for the boxed body, the reply sender, the slot permit and the
span that travel together under one submission. -/
structure DispatchJob where
  key : ConflictKey
  ticket : Nat
  deriving DecidableEq, Repr

structure Completion where
  key : ConflictKey
  job : DispatchJob
  deriving DecidableEq, Repr

/-- The task's own state. `enqueued`, `started` and `dropped` are ghost logs: the jobs handed to
`enqueue`, the jobs whose future was pushed and, per key, the jobs discarded by `drop_queued`. -/
structure SchedulerTask where
  budget : Nat
  queues : ConflictKey → Option (List DispatchJob)
  ready : List ConflictKey
  active : Finset ConflictKey
  inflight : List Completion
  enqueued : List DispatchJob
  started : List DispatchJob
  dropped : ConflictKey → List DispatchJob

namespace SchedulerTask

def new (budget : Nat) : SchedulerTask where
  budget := budget
  queues := fun _ => none
  ready := []
  active := ∅
  inflight := []
  enqueued := []
  started := []
  dropped := fun _ => []

def queueOf (task : SchedulerTask) (key : ConflictKey) : List DispatchJob :=
  (task.queues key).getD []

def enqueue (task : SchedulerTask) (job : DispatchJob) : SchedulerTask :=
  let wasEmpty := (task.queueOf job.key).isEmpty
  { task with
    queues := Function.update task.queues job.key (some (task.queueOf job.key ++ [job]))
    ready := if wasEmpty && !job.key.isSerial && !decide (job.key ∈ task.active)
      then task.ready ++ [job.key] else task.ready
    enqueued := task.enqueued ++ [job] }

def start (task : SchedulerTask) (key : ConflictKey) : SchedulerTask :=
  match task.queues key with
  | none => task
  | some [] => task
  | some (job :: rest) =>
    { task with
      queues := Function.update task.queues key (some rest)
      active := insert key task.active
      inflight := task.inflight ++ [⟨key, job⟩]
      started := task.started ++ [job] }

-- The round-robin loop of `pump`, on the keys still in `ready`; `start` never touches `ready`.
def pumpReady : List ConflictKey → SchedulerTask → SchedulerTask
  | [], task => task
  | key :: rest, task =>
    if task.inflight.length < task.budget then
      pumpReady rest (start { task with ready := rest } key)
    else task

def serialPending (task : SchedulerTask) : Bool :=
  !(task.queueOf .serial).isEmpty

def pump (task : SchedulerTask) : SchedulerTask :=
  if .serial ∈ task.active then task
  else if task.serialPending then
    if task.inflight.isEmpty then task.start .serial else task
  else pumpReady task.ready task

def onComplete (task : SchedulerTask) (key : ConflictKey) : SchedulerTask :=
  let inactive := { task with active := task.active.erase key }
  let settled :=
    if (inactive.queueOf key).isEmpty then
      { inactive with queues := Function.update inactive.queues key none }
    else if !key.isSerial then { inactive with ready := inactive.ready ++ [key] }
    else inactive
  settled.pump

def dropQueued (task : SchedulerTask) : SchedulerTask :=
  { task with
    queues := fun _ => none
    ready := []
    dropped := fun key => task.dropped key ++ task.queueOf key }

end SchedulerTask

structure Submitter where
  job : DispatchJob
  hasPermit : Bool
  deriving DecidableEq, Repr

/-- The scheduler with its handle: `admission` is the value under `SchedulerHandle::intake_open`,
`submitters` the calls holding its read side, `intakeOpen` the local of `run`. `admitted` is a ghost
log of the jobs whose channel send succeeded. -/
structure Scheduler where
  admission : Bool
  submitters : List Submitter
  nextTicket : Nat
  channel : List DispatchJob
  receiverClosed : Bool
  sendersGone : Bool
  cancelled : Bool
  intakeOpen : Bool
  exited : Bool
  task : SchedulerTask
  admitted : List DispatchJob

/-- `submit`, `acquire`, `send` and `abandon` are the segments of `submit` between its awaits,
`shutdown` the section of `shutdown` under the write lock, `dropSenders` the end of every sender; the
others are the branches of the loop in `run`. -/
inductive Action where
  | submit (key : ConflictKey)
  | acquire (index : Nat)
  | send (index : Nat)
  | abandon (index : Nat)
  | shutdown
  | dropSenders
  | cancelObserved
  | received
  | disconnected
  | completed (index : Nat)
  | exit
  deriving DecidableEq, Repr

def Action.isLoop : Action → Bool
  | .cancelObserved | .received | .disconnected | .completed _ | .exit => true
  | _ => false

namespace Scheduler

def spawn (budget : Nat) : Scheduler where
  admission := true
  submitters := []
  nextTicket := 0
  channel := []
  receiverClosed := false
  sendersGone := false
  cancelled := false
  intakeOpen := true
  exited := false
  task := .new (max budget 1)
  admitted := []

-- The slot semaphore of `submit` is left to the environment: `acquire` may happen at any time.
def step (s : Scheduler) : Action → Option Scheduler
  | .submit key =>
    if s.sendersGone then none
    else if !s.admission || s.cancelled then some s
    else some { s with
      submitters := s.submitters ++ [⟨⟨key, s.nextTicket⟩, false⟩]
      nextTicket := s.nextTicket + 1 }
  | .acquire index =>
    match s.submitters[index]? with
    | some ⟨job, false⟩ => some { s with submitters := s.submitters.set index ⟨job, true⟩ }
    | _ => none
  | .send index =>
    match s.submitters[index]? with
    | some ⟨job, true⟩ =>
      let released := { s with submitters := s.submitters.eraseIdx index }
      if s.receiverClosed || s.exited then some released
      else some { released with channel := s.channel ++ [job], admitted := s.admitted ++ [job] }
    | _ => none
  | .abandon index =>
    if index < s.submitters.length then some { s with submitters := s.submitters.eraseIdx index }
    else none
  | .shutdown =>
    if s.submitters.isEmpty && !s.sendersGone then
      some { s with admission := false, cancelled := true }
    else none
  | .dropSenders =>
    if s.submitters.isEmpty then some { s with sendersGone := true } else none
  | .cancelObserved =>
    if s.intakeOpen && s.cancelled && !s.exited then
      some { s with
        intakeOpen := false
        receiverClosed := true
        channel := []
        task := (s.channel.foldl SchedulerTask.enqueue s.task).pump }
    else none
  | .received =>
    match s.channel with
    | job :: rest =>
      if s.intakeOpen && !s.exited then
        some { s with channel := rest, task := (s.task.enqueue job).pump }
      else none
    | [] => none
  | .disconnected =>
    if s.intakeOpen && s.sendersGone && s.channel.isEmpty && !s.exited then
      some { s with intakeOpen := false, task := s.task.dropQueued }
    else none
  | .completed index =>
    match s.task.inflight[index]? with
    | some flight =>
      if s.exited then none
      else some { s with
        task := SchedulerTask.onComplete
          { s.task with inflight := s.task.inflight.eraseIdx index } flight.key }
    | none => none
  | .exit =>
    if !s.intakeOpen && s.task.inflight.isEmpty && !s.exited then some { s with exited := true }
    else none

end Scheduler

end Actr.Hyper.Dispatch
