import Actr.Library.Machine
import Actr.Protocol.Envelope

/-!
# The actor runner

The task that owns a workload, with its two loops `run_loop` and `run_loop_interleaved`, and the calls of its
`ActorHandle`.
-/

namespace Actr.Hyper.Executor
open Protocol

def runnerQueueCapacity : Nat := 64

def runnerTerminated : ActrError := .unavailable "actor runner terminated"

inductive LifecyclePhase where
  | onStart
  | onReady
  | onStop
  deriving DecidableEq, Repr

def LifecyclePhase.panicLabel : LifecyclePhase → String
  | .onStart => "on_start"
  | .onReady => "on_ready"
  | .onStop => "on_stop"

inductive ActorCmd where
  | dispatch
  | dataChunk
  | hook
  | lifecycle (phase : LifecyclePhase)
  | shutdown
  deriving DecidableEq, Repr

/-- The commands that are sent by `call_raw`, without the intake gate. -/
def ActorCmd.isRaw : ActorCmd → Bool
  | .lifecycle .onStop | .shutdown => true
  | _ => false

def ActorCmd.panicLabel : ActorCmd → String
  | .dispatch => "dispatch"
  | .dataChunk => "data_chunk"
  | .hook => "hook"
  | .lifecycle phase => phase.panicLabel
  | .shutdown => "shutdown"

inductive Reply where
  | open
  | sent (result : ActorResult Bytes)
  | dropped
  deriving DecidableEq

/-- Where the caller is: before the read lock of `intake_open`, before the send (with the read guard, unless the command
is raw), or before the reply. A `dropped` future has dropped its end of the reply channel. -/
inductive CallPhase where
  | entering
  | sending
  | awaiting
  | returned (result : ActorResult Bytes)
  | dropped
  deriving DecidableEq

structure Call where
  command : ActorCmd
  phase : CallPhase
  reply : Reply
  deriving DecidableEq

def Call.replyIsClosed (call : Call) : Bool := call.command ≠ .shutdown ∧ call.phase = .dropped

inductive RunnerMode where
  | serial
  | interleaved
  deriving DecidableEq, Repr

/-- The await at which the loop stands: `receiving` is the `recv` or the `select!`, `draining` and `closing` the inner
loops over the dispatches in flight, and `running` the command that runs alone. -/
inductive Loop where
  | receiving
  | draining (barrier : Nat)
  | running (ticket : Nat)
  | closing
  | exited
  deriving DecidableEq

def Loop.holds : Loop → List Nat
  | .draining barrier => [barrier]
  | .running ticket => [ticket]
  | _ => []

/-- `inflight` and `ready` are the `FuturesUnordered` and its queue. The other fields are ghosts: the commands in the
order in which they were sent, received and first polled, each poll of guest code, and the commands that were run
to their end with their results. -/
structure Runner where
  mode : RunnerMode
  hasDispatchTimeout : Bool
  intakeOpen : Bool
  calls : List Call
  channel : List Nat
  sendersGone : Bool
  loop : Loop
  inflight : List Nat
  ready : List Nat
  sent : List Nat
  received : List Nat
  started : List Nat
  polls : List Nat
  executed : List (Nat × ActorResult Bytes)
  deriving DecidableEq

inductive Polled where
  | pending
  | completed (result : ActorResult Bytes)
  | panicked (info : String)
  | timedOut
  | callerCanceled
  deriving DecidableEq

def Polled.poisonsRunner : Polled → Bool
  | .panicked _ | .timedOut | .callerCanceled => true
  | _ => false

/-- `call`, `callAdmitted` and `send` are the segments of a call up to its reply, `resume` its return with the reply and
`drop` the end of its future; `dropHandle` is the end of the last handle and `abort` the abortion of the task. The others
are the branches of the loops. -/
inductive Action where
  | call (command : ActorCmd)
  | callAdmitted (ticket : Nat)
  | send (ticket : Nat)
  | resume (ticket : Nat)
  | drop (ticket : Nat)
  | stopIntake
  | dropHandle
  | abort
  | receive
  | wake (ticket : Nat)
  | pollInflight (polled : Polled)
  | drained
  | pollRunning (polled : Polled)
  | disconnected
  | closed
  deriving DecidableEq

namespace Runner

def spawn (mode : RunnerMode) (hasDispatchTimeout : Bool) : Runner where
  mode := mode
  hasDispatchTimeout := hasDispatchTimeout
  intakeOpen := true
  calls := []
  channel := []
  sendersGone := false
  loop := .receiving
  inflight := []
  ready := []
  sent := []
  received := []
  started := []
  polls := []
  executed := []

def holding (s : Runner) : List Nat := s.loop.holds ++ s.inflight ++ s.channel

def setReply (s : Runner) (ticket : Nat) (reply : Reply) : Runner :=
  { s with calls := s.calls.modify ticket fun call => { call with reply } }

def setPhase (s : Runner) (ticket : Nat) (phase : CallPhase) : Runner :=
  { s with calls := s.calls.modify ticket fun call => { call with phase } }

-- The end of the task: the receiver, the futures and the commands in them are dropped.
def exit (s : Runner) : Runner :=
  { s with
    loop := .exited
    channel := []
    inflight := []
    ready := []
    calls := s.calls.mapIdx fun ticket call => if ticket ∈ s.holding then { call with reply := .dropped } else call }

def answer (s : Runner) (ticket : Nat) (result : ActorResult Bytes) : Runner :=
  { s.setReply ticket (.sent result) with executed := s.executed ++ [(ticket, result)] }

def pollGuest (s : Runner) (ticket : Nat) : Runner :=
  { s with
    polls := s.polls ++ [ticket]
    started := if ticket ∈ s.started then s.started else s.started ++ [ticket] }

def holdsGuard (call : Call) : Bool := call.phase = .sending ∧ ¬ call.command.isRaw

def callAdmitted (s : Runner) (ticket : Nat) (call : Call) : Option Runner :=
  if call.phase = .entering then
    if s.intakeOpen then some (s.setPhase ticket .sending)
    else some (s.setPhase ticket (.returned (.error runnerTerminated)))
  else none

def send (s : Runner) (ticket : Nat) (call : Call) : Option Runner :=
  if call.phase = .sending then
    if s.loop = .exited then some (s.setPhase ticket (.returned (.error runnerTerminated)))
    else if s.channel.length < runnerQueueCapacity then
      some { s.setPhase ticket .awaiting with channel := s.channel ++ [ticket], sent := s.sent ++ [ticket] }
    else none
  else none

def resume (s : Runner) (ticket : Nat) (call : Call) : Option Runner :=
  if call.phase = .awaiting then
    match call.reply with
    | .open => none
    | .sent result => some (s.setPhase ticket (.returned result))
    | .dropped => some (s.setPhase ticket (.returned (.error runnerTerminated)))
  else none

def isActive (call : Call) : Bool :=
  match call.phase with
  | .entering | .sending | .awaiting => true
  | .returned _ | .dropped => false

def receive (s : Runner) (ticket : Nat) (call : Call) : Runner :=
  if call.replyIsClosed then s.setReply ticket .dropped
  else
    match s.mode, call.command with
    | .interleaved, .dispatch => { s with inflight := s.inflight ++ [ticket], ready := s.ready ++ [ticket] }
    | .interleaved, _ => { s with loop := .draining ticket }
    | .serial, _ => { s with loop := .running ticket }

/-- What a poll of a command's body may find: it is polled before the deadline and before the caller's end of the
reply channel. -/
def canFind (call : Call) (hasTimeout : Bool) : Polled → Bool
  | .pending => call.phase ≠ .dropped
  | .completed _ | .panicked _ => true
  | .timedOut => hasTimeout
  | .callerCanceled => call.phase = .dropped

def settle (s : Runner) (ticket : Nat) (call : Call) : Polled → Runner
  | .pending => s
  | .completed result => s.answer ticket result
  | .panicked info => s.answer ticket (.error (.internal (call.command.panicLabel ++ " panicked: " ++ info)))
  | .timedOut => s.answer ticket (.error .timedOut)
  | .callerCanceled => s.setReply ticket .dropped

def pollsInflight : Loop → Bool
  | .receiving | .draining _ | .closing => true
  | .running _ | .exited => false

-- `inflight.next()` in one of the three loops; each of them ends the task when the completion poisons it.
def pollInflight (s : Runner) (ticket : Nat) (call : Call) (polled : Polled) : Option Runner :=
  if pollsInflight s.loop && canFind call s.hasDispatchTimeout polled then
    let s := s.pollGuest ticket
    if polled = .pending then some s
    else
      let s := { s with inflight := s.inflight.erase ticket }.settle ticket call polled
      some (if polled.poisonsRunner then s.exit else s)
  else none

-- `run_until_reply_closed`; `fatal` are the results that end the loop.
def pollAlone (s : Runner) (ticket : Nat) (call : Call) (polled : Polled) (fatal : Bool) : Option Runner :=
  if canFind call false polled then
    let s := s.pollGuest ticket
    if polled = .pending then some s
    else
      let s := { s with loop := .receiving }.settle ticket call polled
      some (if fatal then s.exit else s)
  else none

def dataChunkNotImplemented : ActrError :=
  .notImplemented "linked workload stream callbacks are registered directly on RuntimeContext"

def runBarrier (s : Runner) (ticket : Nat) (call : Call) (polled : Polled) : Option Runner :=
  let resumed := { s with loop := .receiving }
  match call.command with
  | .lifecycle _ => s.pollAlone ticket call polled polled.poisonsRunner
  | .hook => if polled = .completed (.ok []) then some (resumed.answer ticket (.ok [])) else none
  | .dataChunk =>
    if polled = .completed (.error dataChunkNotImplemented) then
      some (resumed.answer ticket (.error dataChunkNotImplemented))
    else none
  | .shutdown => if polled = .completed (.ok []) then some (resumed.answer ticket (.ok [])).exit else none
  | .dispatch => none

-- The body of `run_loop`. A panic is answered like a result, and the shutdown of the backend answers in any case.
def runCommand (s : Runner) (ticket : Nat) (call : Call) (polled : Polled) : Option Runner :=
  match call.command with
  | .shutdown =>
    match polled with
    | .pending => some (s.pollGuest ticket)
    | .completed _ => some (({ s with loop := .receiving }.pollGuest ticket).answer ticket (.ok [])).exit
    | _ => none
  | _ => s.pollAlone ticket call polled (polled = .callerCanceled)

def step (s : Runner) : Action → Option Runner
  | .call command =>
    if s.sendersGone || (command = .shutdown && s.intakeOpen) then none
    else
      let phase := if command.isRaw then .sending else .entering
      some { s with calls := s.calls ++ [⟨command, phase, .open⟩] }
  | .callAdmitted ticket => s.calls[ticket]?.bind (s.callAdmitted ticket)
  | .send ticket => s.calls[ticket]?.bind (s.send ticket)
  | .resume ticket => s.calls[ticket]?.bind (s.resume ticket)
  | .drop ticket =>
    s.calls[ticket]?.bind fun call => if isActive call then some (s.setPhase ticket .dropped) else none
  | .stopIntake => if s.calls.any holdsGuard then none else some { s with intakeOpen := false }
  | .dropHandle => if s.calls.any isActive then none else some { s with sendersGone := true }
  | .abort => if s.loop = .exited then none else some s.exit
  | .receive =>
    match s.loop, s.channel with
    | .receiving, ticket :: rest =>
      s.calls[ticket]?.map
        (receive { s with channel := rest, received := s.received ++ [ticket] } ticket)
    | _, _ => none
  | .wake ticket =>
    if ticket ∈ s.inflight ∧ ticket ∉ s.ready then some { s with ready := s.ready ++ [ticket] } else none
  | .pollInflight polled =>
    match s.ready with
    | ticket :: rest => s.calls[ticket]?.bind fun call => { s with ready := rest }.pollInflight ticket call polled
    | [] => none
  | .drained =>
    match s.loop, s.inflight with
    | .draining barrier, [] => some { s with loop := .running barrier }
    | _, _ => none
  | .pollRunning polled =>
    match s.loop with
    | .running ticket =>
      s.calls[ticket]?.bind fun call =>
        match s.mode with
        | .interleaved => s.runBarrier ticket call polled
        | .serial => s.runCommand ticket call polled
    | _ => none
  | .disconnected =>
    if s.loop = .receiving ∧ s.channel = [] ∧ s.sendersGone then some { s with loop := .closing } else none
  | .closed => if s.loop = .closing ∧ s.inflight = [] then some s.exit else none

end Runner

end Actr.Hyper.Executor
