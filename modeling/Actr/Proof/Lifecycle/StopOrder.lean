import Actr.Proof.Executor.Steps
import Actr.Proof.Lifecycle.Acknowledgement

/-! # The coordinator and the runner -/

namespace Actr.Proof.Lifecycle
open Actr.Protocol Hyper.Lifecycle Hyper.Executor Library
open Actr.Proof.Executor (Over Protected poisonous)

def HasCommand (s : Runner) (ticket : Nat) (command : ActorCmd) : Prop :=
  ∃ call, s.calls[ticket]? = some call ∧ call.command = command

def IsStop (s : Runner) (ticket : Nat) : Prop := HasCommand s ticket (.lifecycle .onStop)

def IsShutdown (s : Runner) (ticket : Nat) : Prop := HasCommand s ticket .shutdown

def rank : Coordinator → Nat
  | .waiting => 0
  | .quiescing => 1
  | .closingScheduler => 2
  | .joiningScheduler => 3
  | .closingIntake => 4
  | .beforeStop => 5
  | .stopping _ => 6
  | .closingAgain => 7
  | .beforeShutdown => 8
  | .joining _ => 9
  | .finished => 10

section Runner

variable {s t : Runner} {coordinator next : Coordinator} {action : Hyper.Executor.Action} {ticket : Nat}
  {command : ActorCmd}

theorem HasCommand.step (sound : Executor.Sound s) (taken : s.step action = some t)
    (has : HasCommand s ticket command) : HasCommand t ticket command := by
  obtain ⟨call, found, same⟩ := has
  obtain ⟨after, later, evolves, -⟩ := Executor.phase_step sound taken found
  exact ⟨after, later, evolves.command.trans same⟩

theorem hasCommand_came (sound : Executor.Sound s) (taken : s.step action = some t)
    (has : HasCommand t ticket command) :
    HasCommand s ticket command ∨ ticket = s.calls.length ∧ action = .call command := by
  obtain ⟨after, later, rfl⟩ := has
  rcases Executor.command_step sound taken later with ⟨before, found, same⟩ | new
  · exact .inl ⟨before, found, same⟩
  · exact .inr new

theorem HasCommand.unique {other : ActorCmd} (first : HasCommand s ticket command)
    (second : HasCommand s ticket other) : command = other := by
  obtain ⟨call, found, rfl⟩ := first
  obtain ⟨call', found', rfl⟩ := second
  cases found.symm.trans found'
  rfl

structure StopOk (s : Runner) (coordinator : Coordinator) : Prop where
  sound : Executor.Sound s
  alive : s.sendersGone = false
  going : s.loop ≠ .closing
  intake : s.intakeOpen = true ↔ rank coordinator ≤ 4
  exited : s.loop = .exited → ∃ ticket, IsShutdown s ticket
  once : ∀ first second, IsStop s first → IsStop s second → first = second
  stops : ∀ ticket, IsStop s ticket → 6 ≤ rank coordinator
  shuts : ∀ ticket, IsShutdown s ticket → 9 ≤ rank coordinator
  stopping : ∀ ticket, coordinator = .stopping ticket → Protected s ticket ∧
    ∃ call, s.calls[ticket]? = some call ∧ call.command = .lifecycle .onStop ∧ call.phase ≠ .entering
  stopped : 7 ≤ rank coordinator → ∀ ticket, IsStop s ticket → ∃ result, (ticket, result) ∈ s.executed
  tail : ∀ before ticket after, s.sent = before ++ ticket :: after → IsStop s ticket ∨ IsShutdown s ticket →
    ∀ other ∈ after, IsShutdown s other
  done : ∀ stop ∈ s.started, IsStop s stop → ∀ other ∈ s.sent, other = stop ∨ Over s other ∨ IsShutdown s other

theorem StopOk.running (inv : StopOk s coordinator) (low : rank coordinator < 9) : s.loop ≠ .exited := by
  intro exited
  obtain ⟨ticket, shutdown⟩ := inv.exited exited
  have late := inv.shuts ticket shutdown
  omega

theorem StopOk.shut (inv : StopOk s coordinator) (late : 5 ≤ rank coordinator) : s.intakeOpen = false := by
  by_contra isOpen
  have early := inv.intake.mp (by simpa using isOpen)
  omega

theorem StopOk.sender (inv : StopOk s coordinator) (late : 5 ≤ rank coordinator) {call : Call}
    (found : s.calls[ticket]? = some call) (sending : call.phase = .sending) :
    IsStop s ticket ∨ IsShutdown s ticket := by
  have free := inv.sound.settled.guards (inv.shut late) ticket call found
  have raw : call.command.isRaw = true := by simpa [Runner.holdsGuard, sending] using free
  cases command : call.command with
  | lifecycle phase =>
    cases phase with
    | onStop => exact .inl ⟨call, found, command⟩
    | onStart | onReady => simp [command, ActorCmd.isRaw] at raw
  | shutdown => exact .inr ⟨call, found, command⟩
  | dispatch | dataChunk | hook => simp [command, ActorCmd.isRaw] at raw

theorem not_executed {result : ActorResult Bytes} (sound : Executor.Sound s) (held : ticket ∈ s.holding) :
    (ticket, result) ∉ s.executed := by
  intro executed
  obtain ⟨call, found, sent⟩ := (sound.settled.executed ticket result).mp executed
  have isOpen := ((sound.owned.each ticket call found).held held).1
  cases isOpen.symm.trans sent

theorem held_of_polled (polled : s.loop = .running ticket ∨ ticket ∈ s.inflight) : ticket ∈ s.holding := by
  rcases polled with running | flying
  · simp [Runner.holding, running, Loop.holds]
  · simp [Runner.holding, flying]

theorem StopOk.alone (inv : StopOk s coordinator) (isStop : IsStop s ticket)
    (polled : s.loop = .running ticket ∨ ticket ∈ s.inflight) :
    rank coordinator = 6 ∧ ∀ other ∈ s.sent, other = ticket ∨ Over s other := by
  have running : s.loop = .running ticket := by
    refine polled.resolve_right fun flying => ?_
    obtain ⟨call, found, dispatch⟩ := inv.sound.settled.dispatches ticket flying
    have command := HasCommand.unique isStop ⟨call, found, dispatch⟩
    cases command
  have exact : rank coordinator = 6 := by
    have late := inv.stops ticket isStop
    by_contra other
    obtain ⟨result, executed⟩ := inv.stopped (by omega) ticket isStop
    exact not_executed inv.sound (held_of_polled polled) executed
  refine ⟨exact, ?_⟩
  have ordered := inv.sound.ordered
  obtain ⟨before, received⟩ := ordered.last ticket (by rw [running]; exact List.mem_singleton.mpr rfl)
  have sent : s.sent = before ++ ticket :: s.channel := by
    rw [ordered.queued (by rw [running]; nofun), received, List.append_assoc]
    rfl
  have empty : s.channel = [] := by
    refine List.eq_nil_iff_forall_not_mem.mpr fun other member => ?_
    have late := inv.shuts other (inv.tail before ticket s.channel sent (.inl isStop) other member)
    omega
  intro other member
  rw [sent, empty] at member
  have known : other ∈ s.received := by rwa [received]
  rcases inv.sound.settled.ended other known with held | flying | ended
  · rw [running] at held
    exact .inl (List.mem_singleton.mp held)
  · rw [ordered.alone ticket running] at flying
    cases flying
  · exact .inr ended

theorem sent_came (sound : Executor.Sound s) (taken : s.step action = some t) (member : ticket ∈ t.sent)
    (has : HasCommand t ticket command) : HasCommand s ticket command := by
  refine (hasCommand_came sound taken has).resolve_right ?_
  rintro ⟨rfl, -⟩
  rcases (Executor.facts_step sound.ordered taken).sent with same | ⟨last, call, found, -, sent⟩
  · rw [same] at member
    exact Nat.lt_irrefl _ (sound.owned.known _ member)
  · rw [sent, List.mem_append, List.mem_singleton] at member
    rcases member with old | rfl
    · exact Nat.lt_irrefl _ (sound.owned.known _ old)
    · exact Nat.lt_irrefl _ (List.getElem?_eq_some_iff.mp found).1

theorem stopOk_tail (inv : StopOk s coordinator) (taken : s.step action = some t) :
    ∀ before ticket after, t.sent = before ++ ticket :: after → IsStop t ticket ∨ IsShutdown t ticket →
      ∀ other ∈ after, IsShutdown t other := by
  intro before ticket after sent raw other member
  have kept (other : Nat) (shutdown : IsShutdown s other) : IsShutdown t other := shutdown.step inv.sound taken
  have member' : ticket ∈ t.sent := by simp [sent]
  have raw : IsStop s ticket ∨ IsShutdown s ticket :=
    raw.imp (sent_came inv.sound taken member') (sent_came inv.sound taken member')
  rcases (Executor.facts_step inv.sound.ordered taken).sent with same | ⟨last, call, found, sending, sent'⟩
  · exact kept other (inv.tail before ticket after (same.symm.trans sent) raw other member)
  · have late : 6 ≤ rank coordinator := by
      rcases raw with stop | shutdown
      · exact inv.stops ticket stop
      · exact Nat.le_trans (by decide) (inv.shuts ticket shutdown)
    obtain ⟨early, rfl, prior⟩ : ∃ early, after = early ++ [last] ∧ s.sent = before ++ ticket :: early := by
      rcases List.eq_nil_or_concat' after with rfl | ⟨early, final, rfl⟩
      · cases member
      · have same : (before ++ ticket :: early) ++ [final] = s.sent ++ [last] := by simpa using sent.symm.trans sent'
        obtain ⟨prior, ends⟩ := List.append_inj' same rfl
        cases ends
        exact ⟨early, rfl, prior.symm⟩
    rcases List.mem_append.mp member with old | new
    · exact kept other (inv.tail before ticket early prior raw other old)
    · rw [List.mem_singleton.mp new]
      rcases inv.sender (by omega) found sending with stop | shutdown
      · -- A second `on_stop` would be the first, which was sent or has been executed.
        exfalso
        obtain ⟨isOpen, unsent⟩ := (inv.sound.owned.each last call found).unsent (.inr sending)
        rcases raw with first | shutdown
        · rw [inv.once last ticket stop first, prior] at unsent
          simp at unsent
        · obtain ⟨result, executed⟩ := inv.stopped (Nat.le_trans (by decide) (inv.shuts ticket shutdown)) last stop
          obtain ⟨call', found', sent⟩ := (inv.sound.settled.executed last result).mp executed
          cases found.symm.trans found'
          cases isOpen.symm.trans sent
      · exact kept last shutdown

theorem stopOk_done (inv : StopOk s coordinator) (taken : s.step action = some t) :
    ∀ stop ∈ t.started, IsStop t stop → ∀ other ∈ t.sent, other = stop ∨ Over t other ∨ IsShutdown t other := by
  intro stop started isStop other member
  have facts := Executor.facts_step inv.sound.ordered taken
  have grown (before : other = stop ∨ Over s other ∨ IsShutdown s other) :
      other = stop ∨ Over t other ∨ IsShutdown t other :=
    before.imp_right (.imp (Executor.over_step inv.sound taken) (HasCommand.step inv.sound taken))
  have after (earlier : stop ∈ s.started) (isStop : IsStop s stop) : other = stop ∨ Over t other ∨ IsShutdown t other := by
    rcases facts.sent with same | ⟨last, call, found, sending, sent⟩
    · exact grown (inv.done stop earlier isStop other (same ▸ member))
    · rw [sent, List.mem_append, List.mem_singleton] at member
      rcases member with old | rfl
      · exact grown (inv.done stop earlier isStop other old)
      · have late := inv.stops stop isStop
        rcases inv.sender (by omega) found sending with second | shutdown
        · exact grown (.inl (inv.once other stop second isStop))
        · exact grown (.inr (.inr shutdown))
  have known : stop ∈ t.sent := (Executor.started_sublist_sent (Executor.sound_step inv.sound taken).ordered).subset started
  have isStop := sent_came inv.sound taken known isStop
  rcases facts.polls with ⟨-, same⟩ | ⟨polled, subject, sent, -, log⟩
  · exact after (same ▸ started) isStop
  · rcases log stop started with earlier | rfl
    · exact after earlier isStop
    · exact grown (((inv.alone isStop subject).2 other (sent ▸ member)).imp_right .inl)

structure Coordinates (s : Runner) (coordinator : Coordinator) (action : Hyper.Executor.Action) (t : Runner)
    (next : Coordinator) : Prop where
  grows : rank coordinator ≤ rank next
  intake : t.intakeOpen = true ↔ rank next ≤ 4
  handle : action ≠ .dropHandle
  quiet : poisonous s.mode action = false
  newStop : action = .call (.lifecycle .onStop) → rank coordinator ≤ 5 ∧ 6 ≤ rank next
  newShutdown : action = .call .shutdown → rank coordinator ≤ 8 ∧ 9 ≤ rank next
  stopping : ∀ ticket, next = .stopping ticket → coordinator = .stopping ticket ∧ action ≠ .drop ticket ∨
    ticket = s.calls.length ∧ action = .call (.lifecycle .onStop)
  stopped : 7 ≤ rank next → 7 ≤ rank coordinator

section

variable (inv : StopOk s coordinator) (taken : s.step action = some t)
  (coordinates : Coordinates s coordinator action t next)
include inv taken coordinates

theorem stopOk_stopping (same : next = .stopping ticket) :
    Protected t ticket ∧
      ∃ call, t.calls[ticket]? = some call ∧ call.command = .lifecycle .onStop ∧ call.phase ≠ .entering := by
  rcases coordinates.stopping ticket same with ⟨before, kept⟩ | ⟨rfl, rfl⟩
  · obtain ⟨safe, call, found, command, late⟩ := inv.stopping ticket before
    obtain ⟨after, later, evolves, phase⟩ := Executor.phase_step inv.sound taken found
    refine ⟨Executor.protected_step inv.sound taken safe ?_ ?_, after, later, evolves.command.trans command, ?_⟩
    · intro call' found' entering
      cases found.symm.trans found'
      exact absurd entering late
    · intro call' found' active
      exact ⟨inv.running (by simp [before, rank]), kept⟩
    · rcases phase with same | changes
      · exact same ▸ late
      · generalize after.phase = arrived at changes
        cases changes <;> nofun
  · simp only [Runner.step] at taken
    split at taken <;> cases taken
    exact ⟨⟨_, List.getElem?_concat_length, by simp [ActorCmd.isRaw], by simp [ActorCmd.isRaw]⟩, _, List.getElem?_concat_length, rfl, by simp [ActorCmd.isRaw]⟩

theorem stopOk_runner : StopOk t next := by
  have facts := Executor.facts_step inv.sound.ordered taken
  constructor
  case sound => exact Executor.sound_step inv.sound taken
  case alive => exact (facts.senders.resolve_right coordinates.handle).trans inv.alive
  case going =>
    intro closing
    rcases facts.closing closing with before | gone
    · exact inv.going before
    · cases inv.alive.symm.trans gone
  case intake => exact coordinates.intake
  case exited =>
    intro exited
    rcases facts.exited exited with poisoned | before | closing | ⟨ticket, call, -, found, command⟩
    · cases coordinates.quiet.symm.trans poisoned
    · obtain ⟨ticket, shutdown⟩ := inv.exited before
      exact ⟨ticket, shutdown.step inv.sound taken⟩
    · exact absurd closing inv.going
    · exact ⟨ticket, HasCommand.step inv.sound taken ⟨call, found, command⟩⟩
  case once =>
    intro first second one two
    rcases hasCommand_came inv.sound taken one with one | ⟨here, called⟩ <;>
      rcases hasCommand_came inv.sound taken two with two | ⟨there, called'⟩
    · exact inv.once first second one two
    · have late := inv.stops first one
      have early := (coordinates.newStop called').1
      omega
    · have late := inv.stops second two
      have early := (coordinates.newStop called).1
      omega
    · rw [here, there]
  case stops =>
    intro ticket isStop
    rcases hasCommand_came inv.sound taken isStop with before | ⟨-, called⟩
    · exact Nat.le_trans (inv.stops ticket before) coordinates.grows
    · exact (coordinates.newStop called).2
  case shuts =>
    intro ticket shutdown
    rcases hasCommand_came inv.sound taken shutdown with before | ⟨-, called⟩
    · exact Nat.le_trans (inv.shuts ticket before) coordinates.grows
    · exact (coordinates.newShutdown called).2
  case stopping => exact fun ticket same => stopOk_stopping inv taken coordinates same
  case stopped =>
    intro late ticket isStop
    have late := coordinates.stopped late
    rcases hasCommand_came inv.sound taken isStop with before | ⟨-, called⟩
    · obtain ⟨result, executed⟩ := inv.stopped late ticket before
      exact ⟨result, Executor.executed_moves (Executor.moves_step inv.sound.ordered taken) executed⟩
    · have early := (coordinates.newStop called).1
      omega
  case tail => exact stopOk_tail inv taken
  case done => exact stopOk_done inv taken

end

theorem StopOk.advance (inv : StopOk s coordinator) (grows : rank coordinator ≤ rank next)
    (intake : rank coordinator ≤ 4 ↔ rank next ≤ 4) (elsewhere : ∀ ticket, next ≠ .stopping ticket)
    (stopped : 7 ≤ rank next → 7 ≤ rank coordinator ∨ ∀ ticket, IsStop s ticket → ∃ result, (ticket, result) ∈ s.executed) :
    StopOk s next :=
  { inv with
    intake := inv.intake.trans intake
    stops := fun ticket isStop => Nat.le_trans (inv.stops ticket isStop) grows
    shuts := fun ticket shutdown => Nat.le_trans (inv.shuts ticket shutdown) grows
    stopping := fun ticket same => absurd same (elsewhere ticket)
    stopped := fun late => (stopped late).elim inv.stopped id }

theorem shut_stopIntake (taken : s.step .stopIntake = some t) : t.intakeOpen = false := by
  simp only [Runner.step] at taken
  split at taken <;> cases taken
  rfl

-- What others do: they neither stop the runner nor call its raw commands, and they do not drop the coordinator's call.
structure Ordinary (mode : RunnerMode) (coordinator : Coordinator) (action : Hyper.Executor.Action) : Prop where
  handle : action ≠ .dropHandle
  intake : action ≠ .stopIntake
  quiet : poisonous mode action = false
  calls : ∀ command, action = .call command → command.isRaw = false
  drops : ∀ ticket, coordinator = .stopping ticket → action ≠ .drop ticket

theorem Ordinary.coordinates (inv : StopOk s coordinator) (taken : s.step action = some t)
    (ordinary : Ordinary s.mode coordinator action) : Coordinates s coordinator action t coordinator := by
  constructor
  case grows => exact Nat.le_refl _
  case intake =>
    have same := (Executor.facts_step inv.sound.ordered taken).intake.resolve_right fun stops => ordinary.intake stops.1
    rw [same]
    exact inv.intake
  case handle => exact ordinary.handle
  case quiet => exact ordinary.quiet
  case newStop | newShutdown => exact fun called => absurd (ordinary.calls _ called) nofun
  case stopping => exact fun ticket same => .inl ⟨same, ordinary.drops ticket same⟩
  case stopped => exact id

end Runner

def isQuiet (s : NodeState) : NodeAction → Bool
  | .others (.run change) => !poisonous s.runner.mode change
  | _ => true

def Quiet (s : NodeState) (action : NodeAction) (_ : NodeState) : Prop := isQuiet s action = true
  deriving Decidable

variable {inner : Inner} {budget : Nat} {s t : NodeState}

theorem stopOk_core {change : CoreAction} {core : Core} (inv : StopOk s.runner s.coordinator)
    (linked : Linked inner budget s.toCore) (moved : s.toCore.step inner change = some core)
    (ordinary : ∀ action, change = .run action → Ordinary s.runner.mode s.coordinator action) :
    StopOk core.runner s.coordinator := by
  rcases runner_step (coreStep_step linked moved) with same | ⟨action, taken, rfl | ⟨rfl, -⟩⟩
  · rw [same]
    exact inv
  · exact stopOk_runner inv taken ((ordinary action rfl).coordinates inv taken)
  · refine stopOk_runner inv taken (Ordinary.coordinates inv taken ⟨nofun, nofun, rfl, ?_, nofun⟩)
    rintro _ ⟨⟩
    rfl

theorem ordinary_of_isOthers {action : Hyper.Executor.Action} (others : s.isOthers (.run action) = true)
    (quiet : poisonous s.runner.mode action = false) : Ordinary s.runner.mode s.coordinator action := by
  constructor
  case handle | intake =>
    rintro rfl
    cases others
  case quiet => exact quiet
  case calls =>
    rintro command rfl
    simpa [NodeState.isOthers] using others
  case drops =>
    rintro ticket same rfl
    have free : ticket ∉ s.owned := by simpa [NodeState.isOthers] using others
    exact free (by simp [NodeState.owned, same, Coordinator.calls])

theorem stopOk_stops (inv : StopOk s.runner s.coordinator) (stops : Stops inner s t) :
    StopOk t.runner t.coordinator := by
  cases stops with
  | begins phase | quiesces phase | schedulerAbsent phase | schedulerJoined phase | joined phase =>
    exact inv.advance (by simp [phase, rank]) (by simp [phase, rank]) nofun (by simp [phase, rank])
  | schedulerCloses phase gate moved =>
    obtain ⟨scheduler, -, rfl⟩ := Option.map_eq_some_iff.mp moved
    exact inv.advance (by simp [phase, rank]) (by simp [phase, rank]) nofun (by simp [rank])
  | intakeCloses phase moved | closesAgain phase moved =>
    obtain ⟨runner, taken, rfl⟩ := Option.map_eq_some_iff.mp moved
    refine stopOk_runner inv taken ⟨?_, ?_, nofun, rfl, nofun, nofun, nofun, by simp [phase, rank]⟩
    · simp [phase, rank]
    · simp [shut_stopIntake taken, rank]
  | callsStop phase moved | callsShutdown phase moved =>
    obtain ⟨runner, taken, rfl⟩ := Option.map_eq_some_iff.mp moved
    have intake := (Executor.facts_step inv.sound.ordered taken).intake.resolve_right (by simp)
    rw [phase] at inv
    refine stopOk_runner inv taken ⟨?_, by rw [intake, inv.intake]; simp [rank], nofun, rfl, ?_, ?_, ?_, ?_⟩
    all_goals simp [rank]
  | @stopped call result phase returned =>
    refine inv.advance (by simp [phase, rank]) (by simp [phase, rank]) nofun fun _ => .inr ?_
    intro ticket isStop
    obtain ⟨⟨entry, found, -, returns⟩, entry', found', command, -⟩ := inv.stopping call phase
    obtain ⟨entry'', found'', phase''⟩ := returned_eq.mp returned
    cases found.symm.trans found''
    rw [inv.once ticket call isStop ⟨entry', found', command⟩]
    exact ⟨result, returns result phase''⟩

theorem stopOk_step {action : NodeAction} (inv : StopOk s.runner s.coordinator)
    (linked : Linked inner budget s.toCore)
    (step : NodeStep inner s action t) (quiet : Quiet s action t) : StopOk t.runner t.coordinator := by
  cases step with
  | handles _ _ _ moved => exact stopOk_core (s := s) inv linked moved nofun
  | replies _ moved => exact stopOk_core (s := s) inv linked moved nofun
  | stops stops => exact stopOk_stops inv stops
  | others others moved =>
    refine stopOk_core (s := s) inv linked moved ?_
    rintro action rfl
    exact ordinary_of_isOthers others (by simpa [Quiet, isQuiet] using quiet)
  | enters | shutOut | dequeues | givesUp | undecodable | misdirected | admits | leaves | ends => exact inv

theorem stopOk_start (mode : RunnerMode) (hasDispatchTimeout : Bool) :
    StopOk (.spawn mode hasDispatchTimeout) .waiting where
  sound := Executor.sound_spawn mode hasDispatchTimeout
  alive := rfl
  going := nofun
  intake := by simp [Runner.spawn, rank]
  exited := nofun
  once := by simp [IsStop, HasCommand, Runner.spawn]
  stops := by simp [IsStop, HasCommand, Runner.spawn]
  shuts := by simp [IsShutdown, HasCommand, Runner.spawn]
  stopping := nofun
  stopped := by simp [rank]
  tail := by simp [Runner.spawn]
  done := by simp [Runner.spawn]

end Actr.Proof.Lifecycle
