import Actr.Proof.Executor.Steps

/-! # Barriers and the end of the interleaved runner -/

namespace Actr.Proof.Executor
open Hyper.Executor Runner Library Machine Actr.Protocol Relation

variable {s t : Runner} {ticket : Nat} {call : Call} {action : Action} {first second : Nat} {polled : Polled}

def subject (s : Runner) : Action → Option Nat
  | .pollInflight _ => s.ready.head?
  | .pollRunning _ => s.loop.holds.head?
  | _ => none

def Precedes (list : List Nat) (first second : Nat) : Prop := [first, second].Sublist list

def isLoop : Action → Bool
  | .receive | .wake _ | .pollInflight _ | .drained | .pollRunning _ | .closed => true
  | _ => false

def Outcome (s : Runner) (before : Call) (result : ActorResult Bytes) : Prop :=
  before.phase = .returned result ∨ before.phase = .awaiting ∧ before.reply = .sent result ∨
    result = .error runnerTerminated ∧
      (before.phase = .awaiting ∧ before.reply = .dropped ∨ s.loop = .exited ∨ s.intakeOpen = false)

structure FailClosed (s : Runner) (action : Action) (t : Runner) : Prop where
  order : t.started.Sublist t.sent ∧ t.sent.Nodup
  alone : ∀ polled ticket, action = .pollRunning polled → s.loop = .running ticket →
    s.inflight = [] ∧ ∀ earlier, Precedes s.received earlier ticket → Over s earlier
  fence : ∀ ticket, t.polls = s.polls ++ [ticket] → ∀ barrier, IsBarrier s barrier →
    Precedes s.received barrier ticket → Over s barrier
  poisoned : ∀ polled, polled.poisonsRunner = true → action = .pollInflight polled ∨ action = .pollRunning polled →
    t.loop = .exited ∧ ∀ other ∈ s.holding, subject s action ≠ some other → Replied t other .dropped
  silent : s.loop = .exited → t.loop = .exited ∧ t.polls = s.polls
  kept : ∀ (ticket : Nat) (call : Call), t.calls[ticket]? = some call → call.phase = .awaiting → call.reply = .open →
    t.loop ≠ .exited ∧ t.holding.count ticket = 1
  once : ∀ (ticket : Nat) (before : Call), s.calls[ticket]? = some before →
    ∃ after, t.calls[ticket]? = some after ∧ Evolves before after
  outcome : ∀ (ticket : Nat) (before after : Call) (result : ActorResult Bytes), s.calls[ticket]? = some before →
    t.calls[ticket]? = some after → after.phase = .returned result → Outcome s before result
  delivered : ∀ (ticket : Nat) (call : Call), t.calls[ticket]? = some call → call.phase = .awaiting →
    call.reply ≠ .open → (t.step (.resume ticket)).isSome = true
  refused : ∀ (ticket : Nat) (call : Call), t.calls[ticket]? = some call → call.phase = .sending →
    t.loop = .exited → (t.step (.send ticket)).isSome = true
  advances : t.loop ≠ .exited → t.holding ≠ [] → ∃ next, isLoop next = true ∧ (t.step next).isSome = true

theorem received_nodup (ordered : Ordered s) : s.received.Nodup :=
  ordered.distinct.sublist ordered.earlier.sublist

theorem Precedes.ne {list : List Nat} (distinct : list.Nodup) (precedes : Precedes list first second) :
    first ≠ second := by
  rintro rfl
  have pair := distinct.sublist precedes
  simp at pair

theorem Precedes.mem {list : List Nat} (precedes : Precedes list first second) : first ∈ list :=
  precedes.subset List.mem_cons_self

theorem Precedes.not_last {before : List Nat} (distinct : (before ++ [first]).Nodup) :
    ¬ Precedes (before ++ [first]) first second := by
  intro precedes
  have absent : first ∉ before := by
    intro member
    exact (List.nodup_append.mp distinct).2.2 first member first (List.mem_singleton.mpr rfl) rfl
  obtain ⟨front, back, split, left, right⟩ := List.sublist_append_iff.mp precedes
  cases front with
  | nil =>
    subst split
    have short := right.length_le
    simp at short
  | cons =>
    simp only [List.cons_append, List.cons.injEq] at split
    obtain ⟨rfl, -⟩ := split
    exact absent (left.subset List.mem_cons_self)

theorem alone_running (sound : Sound s) (running : s.loop = .running ticket) :
    s.inflight = [] ∧ ∀ earlier, Precedes s.received earlier ticket → Over s earlier := by
  have idle := sound.ordered.alone ticket running
  refine ⟨idle, ?_⟩
  intro earlier precedes
  have different := precedes.ne (received_nodup sound.ordered)
  have ended := sound.settled.ended earlier precedes.mem
  rw [running, idle] at ended
  rcases ended with held | flying | ended
  · exact absurd (List.mem_singleton.mp held) different
  · cases flying
  · exact ended

theorem fence_inflight {barrier : Nat} (sound : Sound s) (waits : IsBarrier s barrier)
    (precedes : Precedes s.received barrier ticket) : Over s barrier := by
  rcases sound.settled.ended barrier precedes.mem with held | flying | ended
  · obtain ⟨before, last⟩ := sound.ordered.last barrier held
    have distinct := received_nodup sound.ordered
    rw [last] at precedes distinct
    exact absurd precedes (Precedes.not_last distinct)
  · obtain ⟨call, found, command⟩ := waits
    obtain ⟨call', found', dispatch⟩ := sound.settled.dispatches barrier flying
    cases found.symm.trans found'
    exact absurd dispatch command
  · exact ended

section

variable (sound : Sound s)
include sound

theorem poisoned_running (mode : s.mode = .interleaved) (poisons : polled.poisonsRunner = true)
    (taken : s.step (.pollRunning polled) = some t) :
    t.loop = .exited ∧ ∀ other ∈ s.holding, subject s (.pollRunning polled) ≠ some other →
      Replied t other .dropped := by
  cases pollStep_running taken with
  | waits => cases poisons
  | finished result fatal running found gone polls _ poisoned =>
    rw [poisoned mode poisons]
    refine ⟨rfl, fun other held different => ?_⟩
    have moves : ReflTransGen (Move (.pollRunning polled)) s _ := moves_finished found gone running polls
    apply over_exit (sound_moves sound moves).owned
    rw [Runner.holding, running, List.append_assoc] at held
    have rest := (List.mem_append.mp held).resolve_left fun own =>
      different (by rw [subject, running, List.mem_singleton.mp own]; rfl)
    rcases polls with rfl | ⟨rfl, -⟩ <;> exact rest

theorem poisoned_inflight (poisons : polled.poisonsRunner = true) (taken : s.step (.pollInflight polled) = some t) :
    t.loop = .exited ∧ ∀ other ∈ s.holding, subject s (.pollInflight polled) ≠ some other →
      Replied t other .dropped := by
  cases pollStep_inflight taken with
  | waitsReady => cases poisons
  | @landed ticket rest call _ result ready found gone =>
    rw [poisons]
    refine ⟨rfl, fun other held different => ?_⟩
    have moves : ReflTransGen (Move (.pollInflight polled)) s _ := moves_landed found gone sound.ordered ready
    apply over_exit (sound_moves sound moves).owned
    have flies : other ≠ ticket := by
      rintro rfl
      exact different (by rw [subject, ready]; rfl)
    simp only [Runner.holding, List.mem_append] at held ⊢
    exact held.imp_left (.imp_right (List.mem_erase_of_ne flies).mpr)

theorem silent_move (exited : s.loop = .exited) (move : Move action s t) : t.loop = .exited ∧ t.polls = s.polls := by
  cases move with
  | taken receiving | polledRunning receiving | drained receiving | closing receiving =>
    cases exited.symm.trans receiving
  | @polledReady ticket rest ready =>
    have flying := sound.ordered.woken ticket (by rw [ready]; exact List.mem_cons_self)
    rw [(sound.ordered.stopped exited).1] at flying
    cases flying
  | finished result running => cases exited.symm.trans running
  | exited => exact ⟨rfl, rfl⟩
  | _ => exact ⟨exited, rfl⟩

theorem silent_moves (exited : s.loop = .exited) (moves : ReflTransGen (Move action) s t) :
    t.loop = .exited ∧ t.polls = s.polls := by
  induction moves with
  | refl => exact ⟨exited, rfl⟩
  | tail moves move ih =>
    obtain ⟨still, quiet⟩ := silent_move (sound_moves sound moves) ih.1 move
    exact ⟨still, quiet.trans ih.2⟩

theorem outcome_step {before after : Call} {result : ActorResult Bytes} (taken : s.step action = some t)
    (found : s.calls[ticket]? = some before) (later : t.calls[ticket]? = some after)
    (returned : after.phase = .returned result) : Outcome s before result := by
  obtain ⟨after', later', -, phase⟩ := phase_step sound taken found
  cases later.symm.trans later'
  rw [returned] at phase
  rcases phase with same | changes
  · exact .inl same.symm
  cases changes with
  | returned done =>
    cases done with
    | refused entering shut => exact .inr (.inr ⟨rfl, .inr (.inr shut)⟩)
    | unsent sending exited => exact .inr (.inr ⟨rfl, .inr (.inl exited)⟩)
    | answered awaiting sent => exact .inr (.inl ⟨awaiting, sent⟩)
    | terminated awaiting dropped => exact .inr (.inr ⟨rfl, .inl ⟨awaiting, dropped⟩⟩)

theorem kept_of_sound (found : s.calls[ticket]? = some call) (awaiting : call.phase = .awaiting)
    (isOpen : call.reply = .open) : s.loop ≠ .exited ∧ s.holding.count ticket = 1 := by
  have held := (sound.owned.each ticket call found).waits awaiting isOpen
  refine ⟨?_, List.count_eq_one_of_mem sound.owned.distinct held⟩
  intro exited
  obtain ⟨idle, empty⟩ := sound.ordered.stopped exited
  rw [Runner.holding, exited, idle, empty] at held
  cases held

end

theorem delivered (found : s.calls[ticket]? = some call) (awaiting : call.phase = .awaiting)
    (closed : call.reply ≠ .open) : (s.step (.resume ticket)).isSome = true := by
  simp only [step, found, Option.bind_some, resume, awaiting, if_true]
  cases reply : call.reply with
  | «open» => exact absurd reply closed
  | sent | dropped => rfl

theorem refused (found : s.calls[ticket]? = some call) (sending : call.phase = .sending) (exited : s.loop = .exited) :
    (s.step (.send ticket)).isSome = true := by
  simp [step, found, send, sending, exited]

theorem lookup_of_held (ticket : Nat) (owned : Owned s) (held : ticket ∈ s.holding) :
    ∃ call, s.calls[ticket]? = some call :=
  ⟨_, List.getElem?_eq_getElem (owned.known ticket (owned.within ticket held))⟩

theorem advances_inflight (sound : Sound s) (polls : pollsInflight s.loop = true) (flying : ticket ∈ s.inflight) :
    ∃ next, isLoop next = true ∧ (s.step next).isSome = true := by
  cases ready : s.ready with
  | nil => exact ⟨.wake ticket, rfl, by simp [step, flying, ready]⟩
  | cons first =>
    have member : first ∈ s.inflight := sound.ordered.woken first (by rw [ready]; exact List.mem_cons_self)
    obtain ⟨call, found⟩ := lookup_of_held first sound.owned (by simp [Runner.holding, member])
    exact ⟨.pollInflight (.completed (.ok [])), rfl, by
      simp [step, ready, found, Runner.pollInflight, polls, canFind, Polled.poisonsRunner]⟩

theorem advances_running (sound : Sound s) (running : s.loop = .running ticket) :
    ∃ next, isLoop next = true ∧ (s.step next).isSome = true := by
  obtain ⟨call, found⟩ := lookup_of_held ticket sound.owned (by simp [Runner.holding, running, Loop.holds])
  cases mode : s.mode with
  | serial =>
    refine ⟨.pollRunning (.completed (.ok [])), rfl, ?_⟩
    cases command : call.command <;> simp [step, running, found, mode, runCommand, command, pollAlone, canFind]
  | interleaved =>
    obtain ⟨call', found', barrier⟩ := sound.settled.barriers mode ticket (by simp [running, Loop.holds])
    cases found.symm.trans found'
    cases command : call.command with
    | dispatch => exact absurd command barrier
    | dataChunk =>
      exact ⟨.pollRunning (.completed (.error dataChunkNotImplemented)), rfl, by
        simp [step, running, found, mode, runBarrier, command]⟩
    | hook | shutdown =>
      exact ⟨.pollRunning (.completed (.ok [])), rfl, by simp [step, running, found, mode, runBarrier, command]⟩
    | lifecycle =>
      exact ⟨.pollRunning (.completed (.ok [])), rfl, by
        simp [step, running, found, mode, runBarrier, command, pollAlone, canFind]⟩

theorem advances (sound : Sound s) (alive : s.loop ≠ .exited) (holds : s.holding ≠ []) :
    ∃ next, isLoop next = true ∧ (s.step next).isSome = true := by
  cases loop : s.loop with
  | receiving =>
    cases channel : s.channel with
    | nil =>
      obtain ⟨ticket, flying⟩ : ∃ ticket, ticket ∈ s.inflight := by
        rw [Runner.holding, loop, channel] at holds
        exact List.exists_mem_of_ne_nil _ (by simpa [Loop.holds] using holds)
      exact advances_inflight sound (by rw [loop]; rfl) flying
    | cons first =>
      obtain ⟨call, found⟩ := lookup_of_held first sound.owned (by simp [Runner.holding, channel])
      exact ⟨.receive, rfl, by simp [step, loop, channel, found]⟩
  | draining =>
    cases inflight : s.inflight with
    | nil => exact ⟨.drained, rfl, by simp [step, loop, inflight]⟩
    | cons =>
      exact advances_inflight sound (by rw [loop]; rfl) (by rw [inflight]; exact List.mem_cons_self)
  | running => exact advances_running sound loop
  | closing =>
    cases inflight : s.inflight with
    | nil => exact ⟨.closed, rfl, by simp [step, loop, inflight]⟩
    | cons =>
      exact advances_inflight sound (by rw [loop]; rfl) (by rw [inflight]; exact List.mem_cons_self)
  | exited => exact absurd loop alive

theorem mode_move (move : Move action s t) : t.mode = s.mode := by
  cases move <;> rfl

theorem mode_moves (moves : ReflTransGen (Move action) s t) : t.mode = s.mode := by
  induction moves with
  | refl => rfl
  | tail _ move ih => exact (mode_move move).trans ih

theorem failClosed_step (sound : Sound s) (mode : s.mode = .interleaved) (taken : s.step action = some t) :
    FailClosed s action t := by
  have moves := moves_step sound.ordered taken
  have next := sound_moves sound moves
  constructor
  case order => exact ⟨started_sublist_sent next.ordered, next.ordered.distinct⟩
  case alone => exact fun polled ticket _ running => alone_running sound running
  case fence => exact fun ticket _ barrier waits precedes => fence_inflight sound waits precedes
  case poisoned =>
    rintro polled poisons (rfl | rfl)
    · exact poisoned_inflight sound poisons taken
    · exact poisoned_running sound mode poisons taken
  case silent => exact fun exited => silent_moves sound exited moves
  case kept => exact fun ticket call found awaiting isOpen => kept_of_sound next found awaiting isOpen
  case once => exact fun ticket before found => evolves_moves sound moves found
  case outcome => exact fun ticket before after result found later returned => outcome_step sound taken found later returned
  case delivered => exact fun ticket call found awaiting closed => delivered found awaiting closed
  case refused => exact fun ticket call found sending exited => refused found sending exited
  case advances => exact fun alive holds => advances next alive holds

structure Interleaved (s : Runner) : Prop where
  sound : Sound s
  mode : s.mode = .interleaved

theorem interleaved_step (inv : Interleaved s) (_ : True) (taken : s.step action = some t) :
    FailClosed s action t ∧ Interleaved t := by
  have moves := moves_step inv.sound.ordered taken
  exact ⟨failClosed_step inv.sound inv.mode taken, sound_moves inv.sound moves, (mode_moves moves).trans inv.mode⟩

theorem interleaved_runner_fails_closed (hasDispatchTimeout : Bool) (actions : List Action) :
    Along step FailClosed (spawn .interleaved hasDispatchTimeout) actions :=
  along_of_invariant ⟨sound_spawn .interleaved hasDispatchTimeout, rfl⟩ (fun _ _ _ => interleaved_step)
    fun _ _ => trivial

theorem serial_runner_serves_in_turn (hasDispatchTimeout : Bool) (actions : List Action) :
    Along step (fun s _ t => t.inflight = [] ∧ t.started.Sublist t.sent ∧ t.sent.Nodup ∧
      (∀ ticket, s.loop = .running ticket → ∀ earlier, Precedes s.received earlier ticket → Over s earlier) ∧
      (∀ (ticket : Nat) (call : Call), t.calls[ticket]? = some call → call.phase = .awaiting → call.reply = .open →
        t.loop ≠ .exited ∧ t.holding.count ticket = 1) ∧
      (t.loop ≠ .exited → t.holding ≠ [] → ∃ next, isLoop next = true ∧ (t.step next).isSome = true))
      (spawn .serial hasDispatchTimeout) actions := by
  refine @along_of_invariant _ _ _ (fun s => Sound s ∧ s.mode = .serial) (fun _ => True) _ _ _
    ⟨sound_spawn .serial _, rfl⟩ ?_ fun _ _ => trivial
  rintro s action t ⟨sound, mode⟩ - taken
  have moves := moves_step sound.ordered taken
  have next := sound_moves sound moves
  have mode' := (mode_moves moves).trans mode
  exact ⟨⟨next.ordered.serial mode', started_sublist_sent next.ordered, next.ordered.distinct,
    fun _ running => (alone_running sound running).2, fun _ _ => kept_of_sound next, advances next⟩, next, mode'⟩

end Actr.Proof.Executor
