import Actr.Hyper.Executor.Runner
import Actr.Library.Slots
import Mathlib.Data.List.Perm.Basic

/-! # What the runner holds -/

namespace Actr.Proof.Executor
open Hyper.Executor Runner Library Actr.Protocol Relation

variable {s t : Runner} {ticket : Nat} {call : Call} {action : Action}
variable {rest : List Nat} {polled : Polled} {hasTimeout : Bool}

/-! ## Reply channels -/

structure Local (s : Runner) (ticket : Nat) (call : Call) : Prop where
  held : ticket ∈ s.holding → call.reply = .open ∧ (call.phase = .awaiting ∨ call.phase = .dropped)
  waits : call.phase = .awaiting → call.reply = .open → ticket ∈ s.holding
  unsent : call.phase = .entering ∨ call.phase = .sending → call.reply = .open ∧ ticket ∉ s.sent

structure Owned (s : Runner) : Prop where
  distinct : s.holding.Nodup
  known : ∀ ticket ∈ s.sent, ticket < s.calls.length
  within : ∀ ticket ∈ s.holding, ticket ∈ s.sent
  each : ∀ ticket call, s.calls[ticket]? = some call → Local s ticket call

theorem Owned.not_held (owned : Owned s) (found : s.calls[ticket]? = some call)
    (early : call.phase = .entering ∨ call.phase = .sending) : ticket ∉ s.holding := by
  intro member
  rcases ((owned.each ticket call found).held member).2 with phase | phase <;> simp [phase] at early

theorem Local.frame (holding : ticket ∈ t.holding ↔ ticket ∈ s.holding) (sent : ticket ∈ t.sent ↔ ticket ∈ s.sent)
    (here : Local s ticket call) : Local t ticket call := by
  constructor
  case held => exact fun member => here.held (holding.mp member)
  case waits => exact fun awaiting open' => holding.mpr (here.waits awaiting open')
  case unsent =>
    intro before
    obtain ⟨open', absent⟩ := here.unsent before
    exact ⟨open', fun member => absent (sent.mp member)⟩

theorem owned_of_perm (owned : Owned s) (calls : t.calls = s.calls) (sent : t.sent = s.sent)
    (holding : t.holding.Perm s.holding) : Owned t := by
  constructor
  case distinct => exact holding.nodup_iff.mpr owned.distinct
  case known =>
    rw [calls, sent]
    exact owned.known
  case within =>
    intro ticket member
    rw [sent]
    exact owned.within ticket (holding.mem_iff.mp member)
  case each =>
    intro ticket call found
    rw [calls] at found
    exact (owned.each ticket call found).frame holding.mem_iff (by rw [sent])

theorem each_of_modify {change : Call → Call} (owned : Owned s) (calls : t.calls = s.calls.modify ticket change)
    (holding : ∀ other, other ≠ ticket → (other ∈ t.holding ↔ other ∈ s.holding))
    (sent : ∀ other, other ≠ ticket → (other ∈ t.sent ↔ other ∈ s.sent))
    (own : ∀ call, s.calls[ticket]? = some call → Local t ticket (change call)) :
    ∀ ticket call, t.calls[ticket]? = some call → Local t ticket call := by
  intro other call found
  rw [calls] at found
  obtain ⟨before, old, ⟨rfl, rfl⟩ | ⟨different, rfl⟩⟩ := Slots.of_modify found
  · exact own before old
  · exact (owned.each other call old).frame (holding other different) (sent other different)

theorem owned_setPhase {phase : CallPhase} (owned : Owned s) (found : s.calls[ticket]? = some call)
    (still : ticket ∈ s.holding → phase = .dropped) (leaves : phase ≠ .awaiting)
    (early : phase = .entering ∨ phase = .sending → call.reply = .open ∧ ticket ∉ s.sent) :
    Owned (s.setPhase ticket phase) := by
  refine { owned with known := ?known, each := ?each }
  case known =>
    intro other member
    rw [setPhase, List.length_modify]
    exact owned.known other member
  case each =>
    refine each_of_modify owned rfl (fun _ _ => Iff.rfl) (fun _ _ => Iff.rfl) ?_
    intro call' old
    cases found.symm.trans old
    constructor
    case held => exact fun member => ⟨((owned.each ticket call found).held member).1, .inr (still member)⟩
    case waits => exact fun awaiting => absurd awaiting leaves
    case unsent => exact early

theorem owned_enter (owned : Owned s) (found : s.calls[ticket]? = some call) (sending : call.phase = .sending)
    (calls : t.calls = s.calls.modify ticket fun call => { call with phase := .awaiting })
    (sent : t.sent = s.sent ++ [ticket]) (holding : t.holding.Perm (ticket :: s.holding)) : Owned t := by
  have here := owned.each ticket call found
  obtain ⟨open', absent⟩ := here.unsent (.inr sending)
  have outside : ticket ∉ s.holding := fun member => absent (owned.within ticket member)
  constructor
  case distinct => exact holding.nodup_iff.mpr (List.nodup_cons.mpr ⟨outside, owned.distinct⟩)
  case known =>
    intro other member
    rw [calls, List.length_modify]
    rcases Slots.mem_snoc (sent ▸ member) with old | rfl
    · exact owned.known other old
    · exact (List.getElem?_eq_some_iff.mp found).1
  case within =>
    intro other member
    rw [sent, List.mem_append, List.mem_singleton]
    rcases List.mem_cons.mp (holding.mem_iff.mp member) with same | old
    · exact .inr same
    · exact .inl (owned.within other old)
  case each =>
    refine each_of_modify owned calls ?_ ?_ ?_
    · intro other different
      rw [holding.mem_iff, List.mem_cons, or_iff_right different]
    · intro other different
      rw [sent, List.mem_append, List.mem_singleton, or_iff_left different]
    · intro call' old
      cases found.symm.trans old
      exact ⟨fun _ => ⟨open', .inl rfl⟩, fun _ _ => holding.mem_iff.mpr List.mem_cons_self, by simp⟩

theorem owned_leave (reply : Reply) (owned : Owned s) (holding : s.holding.Perm (ticket :: t.holding))
    (calls : t.calls = s.calls.modify ticket fun call => { call with reply }) (sent : t.sent = s.sent)
    (closed : reply ≠ .open) : Owned t := by
  obtain ⟨absent, distinct⟩ := List.nodup_cons.mp (holding.nodup_iff.mp owned.distinct)
  have held : ticket ∈ s.holding := holding.mem_iff.mpr List.mem_cons_self
  constructor
  case distinct => exact distinct
  case known =>
    rw [calls, sent, List.length_modify]
    exact owned.known
  case within =>
    intro other member
    rw [sent]
    exact owned.within other (holding.mem_iff.mpr (List.mem_cons_of_mem ticket member))
  case each =>
    refine each_of_modify owned calls ?_ (fun _ _ => by rw [sent]) ?_
    · intro other different
      rw [holding.mem_iff, List.mem_cons, or_iff_right different]
    · intro call found
      constructor
      case held => exact fun member => absurd member absent
      case waits => exact fun _ open' => absurd open' closed
      case unsent => exact fun early => absurd held (owned.not_held found early)

theorem getElem?_exit {found : Call} (listed : s.exit.calls[ticket]? = some found) :
    ∃ before, s.calls[ticket]? = some before ∧
      found = if ticket ∈ s.holding then { before with reply := .dropped } else before := by
  simp only [Runner.exit, List.getElem?_mapIdx] at listed
  obtain ⟨before, old, rfl⟩ := Option.map_eq_some_iff.mp listed
  exact ⟨before, old, rfl⟩

theorem length_exit : s.exit.calls.length = s.calls.length := by simp [Runner.exit]

theorem owned_exit (owned : Owned s) : Owned s.exit := by
  constructor
  case distinct => exact List.nodup_nil
  case known =>
    rw [length_exit]
    exact owned.known
  case within => exact nofun
  case each =>
    intro ticket call found
    obtain ⟨before, old, rfl⟩ := getElem?_exit found
    have here := owned.each ticket before old
    by_cases held : ticket ∈ s.holding
    · rw [if_pos held]
      constructor
      case held => exact nofun
      case waits => exact nofun
      case unsent => exact fun early => absurd held (owned.not_held old early)
    · rw [if_neg held]
      exact ⟨nofun, fun awaiting open' => absurd (here.waits awaiting open') held, here.unsent⟩

/-! ## The order of the commands -/

structure Ordered (s : Runner) : Prop where
  distinct : s.sent.Nodup
  queued : s.loop ≠ .exited → s.sent = s.received ++ s.channel
  earlier : s.received <+: s.sent
  last : ∀ ticket ∈ s.loop.holds, ∃ before, s.received = before ++ [ticket]
  alone : ∀ ticket, s.loop = .running ticket → s.inflight = []
  serial : s.mode = .serial → s.inflight = []
  stopped : s.loop = .exited → s.inflight = [] ∧ s.channel = []
  wokenOnce : s.ready.Nodup
  woken : ∀ ticket ∈ s.ready, ticket ∈ s.inflight
  unstarted : ∀ ticket ∈ s.inflight, ticket ∈ s.started ∨ ticket ∈ s.ready
  starts : (s.started ++ s.ready.filter (· ∉ s.started)).Sublist s.received

theorem started_sublist_sent (ordered : Ordered s) : s.started.Sublist s.sent :=
  ((List.sublist_append_left _ _).trans ordered.starts).trans ordered.earlier.sublist

theorem Ordered.exit (ordered : Ordered s) : Ordered s.exit where
  __ := ordered
  queued := fun running => absurd rfl running
  last := nofun
  alone := nofun
  serial := fun _ => rfl
  stopped := fun _ => ⟨rfl, rfl⟩
  wokenOnce := List.nodup_nil
  woken := nofun
  unstarted := nofun
  starts := by
    simpa [Runner.exit] using (List.sublist_append_left _ _).trans ordered.starts

theorem Ordered.pollReady (ordered : Ordered s) (ready : s.ready = ticket :: rest) :
    Ordered (pollGuest { s with ready := rest } ticket) := by
  have distinct := ordered.wokenOnce
  rw [ready, List.nodup_cons] at distinct
  obtain ⟨absent, distinct⟩ := distinct
  have woken := ordered.woken
  rw [ready] at woken
  refine { ordered with
    wokenOnce := distinct
    woken := fun other member => woken other (List.mem_cons_of_mem ticket member)
    unstarted := ?unstarted, starts := ?starts }
  case unstarted =>
    intro other member
    simp only [pollGuest]
    rcases ordered.unstarted other member with started | queued
    · left
      split
      · exact started
      · exact List.mem_append_left _ started
    · rw [ready, List.mem_cons] at queued
      rcases queued with rfl | later
      · left
        split
        · assumption
        · simp
      · exact .inr later
  case starts =>
    have starts := ordered.starts
    rw [ready] at starts
    simp only [pollGuest]
    by_cases again : ticket ∈ s.started
    · rw [if_pos again]
      simpa [again] using starts
    · rw [if_neg again]
      have same : rest.filter (· ∉ s.started ++ [ticket]) = rest.filter (· ∉ s.started) := by
        apply List.filter_congr
        intro other member
        have different : other ≠ ticket := fun same => absent (same ▸ member)
        simp [different]
      rw [same]
      simpa [again] using starts

theorem sublist_before {α : Type} {list before : List α} {a : α} (sublist : list.Sublist (before ++ [a]))
    (absent : a ∉ list) : list.Sublist before := by
  obtain ⟨front, back, rfl, first, last⟩ := List.sublist_append_iff.mp sublist
  rcases List.sublist_singleton.mp last with rfl | rfl
  · simpa using first
  · simp at absent

theorem Ordered.pollRunning (ordered : Ordered s) (running : s.loop = .running ticket) :
    Ordered (s.pollGuest ticket) := by
  have none : s.inflight = [] := ordered.alone ticket running
  have idle : s.ready = [] := List.eq_nil_iff_forall_not_mem.mpr fun other member => by
    have flying := ordered.woken other member
    rw [none] at flying
    cases flying
  refine { ordered with unstarted := ?_, starts := ?_ }
  · intro other member
    rw [pollGuest, none] at member
    cases member
  · have starts := ordered.starts
    rw [idle, List.filter_nil, List.append_nil] at starts
    simp only [pollGuest, idle, List.filter_nil, List.append_nil]
    by_cases again : ticket ∈ s.started
    · rw [if_pos again]
      exact starts
    · rw [if_neg again]
      obtain ⟨before, received⟩ := ordered.last ticket (by rw [running]; exact List.mem_singleton.mpr rfl)
      rw [received] at starts ⊢
      exact (sublist_before starts again).append (List.Sublist.refl _)

/-! ## What a step can do -/

def finish (s : Runner) (ticket : Nat) (result : Option (ActorResult Bytes)) : Runner :=
  { s.setReply ticket (result.elim .dropped .sent) with executed := s.executed ++ (result.map (ticket, ·)).toList }

def ends (s : Runner) (fatal : Bool) : Runner := if fatal then s.exit else s

inductive Done (s : Runner) (call : Call) : ActorResult Bytes → Prop
  | refused (entering : call.phase = .entering) (shut : s.intakeOpen = false) : Done s call (.error runnerTerminated)
  | unsent (sending : call.phase = .sending) (exited : s.loop = .exited) : Done s call (.error runnerTerminated)
  | answered {result : ActorResult Bytes} (awaiting : call.phase = .awaiting) (sent : call.reply = .sent result) :
      Done s call result
  | terminated (awaiting : call.phase = .awaiting) (dropped : call.reply = .dropped) :
      Done s call (.error runnerTerminated)

theorem Done.active {result : ActorResult Bytes} (done : Done s call result) : isActive call = true := by
  cases done with
  | refused entering | unsent entering | answered entering | terminated entering => rw [isActive, entering]

inductive PhaseStep (s : Runner) (action : Action) (ticket : Nat) (before : Call) : CallPhase → Prop
  | admitted (entering : before.phase = .entering) (isOpen : s.intakeOpen = true) :
      PhaseStep s action ticket before .sending
  | returned {result : ActorResult Bytes} (done : Done s before result) :
      PhaseStep s action ticket before (.returned result)
  | sent (sending : before.phase = .sending) (running : s.loop ≠ .exited) (same : action = .send ticket) :
      PhaseStep s action ticket before .awaiting
  | dropped (active : isActive before = true) (same : action = .drop ticket) :
      PhaseStep s action ticket before .dropped

theorem PhaseStep.active {phase : CallPhase} (changes : PhaseStep s action ticket call phase) :
    isActive call = true := by
  cases changes with
  | admitted entering | sent entering => rw [isActive, entering]
  | returned done => exact done.active
  | dropped active => exact active

def proceed (s : Runner) (ticket : Nat) (phase : CallPhase) : Runner :=
  { s.setPhase ticket phase with
    channel := if phase = .awaiting then s.channel ++ [ticket] else s.channel
    sent := if phase = .awaiting then s.sent ++ [ticket] else s.sent }

def caller : Action → Option Nat
  | .callAdmitted ticket | .send ticket | .resume ticket | .drop ticket => some ticket
  | _ => none

theorem phaseStep_step (calls : caller action = some ticket) (taken : s.step action = some t) :
    ∃ call phase, s.calls[ticket]? = some call ∧ PhaseStep s action ticket call phase ∧ t = proceed s ticket phase := by
  cases action with
  | callAdmitted =>
    cases calls
    obtain ⟨call, found, taken⟩ := Option.bind_eq_some_iff.mp taken
    simp only [callAdmitted] at taken
    split at taken
    · next entering =>
      split at taken <;> cases taken
      · next isOpen => exact ⟨call, .sending, found, .admitted entering isOpen, rfl⟩
      · next closed => exact ⟨call, .returned _, found, .returned (.refused entering (by simpa using closed)), rfl⟩
    · cases taken
  | send =>
    cases calls
    obtain ⟨call, found, taken⟩ := Option.bind_eq_some_iff.mp taken
    simp only [send] at taken
    split at taken
    · next sending =>
      split at taken
      · next exited =>
        cases taken
        exact ⟨call, .returned _, found, .returned (.unsent sending exited), rfl⟩
      · next running =>
        obtain ⟨-, rfl⟩ := Machine.of_guard taken
        exact ⟨call, .awaiting, found, .sent sending running rfl, rfl⟩
    · cases taken
  | resume =>
    cases calls
    obtain ⟨call, found, taken⟩ := Option.bind_eq_some_iff.mp taken
    simp only [resume] at taken
    split at taken
    · next awaiting =>
      split at taken <;> cases taken
      · next reply => exact ⟨call, .returned _, found, .returned (.answered awaiting reply), rfl⟩
      · next reply => exact ⟨call, .returned _, found, .returned (.terminated awaiting reply), rfl⟩
    · cases taken
  | drop =>
    cases calls
    obtain ⟨call, found, taken⟩ := Option.bind_eq_some_iff.mp taken
    obtain ⟨active, rfl⟩ := Machine.of_guard taken
    exact ⟨call, .dropped, found, .dropped active rfl, rfl⟩
  | _ => cases calls

def poisons (mode : RunnerMode) (polled : Polled) : Bool :=
  match mode with
  | .interleaved => polled.poisonsRunner
  | .serial => polled = .callerCanceled

-- In `finished` the answer of a hook or of a data chunk is fixed, so that no guest code was polled.
inductive PollStep (s : Runner) : Action → Runner → Prop
  | waitsReady {ticket : Nat} {rest : List Nat} (ready : s.ready = ticket :: rest) :
      PollStep s (.pollInflight .pending) (pollGuest { s with ready := rest } ticket)
  | waits {ticket : Nat} (running : s.loop = .running ticket) : PollStep s (.pollRunning .pending) (s.pollGuest ticket)
  | landed {ticket : Nat} {rest : List Nat} {call : Call} {polled : Polled} {result : Option (ActorResult Bytes)}
      (ready : s.ready = ticket :: rest) (found : s.calls[ticket]? = some call)
      (gone : result = none → call.phase = .dropped) :
      PollStep s (.pollInflight polled) (ends (finish { pollGuest { s with ready := rest } ticket with
        inflight := s.inflight.erase ticket } ticket result) polled.poisonsRunner)
  | finished {ticket : Nat} {call : Call} {polled : Polled} {base : Runner} (result : Option (ActorResult Bytes))
      (fatal : Bool) (running : s.loop = .running ticket) (found : s.calls[ticket]? = some call)
      (gone : result = none → call.phase = .dropped)
      (polls : base = s.pollGuest ticket ∨ base = s ∧ call.command ≠ .dispatch)
      (ended : fatal = true → poisons s.mode polled = true ∨ call.command = .shutdown)
      (poisoned : s.mode = .interleaved → polled.poisonsRunner = true → fatal = true) :
      PollStep s (.pollRunning polled) (ends (finish { base with loop := .receiving } ticket result) fatal)

theorem settle_eq (s : Runner) (ticket : Nat) (call : Call) (can : canFind call hasTimeout polled = true)
    (ended : polled ≠ .pending) :
    ∃ result, s.settle ticket call polled = finish s ticket result ∧ (result = none → call.phase = .dropped) := by
  cases polled with
  | pending => exact absurd rfl ended
  | completed result => exact ⟨some result, rfl, nofun⟩
  | panicked | timedOut => exact ⟨some _, rfl, nofun⟩
  | callerCanceled => exact ⟨none, by simp [settle, finish, setReply], fun _ => of_decide_eq_true can⟩

theorem pollStep_inflight (taken : s.step (.pollInflight polled) = some t) : PollStep s (.pollInflight polled) t := by
  simp only [step] at taken
  split at taken
  · next ready =>
    obtain ⟨call, found, taken⟩ := Option.bind_eq_some_iff.mp taken
    simp only [Runner.pollInflight] at taken
    split at taken
    · next can =>
      rw [Bool.and_eq_true] at can
      split at taken <;> cases taken
      · next pending =>
        subst pending
        exact .waitsReady ready
      · next ended =>
        obtain ⟨result, after, gone⟩ := settle_eq _ _ call can.2 ended
        rw [after]
        exact .landed ready found gone
    · cases taken
  · cases taken

section

variable (found : s.calls[ticket]? = some call) (running : s.loop = .running ticket)
include found running

theorem pollStep_alone (fatal : Bool) (ended : fatal = true → poisons s.mode polled = true)
    (poisoned : s.mode = .interleaved → polled.poisonsRunner = true → fatal = true)
    (taken : s.pollAlone ticket call polled fatal = some t) : PollStep s (.pollRunning polled) t := by
  simp only [pollAlone] at taken
  split at taken
  · next can =>
    split at taken <;> cases taken
    · next pending =>
      subst pending
      exact .waits running
    · next completed =>
      obtain ⟨result, after, gone⟩ := settle_eq _ _ call can completed
      rw [after]
      exact .finished result fatal running found gone (.inl rfl) (fun fatal => .inl (ended fatal)) poisoned
  · cases taken

theorem pollStep_answer {result : ActorResult Bytes} (fatal : Bool) (barrier : call.command ≠ .dispatch)
    (ended : fatal = true → call.command = .shutdown) (harmless : polled.poisonsRunner = false) :
    PollStep s (.pollRunning polled) (ends ({ s with loop := .receiving }.answer ticket result) fatal) := by
  have step : PollStep s (.pollRunning polled) (ends (finish { s with loop := .receiving } ticket (some result)) fatal) :=
    .finished _ fatal running found nofun (.inr ⟨rfl, barrier⟩) (fun fatal => .inr (ended fatal))
      fun _ poisons => by cases harmless.symm.trans poisons
  exact step

end

theorem pollStep_running (taken : s.step (.pollRunning polled) = some t) : PollStep s (.pollRunning polled) t := by
  simp only [step] at taken
  split at taken
  · next ticket running =>
    obtain ⟨call, found, taken⟩ := Option.bind_eq_some_iff.mp taken
    split at taken
    · next mode =>
      simp only [runBarrier] at taken
      split at taken
      · exact pollStep_alone found running _ (by simp [poisons, mode]) (fun _ => id) taken
      · next hook =>
        obtain ⟨rfl, rfl⟩ := Machine.of_guard taken
        exact pollStep_answer found running false (by simp [hook]) (by simp) rfl
      · next dataChunk =>
        obtain ⟨rfl, rfl⟩ := Machine.of_guard taken
        exact pollStep_answer found running false (by simp [dataChunk]) (by simp) rfl
      · next shutdown =>
        obtain ⟨rfl, rfl⟩ := Machine.of_guard taken
        exact pollStep_answer found running true (by simp [shutdown]) (fun _ => shutdown) rfl
      · cases taken
    · next mode =>
      have serial {P : Prop} (interleaved : s.mode = .interleaved) : P := by cases mode.symm.trans interleaved
      simp only [runCommand] at taken
      split at taken
      · next shutdown =>
        split at taken <;> cases taken
        · exact .waits running
        · exact .finished (some (.ok [])) true running found (by simp) (.inl rfl) (fun _ => .inr shutdown) serial
      · exact pollStep_alone found running _ (by simp [poisons, mode]) serial taken
  · cases taken

inductive Move (action : Action) (s : Runner) : Runner → Prop
  | called (command : ActorCmd) (called : action = .call command) :
      Move action s { s with calls := s.calls ++ [⟨command, if command.isRaw then .sending else .entering, .open⟩] }
  | gates (intakeOpen sendersGone : Bool) (closes : intakeOpen = false → s.intakeOpen = false ∨ s.calls.any holdsGuard = false)
      (stays : s.intakeOpen = false → intakeOpen = false) : Move action s { s with intakeOpen, sendersGone }
  | caller {ticket : Nat} {call : Call} {phase : CallPhase} (found : s.calls[ticket]? = some call)
      (changes : PhaseStep s action ticket call phase) : Move action s (proceed s ticket phase)
  | skipped {ticket : Nat} {call : Call} {rest : List Nat} (receiving : s.loop = .receiving)
      (channel : s.channel = ticket :: rest) (found : s.calls[ticket]? = some call) (gone : call.phase = .dropped) :
      Move action s ({ s with channel := rest, received := s.received ++ [ticket] }.setReply ticket .dropped)
  | flown {ticket : Nat} {call : Call} {rest : List Nat} (receiving : s.loop = .receiving)
      (channel : s.channel = ticket :: rest) (found : s.calls[ticket]? = some call)
      (mode : s.mode = .interleaved) (dispatch : call.command = .dispatch) :
      Move action s { s with
        channel := rest
        received := s.received ++ [ticket]
        inflight := s.inflight ++ [ticket]
        ready := s.ready ++ [ticket] }
  | taken {ticket : Nat} {call : Call} {rest : List Nat} {loop : Loop} (receiving : s.loop = .receiving)
      (channel : s.channel = ticket :: rest) (found : s.calls[ticket]? = some call)
      (barrier : s.mode = .interleaved → call.command ≠ .dispatch)
      (next : loop = .draining ticket ∨ loop = .running ticket ∧ s.inflight = []) :
      Move action s { s with channel := rest, received := s.received ++ [ticket], loop := loop }
  | woken {ticket : Nat} (flying : ticket ∈ s.inflight) (asleep : ticket ∉ s.ready) :
      Move action s { s with ready := s.ready ++ [ticket] }
  | polledReady {ticket : Nat} {rest : List Nat} (ready : s.ready = ticket :: rest) :
      Move action s (pollGuest { s with ready := rest } ticket)
  | polledRunning {ticket : Nat} (running : s.loop = .running ticket) : Move action s (s.pollGuest ticket)
  | landed {ticket : Nat} {call : Call} (result : Option (ActorResult Bytes)) (flying : ticket ∈ s.inflight)
      (asleep : ticket ∉ s.ready) (started : ticket ∈ s.started) (found : s.calls[ticket]? = some call)
      (gone : result = none → call.phase = .dropped) :
      Move action s (finish { s with inflight := s.inflight.erase ticket } ticket result)
  | finished {ticket : Nat} {call : Call} (result : Option (ActorResult Bytes)) (running : s.loop = .running ticket)
      (started : call.command = .dispatch → ticket ∈ s.started) (found : s.calls[ticket]? = some call)
      (gone : result = none → call.phase = .dropped) :
      Move action s (finish { s with loop := .receiving } ticket result)
  | drained {ticket : Nat} (draining : s.loop = .draining ticket) (landed : s.inflight = []) :
      Move action s { s with loop := .running ticket }
  | closing (receiving : s.loop = .receiving) : Move action s { s with loop := .closing }
  | exited : Move action s s.exit

theorem mem_started_pollGuest : ticket ∈ (s.pollGuest ticket).started := by
  simp only [pollGuest]
  split
  · assumption
  · exact List.mem_append_right _ (List.mem_singleton.mpr rfl)

theorem moves_ends (fatal : Bool) (moves : ReflTransGen (Move action) s t) : ReflTransGen (Move action) s (ends t fatal) := by
  cases fatal
  · exact moves
  · exact moves.tail .exited

section

variable {result : Option (ActorResult Bytes)} (found : s.calls[ticket]? = some call)
  (gone : result = none → call.phase = .dropped)
include found gone

theorem moves_landed (ordered : Ordered s) (ready : s.ready = ticket :: rest) :
    ReflTransGen (Move action) s (finish { pollGuest { s with ready := rest } ticket with
      inflight := s.inflight.erase ticket } ticket result) := by
  have asleep : ticket ∉ rest := by
    have distinct := ordered.wokenOnce
    rw [ready, List.nodup_cons] at distinct
    exact distinct.1
  have flying : ticket ∈ s.inflight := ordered.woken ticket (by rw [ready]; exact List.mem_cons_self)
  exact (ReflTransGen.single (.polledReady ready)).tail
    (.landed result flying asleep (mem_started_pollGuest (s := { s with ready := rest })) found gone)

theorem moves_finished {base : Runner} (running : s.loop = .running ticket)
    (polls : base = s.pollGuest ticket ∨ base = s ∧ call.command ≠ .dispatch) :
    ReflTransGen (Move action) s (finish { base with loop := .receiving } ticket result) := by
  rcases polls with rfl | ⟨rfl, barrier⟩
  · exact (ReflTransGen.single (.polledRunning running)).tail
      (.finished result running (fun _ => mem_started_pollGuest) found gone)
  · exact .single (.finished result running (fun dispatch => absurd dispatch barrier) found gone)

end

theorem moves_poll (ordered : Ordered s) (step : PollStep s action t) : ReflTransGen (Move action) s t := by
  cases step with
  | waitsReady ready => exact .single (.polledReady ready)
  | waits running => exact .single (.polledRunning running)
  | landed ready found gone => exact moves_ends _ (moves_landed found gone ordered ready)
  | finished _ fatal running found gone polls => exact moves_ends fatal (moves_finished found gone running polls)

theorem moves_receive (receiving : s.loop = .receiving) (channel : s.channel = ticket :: rest)
    (found : s.calls[ticket]? = some call) (serial : s.mode = .serial → s.inflight = []) :
    Move action s (receive { s with channel := rest, received := s.received ++ [ticket] } ticket call) := by
  simp only [receive]
  split
  · next closed =>
    exact .skipped receiving channel found (of_decide_eq_true closed).2
  · split
    · next mode dispatch => exact .flown receiving channel found mode dispatch
    · next mode barrier => exact .taken receiving channel found (fun _ => barrier) (.inl rfl)
    · next mode =>
      refine .taken receiving channel found ?_ (.inr ⟨rfl, serial mode⟩)
      intro interleaved
      cases mode.symm.trans interleaved

theorem turn_step (ordered : Ordered s) (taken : s.step action = some t) : Move action s t ∨ PollStep s action t := by
  cases action with
  | call command =>
    simp only [step] at taken
    split at taken <;> cases taken
    exact .inl (.called command rfl)
  | callAdmitted | send | resume | drop =>
    obtain ⟨call, phase, found, changes, rfl⟩ := phaseStep_step rfl taken
    exact .inl (.caller found changes)
  | stopIntake =>
    simp only [step] at taken
    split at taken <;> cases taken
    next free => exact .inl (.gates false s.sendersGone (fun _ => .inr (by simpa using free)) fun _ => rfl)
  | dropHandle =>
    simp only [step] at taken
    split at taken <;> cases taken
    exact .inl (.gates s.intakeOpen true .inl id)
  | abort =>
    simp only [step] at taken
    split at taken <;> cases taken
    exact .inl .exited
  | receive =>
    simp only [step] at taken
    split at taken
    · next receiving channel =>
      obtain ⟨call, found, rfl⟩ := Option.map_eq_some_iff.mp taken
      exact .inl (moves_receive receiving channel found ordered.serial)
    · cases taken
  | wake =>
    simp only [step] at taken
    split at taken <;> cases taken
    next both => exact .inl (.woken both.1 both.2)
  | pollInflight => exact .inr (pollStep_inflight taken)
  | pollRunning => exact .inr (pollStep_running taken)
  | drained =>
    simp only [step] at taken
    split at taken <;> cases taken
    next draining landed => exact .inl (.drained draining landed)
  | disconnected =>
    simp only [step] at taken
    split at taken <;> cases taken
    next receiving => exact .inl (.closing receiving.1)
  | closed =>
    obtain ⟨-, rfl⟩ := Machine.of_guard taken
    exact .inl .exited

theorem moves_step (ordered : Ordered s) (taken : s.step action = some t) : ReflTransGen (Move action) s t :=
  (turn_step ordered taken).elim .single (moves_poll ordered)

/-! ## The invariant -/

theorem closed_of_finish (result : Option (ActorResult Bytes)) : result.elim Reply.dropped .sent ≠ .open := by
  cases result <;> nofun

theorem owned_move (owned : Owned s) (move : Move action s t) : Owned t := by
  cases move with
  | called command =>
    have fresh : s.calls.length ∉ s.sent := fun member => Nat.lt_irrefl _ (owned.known _ member)
    refine { owned with known := ?known, each := ?each }
    case known =>
      intro ticket member
      have := owned.known ticket member
      simp only [List.length_append, List.length_singleton]
      omega
    case each =>
      intro ticket call found
      rcases Slots.of_snoc found with old | ⟨rfl, rfl⟩
      · have here := owned.each ticket call old
        exact ⟨here.held, here.waits, here.unsent⟩
      · refine ⟨fun member => absurd (owned.within _ member) fresh, ?_, fun _ => ⟨rfl, fresh⟩⟩
        cases command.isRaw <;> nofun
  | gates | woken | polledReady | polledRunning => exact owned_of_perm owned rfl rfl (.refl _)
  | @caller ticket _ _ found changes =>
    cases changes with
    | admitted entering =>
      have here := (owned.each _ _ found).unsent (.inl entering)
      exact owned_setPhase owned found (fun member => absurd member (owned.not_held found (.inl entering))) nofun
        fun _ => here
    | returned done =>
      refine owned_setPhase owned found ?_ nofun (by simp)
      intro member
      cases done with
      | refused entering => exact absurd member (owned.not_held found (.inl entering))
      | unsent sending => exact absurd member (owned.not_held found (.inr sending))
      | answered _ sent => exact absurd ((owned.each _ _ found).held member).1 (by rw [sent]; nofun)
      | terminated _ dropped => exact absurd ((owned.each _ _ found).held member).1 (by rw [dropped]; nofun)
    | dropped => exact owned_setPhase owned found (fun _ => rfl) nofun (by simp)
    | sent sending =>
      refine owned_enter owned found sending rfl rfl ?_
      change (s.loop.holds ++ s.inflight ++ (s.channel ++ [ticket])).Perm _
      rw [← List.append_assoc]
      exact List.perm_append_singleton ticket s.holding
  | @skipped ticket call rest receiving channel =>
    refine owned_leave .dropped owned ?_ rfl rfl nofun
    rw [Runner.holding, channel]
    exact List.perm_middle
  | @flown ticket call rest receiving channel =>
    refine owned_of_perm owned rfl rfl ?_
    simp only [Runner.holding, channel, List.append_assoc, List.singleton_append]
    exact .refl _
  | @taken ticket call rest loop receiving channel found barrier next =>
    refine owned_of_perm owned rfl rfl ?_
    have held : loop.holds = [ticket] := by
      rcases next with rfl | ⟨rfl, -⟩ <;> rfl
    rw [Runner.holding, Runner.holding, channel, receiving, held]
    exact List.perm_middle.symm
  | @landed ticket call result flying =>
    refine owned_leave _ owned ?_ rfl rfl (closed_of_finish result)
    have split : s.inflight.Perm (ticket :: s.inflight.erase ticket) := List.perm_cons_erase flying
    exact ((split.append_left s.loop.holds).trans List.perm_middle).append_right s.channel
  | @finished ticket call result running =>
    refine owned_leave _ owned ?_ rfl rfl (closed_of_finish result)
    rw [Runner.holding, running]
    exact .refl _
  | drained draining | closing draining =>
    refine owned_of_perm owned rfl rfl ?_
    simp only [Runner.holding, draining, Loop.holds]
    exact .refl _
  | exited => exact owned_exit owned

theorem Ordered.dequeue (ordered : Ordered s) (receiving : s.loop = .receiving) (channel : s.channel = ticket :: rest) :
    Ordered { s with channel := rest, received := s.received ++ [ticket] } := by
  have sent : s.sent = (s.received ++ [ticket]) ++ rest := by
    rw [ordered.queued (by rw [receiving]; nofun), channel]
    simp
  refine { ordered with queued := fun _ => sent, earlier := ⟨rest, sent.symm⟩, last := ?_, stopped := ?_, starts := ?_ }
  · intro other member
    simp only [receiving] at member
    cases member
  · exact fun exited => by cases receiving.symm.trans exited
  · exact ordered.starts.trans (List.sublist_append_left _ _)

theorem ordered_move (owned : Owned s) (ordered : Ordered s) (move : Move action s t) : Ordered t := by
  cases move with
  | called | gates => exact { ordered with }
  | @caller ticket call _ found changes =>
    cases changes with
    | admitted | returned | dropped => exact { ordered with }
    | sent sending running =>
      have absent := ((owned.each ticket call found).unsent (.inr sending)).2
      refine { ordered with distinct := ?_, queued := ?_, earlier := ?_, stopped := fun exited => absurd exited running }
      · exact Slots.nodup_snoc ordered.distinct absent
      · intro _
        change s.sent ++ [ticket] = s.received ++ (s.channel ++ [ticket])
        rw [ordered.queued running, List.append_assoc]
      · exact ordered.earlier.trans (List.prefix_append _ _)
  | skipped receiving channel => exact { ordered.dequeue receiving channel with }
  | @flown ticket call rest receiving channel found mode =>
    have grounded : ticket ∉ s.inflight := by
      have distinct := owned.distinct
      rw [Runner.holding, channel] at distinct
      intro flying
      exact (List.nodup_append.mp distinct).2.2 ticket (List.mem_append_right _ flying) ticket List.mem_cons_self rfl
    refine { ordered.dequeue receiving channel with
      alone := fun _ running => by cases receiving.symm.trans running
      serial := fun serial => by cases mode.symm.trans serial
      stopped := fun exited => by cases receiving.symm.trans exited
      wokenOnce := Slots.nodup_snoc ordered.wokenOnce fun member => grounded (ordered.woken ticket member)
      woken := ?_
      unstarted := ?_
      starts := ?_ }
    · intro other member
      rcases List.mem_append.mp member with old | new
      · exact List.mem_append_left _ (ordered.woken other old)
      · exact List.mem_append_right _ new
    · intro other member
      rcases List.mem_append.mp member with old | new
      · exact (ordered.unstarted other old).imp_right (List.mem_append_left _)
      · exact .inr (List.mem_append_right _ new)
    · change (s.started ++ (s.ready ++ [ticket]).filter (· ∉ s.started)).Sublist (s.received ++ [ticket])
      rw [List.filter_append, ← List.append_assoc]
      exact ordered.starts.append List.filter_sublist
  | @taken ticket call rest loop receiving channel found barrier next =>
    have dequeued := ordered.dequeue receiving channel
    refine { dequeued with
      queued := fun _ => dequeued.queued (by rw [receiving]; nofun), last := ?_, alone := ?_, stopped := ?_ }
    · intro other member
      have held : other = ticket := by
        rcases next with rfl | ⟨rfl, -⟩ <;> exact List.mem_singleton.mp member
      exact ⟨s.received, by rw [held]⟩
    · intro other running
      rcases next with rfl | ⟨-, idle⟩
      · cases running
      · exact idle
    · intro exited
      rcases next with rfl | ⟨rfl, -⟩ <;> cases exited
  | @woken ticket flying asleep =>
    have started : ticket ∈ s.started := (ordered.unstarted ticket flying).resolve_right asleep
    refine { ordered with
      wokenOnce := Slots.nodup_snoc ordered.wokenOnce asleep, woken := ?_, unstarted := ?_, starts := ?_ }
    · intro other member
      rcases Slots.mem_snoc member with old | rfl
      · exact ordered.woken other old
      · exact flying
    · exact fun other member => (ordered.unstarted other member).imp_right (List.mem_append_left _)
    · change (s.started ++ (s.ready ++ [ticket]).filter (· ∉ s.started)).Sublist s.received
      simpa [started] using ordered.starts
  | polledReady ready => exact ordered.pollReady ready
  | polledRunning running => exact ordered.pollRunning running
  | @landed ticket call result flying asleep =>
    refine { ordered with alone := ?_, serial := ?_, stopped := ?_, woken := ?_, unstarted := ?_ }
    · intro other running
      rw [ordered.alone other running] at flying
      cases flying
    · intro serial
      rw [ordered.serial serial] at flying
      cases flying
    · intro exited
      rw [(ordered.stopped exited).1] at flying
      cases flying
    · intro other member
      have different : other ≠ ticket := fun same => asleep (same ▸ member)
      exact (List.mem_erase_of_ne different).mpr (ordered.woken other member)
    · exact fun other member => ordered.unstarted other (List.mem_of_mem_erase member)
  | finished result running =>
    exact { ordered with
      queued := fun _ => ordered.queued (by rw [running]; nofun)
      last := nofun
      alone := nofun
      stopped := nofun }
  | @drained ticket draining landed =>
    refine { ordered with
      queued := fun _ => ordered.queued (by rw [draining]; nofun)
      last := ?_
      alone := fun _ _ => landed
      stopped := nofun }
    have last := ordered.last
    rw [draining] at last
    exact last
  | closing receiving =>
    exact { ordered with
      queued := fun _ => ordered.queued (by rw [receiving]; nofun)
      last := nofun
      alone := nofun
      stopped := nofun }
  | exited => exact ordered.exit

end Actr.Proof.Executor
