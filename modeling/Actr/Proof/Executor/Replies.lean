import Actr.Proof.Executor.Moves

/-! # Replies and results of the runner -/

namespace Actr.Proof.Executor
open Hyper.Executor Runner Library Actr.Protocol Relation

variable {s t : Runner} {action : Action} {ticket : Nat} {call : Call} {change : Call → Call}
variable {other : Nat} {before : Call}

def Replied (s : Runner) (ticket : Nat) (reply : Reply) : Prop :=
  ∃ call, s.calls[ticket]? = some call ∧ call.reply = reply

def Over (s : Runner) (ticket : Nat) : Prop := ∃ call, s.calls[ticket]? = some call ∧ call.reply ≠ .open

def IsDispatch (s : Runner) (ticket : Nat) : Prop := ∃ call, s.calls[ticket]? = some call ∧ call.command = .dispatch

def IsBarrier (s : Runner) (ticket : Nat) : Prop := ∃ call, s.calls[ticket]? = some call ∧ call.command ≠ .dispatch

structure Evolves (call call' : Call) : Prop where
  command : call'.command = call.command
  reply : call.reply ≠ .open → call'.reply = call.reply
  ended : isActive call = false → call'.phase = call.phase

theorem Evolves.refl (call : Call) : Evolves call call := ⟨rfl, fun _ => rfl, fun _ => rfl⟩

theorem evolves_modify (found : s.calls[other]? = some before)
    (own : s.calls[ticket]? = some call) (evolves : Evolves call (change call)) :
    ∃ after, (s.calls.modify ticket change)[other]? = some after ∧ Evolves before after := by
  by_cases same : ticket = other
  · subst same
    cases own.symm.trans found
    exact ⟨change call, Slots.modify_self own, evolves⟩
  · exact ⟨before, (Slots.modify_other same).trans found, .refl before⟩

theorem evolves_exit (owned : Owned s) (found : s.calls[ticket]? = some before) :
    ∃ after, s.exit.calls[ticket]? = some after ∧ Evolves before after := by
  simp only [Runner.exit, List.getElem?_mapIdx, found, Option.map_some, Option.some.injEq, exists_eq_left']
  split
  · next held => exact ⟨rfl, fun closed => absurd ((owned.each ticket before found).held held).1 closed, fun _ => rfl⟩
  · exact .refl before

section

variable (owned : Owned s) (moved : Move action s t)
include owned moved

theorem evolves_move (found : s.calls[ticket]? = some before) :
    ∃ after, t.calls[ticket]? = some after ∧ Evolves before after := by
  have replied {own : Nat} {call : Call} {reply : Reply} (listed : s.calls[own]? = some call) (held : own ∈ s.holding) :
      ∃ after, (s.calls.modify own fun call => { call with reply })[ticket]? = some after ∧ Evolves before after :=
    evolves_modify found listed
      ⟨rfl, fun closed => absurd ((owned.each own call listed).held held).1 closed, fun _ => rfl⟩
  cases moved with
  | called => exact ⟨before, Slots.snoc found, .refl before⟩
  | caller own changes => exact evolves_modify found own ⟨rfl, fun _ => rfl, by simp [changes.active]⟩
  | skipped receiving channel own => exact replied own (by simp [Runner.holding, channel])
  | landed result flying asleep started own => exact replied own (by simp [Runner.holding, flying])
  | finished result running started own => exact replied own (by simp [Runner.holding, running, Loop.holds])
  | exited => exact evolves_exit owned found
  | _ => exact ⟨before, found, .refl before⟩

theorem Over.move (ended : Over s ticket) : Over t ticket := by
  obtain ⟨call, found, closed⟩ := ended
  obtain ⟨after, later, evolves⟩ := evolves_move owned moved found
  exact ⟨after, later, by rw [evolves.reply closed]; exact closed⟩

theorem IsBarrier.move (barrier : IsBarrier s ticket) : IsBarrier t ticket := by
  obtain ⟨call, found, command⟩ := barrier
  obtain ⟨after, later, evolves⟩ := evolves_move owned moved found
  exact ⟨after, later, by rw [evolves.command]; exact command⟩

theorem IsDispatch.move (dispatch : IsDispatch s ticket) : IsDispatch t ticket := by
  obtain ⟨call, found, command⟩ := dispatch
  obtain ⟨after, later, evolves⟩ := evolves_move owned moved found
  exact ⟨after, later, evolves.command.trans command⟩

end

structure Settled (s : Runner) : Prop where
  ended : ∀ ticket ∈ s.received, ticket ∈ s.loop.holds ∨ ticket ∈ s.inflight ∨ Over s ticket
  dispatches : ∀ ticket ∈ s.inflight, IsDispatch s ticket
  barriers : s.mode = .interleaved → ∀ ticket ∈ s.loop.holds, IsBarrier s ticket
  executed : ∀ ticket result, (ticket, result) ∈ s.executed ↔ Replied s ticket (.sent result)
  gone : s.loop ≠ .exited → ∀ (ticket : Nat) (call : Call), s.calls[ticket]? = some call → call.reply = .dropped →
    call.phase = .dropped
  ran : ∀ ticket result, (ticket, result) ∈ s.executed → IsDispatch s ticket → ticket ∈ s.started
  returned : ∀ (ticket : Nat) (call : Call) (result : ActorResult Bytes), s.calls[ticket]? = some call →
    call.phase = .returned result →
    (ticket, result) ∈ s.executed ∨ result = .error runnerTerminated ∧ (s.loop = .exited ∨ s.intakeOpen = false)
  guards : s.intakeOpen = false → ∀ (ticket : Nat) (call : Call), s.calls[ticket]? = some call → holdsGuard call = false

theorem over_finish (result : Option (ActorResult Bytes)) (found : s.calls[ticket]? = some call) :
    Over (finish s ticket result) ticket :=
  ⟨_, Slots.modify_self found, closed_of_finish result⟩

theorem over_exit (owned : Owned s) (held : ticket ∈ s.holding) : Replied s.exit ticket .dropped := by
  have within := owned.known ticket (owned.within ticket held)
  refine ⟨{ s.calls[ticket] with reply := .dropped }, ?_, rfl⟩
  simp [Runner.exit, held, within]

theorem over_move (owned : Owned s) (settled : Settled s) (move : Move action s t) :
    ∀ ticket ∈ t.received, ticket ∈ t.loop.holds ∨ ticket ∈ t.inflight ∨ Over t ticket := by
  have still : ∀ ticket ∈ s.received, ticket ∈ s.loop.holds ∨ ticket ∈ s.inflight ∨ Over t ticket :=
    fun ticket member => (settled.ended ticket member).imp_right (.imp_right (.move owned move))
  cases move with
  | @skipped ticket call rest receiving channel found =>
    intro other member
    rcases Slots.mem_snoc member with old | rfl
    · exact still other old
    · exact .inr (.inr (over_finish none found))
  | flown =>
    intro other member
    rcases List.mem_append.mp member with old | new
    · exact (still other old).imp_right (.imp_left (List.mem_append_left _))
    · exact .inr (.inl (List.mem_append_right _ new))
  | @taken ticket call rest loop receiving channel found barrier next =>
    intro other member
    rw [receiving] at still
    rcases List.mem_append.mp member with old | new
    · exact .inr ((still other old).resolve_left nofun)
    · left
      rw [List.mem_singleton.mp new]
      rcases next with rfl | ⟨rfl, -⟩ <;> exact List.mem_singleton.mpr rfl
  | @landed ticket call result flying asleep started found =>
    intro other member
    by_cases same : other = ticket
    · subst same
      exact .inr (.inr (over_finish (s := { s with inflight := _ }) result found))
    · exact (still other member).imp_right (.imp_left (List.mem_erase_of_ne same).mpr)
  | @finished ticket call result running started found =>
    intro other member
    by_cases same : other = ticket
    · subst same
      exact .inr (.inr (over_finish (s := { s with loop := _ }) result found))
    · rw [running] at still
      exact .inr ((still other member).resolve_left fun held => same (List.mem_singleton.mp held))
  | drained draining | closing draining =>
    rw [draining] at still
    exact still
  | exited =>
    intro other member
    right
    right
    have dropped (held : other ∈ s.holding) : Over s.exit other := by
      obtain ⟨call, found, reply⟩ := over_exit owned held
      exact ⟨call, found, by rw [reply]; nofun⟩
    rcases still other member with held | flying | ended
    · exact dropped (by simp [Runner.holding, held])
    · exact dropped (by simp [Runner.holding, flying])
    · exact ended
  | _ => exact still

theorem dispatches_move (owned : Owned s) (settled : Settled s) (move : Move action s t) :
    ∀ ticket ∈ t.inflight, IsDispatch t ticket := by
  have still : ∀ ticket ∈ s.inflight, IsDispatch t ticket :=
    fun ticket member => (settled.dispatches ticket member).move owned move
  cases move with
  | flown receiving channel found mode dispatch =>
    intro other member
    rcases Slots.mem_snoc member with old | rfl
    · exact still other old
    · exact ⟨_, found, dispatch⟩
  | landed => exact fun other member => still other (List.mem_of_mem_erase member)
  | exited => exact nofun
  | _ => exact still

theorem barriers_move (owned : Owned s) (settled : Settled s) (move : Move action s t)
    (interleaved : t.mode = .interleaved) : ∀ ticket ∈ t.loop.holds, IsBarrier t ticket := by
  have still (before : s.mode = .interleaved) : ∀ ticket ∈ s.loop.holds, IsBarrier t ticket :=
    fun ticket member => (settled.barriers before ticket member).move owned move
  cases move with
  | @taken ticket call rest loop receiving channel found barrier next =>
    intro other member
    have held : other = ticket := by
      rcases next with rfl | ⟨rfl, -⟩ <;> exact List.mem_singleton.mp member
    rw [held]
    exact ⟨call, found, barrier interleaved⟩
  | drained draining =>
    rw [draining] at still
    exact still interleaved
  | finished | closing | exited => exact nofun
  | _ => exact still interleaved

theorem replied_setPhase {phase : CallPhase} {reply : Reply} :
    Replied (s.setPhase ticket phase) other reply ↔ Replied s other reply := by
  constructor
  · rintro ⟨after, found, rfl⟩
    obtain ⟨before, old, ⟨rfl, rfl⟩ | ⟨-, rfl⟩⟩ := Slots.of_modify found
    · exact ⟨before, old, rfl⟩
    · exact ⟨_, old, rfl⟩
  · rintro ⟨before, old, rfl⟩
    by_cases same : ticket = other
    · subst same
      exact ⟨_, Slots.modify_self old, rfl⟩
    · exact ⟨before, (Slots.modify_other same).trans old, rfl⟩

theorem replied_exit (owned : Owned s) {result : ActorResult Bytes} :
    Replied s.exit ticket (.sent result) ↔ Replied s ticket (.sent result) := by
  constructor
  · rintro ⟨after, found, sent⟩
    obtain ⟨before, old, rfl⟩ := getElem?_exit found
    split at sent
    · cases sent
    · exact ⟨before, old, sent⟩
  · rintro ⟨before, old, sent⟩
    obtain ⟨after, found, evolves⟩ := evolves_exit owned old
    exact ⟨after, found, (evolves.reply (by rw [sent]; nofun)).trans sent⟩

theorem executed_finish (result : Option (ActorResult Bytes)) (found : s.calls[ticket]? = some call)
    (isOpen : call.reply = .open)
    (executed : ∀ ticket result, (ticket, result) ∈ s.executed ↔ Replied s ticket (.sent result)) :
    ∀ other answer, (other, answer) ∈ (finish s ticket result).executed ↔
      Replied (finish s ticket result) other (.sent answer) := by
  have others {reply : Reply} {other : Nat} (different : other ≠ ticket) (answer : ActorResult Bytes) :
      Replied (s.setReply ticket reply) other (.sent answer) ↔ (other, answer) ∈ s.executed := by
    rw [executed, Replied, setReply]
    simp only [Slots.modify_other (Ne.symm different)]
    exact Iff.rfl
  have own {reply : Reply} {answer : ActorResult Bytes} :
      Replied (s.setReply ticket reply) ticket (.sent answer) ↔ reply = .sent answer := by
    simp [Replied, setReply, found]
  have unanswered (answer : ActorResult Bytes) : (ticket, answer) ∉ s.executed := by
    rw [executed]
    rintro ⟨call', found', sent⟩
    cases found.symm.trans found'
    rw [isOpen] at sent
    cases sent
  intro other answer
  change (other, answer) ∈ s.executed ++ (result.map (ticket, ·)).toList ↔
    Replied (s.setReply ticket (result.elim .dropped .sent)) other (.sent answer)
  by_cases same : other = ticket
  · subst same
    rw [own, List.mem_append, or_iff_right (unanswered answer)]
    cases result <;> simp [eq_comm]
  · rw [others same answer, List.mem_append, or_iff_left]
    cases result <;> simp [same]

theorem executed_move (owned : Owned s) (settled : Settled s) (move : Move action s t) :
    ∀ ticket result, (ticket, result) ∈ t.executed ↔ Replied t ticket (.sent result) := by
  have executed := settled.executed
  cases move with
  | called =>
    intro ticket result
    rw [executed]
    constructor
    · rintro ⟨call, found, sent⟩
      exact ⟨call, Slots.snoc found, sent⟩
    · rintro ⟨call, found, sent⟩
      rcases Slots.of_snoc found with old | ⟨-, rfl⟩
      · exact ⟨call, old, sent⟩
      · cases sent
  | caller => exact fun ticket result => (executed ticket result).trans replied_setPhase.symm
  | @skipped own call rest receiving channel found =>
    have held := (owned.each _ _ found).held (by simp [Runner.holding, channel])
    have settled := executed_finish (s := { s with channel := rest, received := s.received ++ [own] }) none found held.1 executed
    rwa [finish, Option.map_none, Option.toList_none, List.append_nil] at settled
  | landed result flying asleep started found =>
    have held := (owned.each _ _ found).held (by simp [Runner.holding, flying])
    exact executed_finish (s := { s with inflight := _ }) result found held.1 executed
  | finished result running started found =>
    have held := (owned.each _ _ found).held (by simp [Runner.holding, running, Loop.holds])
    exact executed_finish (s := { s with loop := _ }) result found held.1 executed
  | exited => exact fun ticket result => (executed ticket result).trans (replied_exit owned).symm
  | _ => exact executed

theorem gone_setPhase {phase : CallPhase} (settled : Settled s) (running : s.loop ≠ .exited)
    (found : s.calls[ticket]? = some call) (ends : call.phase = .dropped → phase = .dropped) :
    ∀ (other : Nat) (after : Call), (s.setPhase ticket phase).calls[other]? = some after → after.reply = .dropped →
      after.phase = .dropped := by
  intro other after later dropped
  obtain ⟨before, old, ⟨rfl, rfl⟩ | ⟨-, rfl⟩⟩ := Slots.of_modify later
  · cases found.symm.trans old
    exact ends (settled.gone running _ call found dropped)
  · exact settled.gone running other after old dropped

theorem gone_finish (result : Option (ActorResult Bytes)) (found : s.calls[ticket]? = some call)
    (gone : result = none → call.phase = .dropped)
    (others : ∀ (other : Nat) (before : Call), s.calls[other]? = some before → before.reply = .dropped →
      before.phase = .dropped) :
    ∀ (other : Nat) (after : Call), (finish s ticket result).calls[other]? = some after → after.reply = .dropped →
      after.phase = .dropped := by
  intro other after later dropped
  obtain ⟨before, old, ⟨rfl, rfl⟩ | ⟨-, rfl⟩⟩ := Slots.of_modify later
  · cases found.symm.trans old
    cases result with
    | none => exact gone rfl
    | some => cases dropped
  · exact others other after old dropped

theorem gone_move (settled : Settled s) (move : Move action s t) (running : t.loop ≠ .exited) :
    ∀ (ticket : Nat) (call : Call), t.calls[ticket]? = some call → call.reply = .dropped → call.phase = .dropped := by
  cases move with
  | called =>
    intro ticket call found dropped
    rcases Slots.of_snoc found with old | ⟨-, rfl⟩
    · exact settled.gone running ticket call old dropped
    · cases dropped
  | caller found changes =>
    refine gone_setPhase settled running found fun gone => ?_
    have active := changes.active
    rw [isActive, gone] at active
    cases active
  | skipped receiving channel found gone =>
    exact gone_finish (s := { s with channel := _, received := _ }) none found (fun _ => gone)
      (settled.gone running)
  | taken receiving | drained receiving | closing receiving => exact settled.gone (by simp [receiving])
  | landed result flying asleep started found gone =>
    exact gone_finish (s := { s with inflight := _ }) result found gone (settled.gone running)
  | finished result active started found gone =>
    exact gone_finish (s := { s with loop := _ }) result found gone (settled.gone (by simp [active]))
  | exited => exact absurd rfl running
  | _ => exact settled.gone running

inductive CallStep (s : Runner) (action : Action) (ticket : Nat) (after : Call) : Prop
  | same {before : Call} (found : s.calls[ticket]? = some before) (command : after.command = before.command)
      (phase : after.phase = before.phase)
  | changed {before : Call} (found : s.calls[ticket]? = some before) (command : after.command = before.command)
      (changes : PhaseStep s action ticket before after.phase)
  | enters {command : ActorCmd} (new : ticket = s.calls.length) (same : action = .call command)
      (fresh : after = ⟨command, if command.isRaw then .sending else .entering, .open⟩)

theorem callStep_modify {after : Call} (found : s.calls[ticket]? = some call)
    (later : (s.calls.modify ticket change)[other]? = some after) (own : CallStep s action ticket (change call)) :
    CallStep s action other after := by
  obtain ⟨before, old, ⟨rfl, rfl⟩ | ⟨-, rfl⟩⟩ := Slots.of_modify later
  · cases found.symm.trans old
    exact own
  · exact .same old rfl rfl

theorem callStep_move {after : Call} (move : Move action s t) (later : t.calls[ticket]? = some after) :
    CallStep s action ticket after := by
  cases move with
  | called command called =>
    rcases Slots.of_snoc later with old | ⟨new, fresh⟩
    · exact .same old rfl rfl
    · exact .enters new called fresh
  | caller found changes => exact callStep_modify found later (.changed found rfl changes)
  | skipped _ _ found => exact callStep_modify found later (.same found rfl rfl)
  | landed _ _ _ _ found => exact callStep_modify found later (.same found rfl rfl)
  | finished _ _ _ found => exact callStep_modify found later (.same found rfl rfl)
  | exited =>
    obtain ⟨before, old, rfl⟩ := getElem?_exit later
    split
    · exact .same old rfl rfl
    · exact .same old rfl rfl
  | _ => exact .same later rfl rfl

theorem executed_subset (move : Move action s t) {entry : Nat × ActorResult Bytes} (member : entry ∈ s.executed) :
    entry ∈ t.executed := by
  cases move with
  | landed | finished => exact List.mem_append_left _ member
  | _ => exact member

theorem started_subset (move : Move action s t) (member : ticket ∈ s.started) : ticket ∈ t.started := by
  have polled {s : Runner} {other : Nat} (member : ticket ∈ s.started) : ticket ∈ (s.pollGuest other).started := by
    simp only [pollGuest]
    split
    · exact member
    · exact List.mem_append_left _ member
  cases move with
  | polledReady => exact polled (s := { s with ready := _ }) member
  | polledRunning => exact polled member
  | _ => exact member

theorem closed_move (move : Move action s t) (closed : s.loop = .exited ∨ s.intakeOpen = false) :
    t.loop = .exited ∨ t.intakeOpen = false := by
  cases move with
  | gates intakeOpen _ _ stays => exact closed.imp_right stays
  | taken receiving | finished _ receiving | drained receiving | closing receiving =>
    exact .inr (closed.resolve_left (by rw [receiving]; nofun))
  | exited => exact .inl rfl
  | _ => exact closed

-- A dispatch that has ended was polled: the body is polled before its end is found.
theorem ran_move (owned : Owned s) (settled : Settled s) (move : Move action s t) :
    ∀ ticket result, (ticket, result) ∈ t.executed → IsDispatch t ticket → ticket ∈ t.started := by
  have old (ticket : Nat) (result : ActorResult Bytes) (member : (ticket, result) ∈ s.executed)
      (dispatch : IsDispatch t ticket) : ticket ∈ t.started := by
    obtain ⟨before, found, -⟩ := (settled.executed ticket result).mp member
    obtain ⟨after, later, evolves⟩ := evolves_move owned move found
    obtain ⟨after', later', command⟩ := dispatch
    cases later.symm.trans later'
    exact started_subset move (settled.ran ticket result member ⟨before, found, evolves.command ▸ command⟩)
  intro ticket result member dispatch
  have again := old ticket result
  cases move with
  | @landed own call answer flying asleep started =>
    cases answer with
    | none => exact again (by simpa [finish] using member) dispatch
    | some =>
      rcases Slots.mem_snoc member with before | new
      · exact again before dispatch
      · cases new
        exact started
  | @finished own call answer running started found =>
    cases answer with
    | none => exact again (by simpa [finish] using member) dispatch
    | some =>
      rcases Slots.mem_snoc member with before | new
      · exact again before dispatch
      · cases new
        obtain ⟨after, later, command⟩ := dispatch
        have same := (Slots.modify_self found).symm.trans later
        cases same
        exact started command
  | _ => exact again member dispatch

theorem returned_move (settled : Settled s) (move : Move action s t) :
    ∀ (ticket : Nat) (call : Call) (result : ActorResult Bytes), t.calls[ticket]? = some call →
      call.phase = .returned result →
      (ticket, result) ∈ t.executed ∨ result = .error runnerTerminated ∧ (t.loop = .exited ∨ t.intakeOpen = false) := by
  intro ticket after result later phase
  have still (before : (ticket, result) ∈ s.executed ∨
      result = .error runnerTerminated ∧ (s.loop = .exited ∨ s.intakeOpen = false)) :
      (ticket, result) ∈ t.executed ∨ result = .error runnerTerminated ∧ (t.loop = .exited ∨ t.intakeOpen = false) :=
    before.imp (executed_subset move) (.imp_right (closed_move move))
  cases callStep_move move later with
  | same found command same => exact still (settled.returned ticket _ result found (same ▸ phase))
  | changed found command changes =>
    rw [phase] at changes
    apply still
    cases changes with
    | returned done =>
      cases done with
      | refused _ shut => exact .inr ⟨rfl, .inr shut⟩
      | unsent _ exited => exact .inr ⟨rfl, .inl exited⟩
      | answered _ sent => exact .inl ((settled.executed ticket result).mpr ⟨_, found, sent⟩)
      | terminated awaiting dropped =>
        refine .inr ⟨rfl, .inl ?_⟩
        by_contra running
        have gone := settled.gone running ticket _ found dropped
        cases awaiting.symm.trans gone
  | @enters command _ _ fresh =>
    rw [fresh] at phase
    cases raw : command.isRaw <;> simp [raw] at phase

theorem guards_move (settled : Settled s) (move : Move action s t) (shut : t.intakeOpen = false) :
    ∀ (ticket : Nat) (call : Call), t.calls[ticket]? = some call → holdsGuard call = false := by
  intro ticket after later
  -- The intake was closed before, or it is closed now and nobody holds a guard.
  have before : s.intakeOpen = false ∨ s.calls.any holdsGuard = false ∧ t.calls = s.calls := by
    cases move with
    | gates intakeOpen sendersGone closes => exact (closes shut).imp_right fun free => ⟨free, rfl⟩
    | _ => exact .inl shut
  rcases before with shut | ⟨free, calls⟩
  · rw [holdsGuard, decide_eq_false_iff_not]
    rintro ⟨sending, unprivileged⟩
    cases callStep_move move later with
    | same found command phase =>
      have none := settled.guards shut ticket _ found
      rw [holdsGuard, decide_eq_false_iff_not] at none
      exact none ⟨phase.symm.trans sending, command ▸ unprivileged⟩
    | changed found command changes =>
      rw [sending] at changes
      cases changes with
      | admitted _ isOpen => cases shut.symm.trans isOpen
    | @enters command _ _ fresh =>
      rw [fresh] at sending unprivileged
      cases raw : command.isRaw <;> simp [raw] at sending unprivileged
  · rw [calls] at later
    rw [List.any_eq_false] at free
    simpa using free after (List.mem_of_getElem? later)

structure Sound (s : Runner) : Prop where
  owned : Owned s
  ordered : Ordered s
  settled : Settled s

theorem sound_spawn (mode : RunnerMode) (hasDispatchTimeout : Bool) : Sound (spawn mode hasDispatchTimeout) := by
  constructor
  case owned => constructor <;> simp [spawn, Runner.holding, Loop.holds]
  case ordered => constructor <;> simp [spawn, Loop.holds]
  case settled => constructor <;> simp [spawn, Replied, Loop.holds]

theorem sound_move (sound : Sound s) (move : Move action s t) : Sound t where
  owned := owned_move sound.owned move
  ordered := ordered_move sound.owned sound.ordered move
  settled :=
    { ended := over_move sound.owned sound.settled move
      dispatches := dispatches_move sound.owned sound.settled move
      barriers := barriers_move sound.owned sound.settled move
      executed := executed_move sound.owned sound.settled move
      gone := gone_move sound.settled move
      ran := ran_move sound.owned sound.settled move
      returned := returned_move sound.settled move
      guards := guards_move sound.settled move }

theorem sound_moves (sound : Sound s) (moves : ReflTransGen (Move action) s t) : Sound t := by
  induction moves with
  | refl => exact sound
  | tail _ move ih => exact sound_move ih move

theorem sound_step (sound : Sound s) (taken : s.step action = some t) : Sound t :=
  sound_moves sound (moves_step sound.ordered taken)

theorem Evolves.trans {first second third : Call} (before : Evolves first second) (after : Evolves second third) :
    Evolves first third where
  command := after.command.trans before.command
  reply := fun closed => (after.reply (by rw [before.reply closed]; exact closed)).trans (before.reply closed)
  ended := fun ended => by
    have same := before.ended ended
    have still : isActive second = false := by
      rw [isActive, same]
      exact ended
    exact (after.ended still).trans same

theorem evolves_moves (sound : Sound s) (moves : ReflTransGen (Move action) s t) (found : s.calls[ticket]? = some before) :
    ∃ after, t.calls[ticket]? = some after ∧ Evolves before after := by
  induction moves with
  | refl => exact ⟨before, found, .refl before⟩
  | tail moves move ih =>
    obtain ⟨middle, found, evolves⟩ := ih
    obtain ⟨after, found, evolves'⟩ := evolves_move (sound_moves sound moves).owned move found
    exact ⟨after, found, evolves.trans evolves'⟩

end Actr.Proof.Executor
