import Actr.Proof.Executor.Replies

/-! # Steps of the runner -/

namespace Actr.Proof.Executor
open Hyper.Executor Runner Library Actr.Protocol Relation

variable {s t : Runner} {action : Action} {ticket : Nat} {call : Call} {other : Nat} {polled : Polled} {after : Call}

theorem callStep_ends {base : Runner} {result : Option (ActorResult Bytes)} {fatal : Bool}
    (calls : base.calls = s.calls) (later : (ends (finish base ticket result) fatal).calls[other]? = some after) :
    CallStep s action other after := by
  obtain ⟨middle, found, command, phase⟩ : ∃ middle, (finish base ticket result).calls[other]? = some middle ∧
      after.command = middle.command ∧ after.phase = middle.phase := by
    cases fatal with
    | false => exact ⟨after, later, rfl, rfl⟩
    | true =>
      obtain ⟨before, old, rfl⟩ := getElem?_exit later
      refine ⟨before, old, ?_⟩
      split <;> exact ⟨rfl, rfl⟩
  obtain ⟨before, old, own⟩ := Slots.of_modify found
  rw [calls] at old
  rcases own with ⟨rfl, rfl⟩ | ⟨-, rfl⟩
  · exact .same old command phase
  · exact .same old command phase

theorem callStep_step (ordered : Ordered s) (taken : s.step action = some t)
    (later : t.calls[ticket]? = some after) : CallStep s action ticket after := by
  rcases turn_step ordered taken with move | poll
  · exact callStep_move move later
  · cases poll with
    | waitsReady | waits => exact .same later rfl rfl
    | landed => exact callStep_ends (by rfl) later
    | finished _ _ _ _ _ polls => rcases polls with rfl | ⟨rfl, -⟩ <;> exact callStep_ends (by rfl) later

def poisonous (mode : RunnerMode) : Action → Bool
  | .abort => true
  | .pollInflight polled => polled.poisonsRunner
  | .pollRunning polled => poisons mode polled
  | _ => false

def Ends (s : Runner) (action : Action) : Prop :=
  poisonous s.mode action = true ∨ s.loop = .exited ∨ s.loop = .closing ∨
    ∃ ticket call, s.loop = .running ticket ∧ s.calls[ticket]? = some call ∧ call.command = .shutdown

structure StepFacts (s : Runner) (action : Action) (t : Runner) : Prop where
  sent : t.sent = s.sent ∨ ∃ ticket call, s.calls[ticket]? = some call ∧ call.phase = .sending ∧
    t.sent = s.sent ++ [ticket]
  polls : t.polls = s.polls ∧ t.started = s.started ∨
    ∃ ticket, (s.loop = .running ticket ∨ ticket ∈ s.inflight) ∧ t.sent = s.sent ∧ t.polls = s.polls ++ [ticket] ∧
      ∀ other ∈ t.started, other ∈ s.started ∨ other = ticket
  intake : t.intakeOpen = s.intakeOpen ∨ action = .stopIntake ∧ t.intakeOpen = false
  senders : t.sendersGone = s.sendersGone ∨ action = .dropHandle
  closing : t.loop = .closing → s.loop = .closing ∨ s.sendersGone = true
  exited : t.loop = .exited → Ends s action

theorem StepFacts.refl (s : Runner) (action : Action) : StepFacts s action s :=
  ⟨.inl rfl, .inl ⟨rfl, rfl⟩, .inl rfl, .inl rfl, .inl, fun exited => .inr (.inl exited)⟩

theorem StepFacts.ends {fatal : Bool} (facts : StepFacts s action t) (ended : fatal = true → Ends s action) :
    StepFacts s action (ends t fatal) := by
  cases fatal with
  | false => exact facts
  | true => exact { facts with closing := nofun, exited := fun _ => ended rfl }

theorem StepFacts.pollGuest (facts : StepFacts s action t) (started : t.started = s.started) (polls : t.polls = s.polls)
    (sent : t.sent = s.sent) (subject : s.loop = .running ticket ∨ ticket ∈ s.inflight) :
    StepFacts s action (t.pollGuest ticket) := by
  refine { facts with polls := .inr ⟨ticket, subject, sent, by rw [← polls]; rfl, ?_⟩ }
  intro other member
  simp only [Runner.pollGuest, started] at member
  split at member
  · exact .inl member
  · exact (List.mem_append.mp member).imp_right List.mem_singleton.mp

theorem facts_poll (ordered : Ordered s) (step : PollStep s action t) : StepFacts s action t := by
  have facts := StepFacts.refl s action
  cases step with
  | @waitsReady ticket rest ready =>
    have flying := ordered.woken ticket (by rw [ready]; exact List.mem_cons_self)
    exact StepFacts.pollGuest (t := { s with ready := rest }) { facts with } rfl rfl rfl (.inr flying)
  | waits running => exact facts.pollGuest rfl rfl rfl (.inl running)
  | @landed ticket rest _ _ _ ready =>
    have flying := ordered.woken ticket (by rw [ready]; exact List.mem_cons_self)
    have polled : StepFacts s _ (Runner.pollGuest { s with ready := rest } ticket) :=
      StepFacts.pollGuest (t := { s with ready := rest }) { facts with } rfl rfl rfl (.inr flying)
    exact .ends { polled with } .inl
  | @finished ticket call polled base _ _ running found _ polls ended =>
    have polled : StepFacts s (.pollRunning polled) base := by
      rcases polls with rfl | ⟨rfl, -⟩
      · exact facts.pollGuest rfl rfl rfl (.inl running)
      · exact facts
    refine .ends { polled with closing := nofun, exited := nofun } fun fatal => (ended fatal).imp_right ?_
    exact fun shutdown => .inr (.inr ⟨ticket, call, running, found, shutdown⟩)

theorem facts_step (ordered : Ordered s) (taken : s.step action = some t) : StepFacts s action t := by
  have facts := StepFacts.refl s action
  cases action with
  | call =>
    simp only [step] at taken
    split at taken <;> cases taken
    exact { facts with }
  | callAdmitted | send | resume | drop =>
    obtain ⟨call, phase, found, changes, rfl⟩ := phaseStep_step rfl taken
    cases changes with
    | admitted | returned | dropped => exact { facts with }
    | sent sending => exact { facts with sent := .inr ⟨_, call, found, sending, rfl⟩, polls := .inl ⟨rfl, rfl⟩ }
  | stopIntake =>
    simp only [step] at taken
    split at taken <;> cases taken
    exact { facts with intake := .inr ⟨rfl, rfl⟩ }
  | dropHandle =>
    simp only [step] at taken
    split at taken <;> cases taken
    exact { facts with senders := .inr rfl }
  | abort =>
    simp only [step] at taken
    split at taken <;> cases taken
    exact { facts with closing := by simp [Runner.exit], exited := fun _ => .inl rfl }
  | receive =>
    simp only [step] at taken
    split at taken
    · obtain ⟨call, found, rfl⟩ := Option.map_eq_some_iff.mp taken
      simp only [receive]
      split
      · exact { facts with }
      · split
        · exact { facts with }
        · exact { facts with closing := by simp, exited := by simp }
        · exact { facts with closing := by simp, exited := by simp }
    · cases taken
  | wake =>
    obtain ⟨-, rfl⟩ := Machine.of_guard taken
    exact { facts with }
  | pollInflight => exact facts_poll ordered (pollStep_inflight taken)
  | pollRunning => exact facts_poll ordered (pollStep_running taken)
  | drained =>
    simp only [step] at taken
    split at taken <;> cases taken
    exact { facts with closing := by simp, exited := by simp }
  | disconnected =>
    obtain ⟨enabled, rfl⟩ := Machine.of_guard taken
    exact { facts with closing := fun _ => .inr enabled.2.2, exited := by simp }
  | closed =>
    obtain ⟨enabled, rfl⟩ := Machine.of_guard taken
    exact { facts with closing := by simp [Runner.exit], exited := fun _ => .inr (.inr (.inl enabled.1)) }

section

variable (sound : Sound s) (taken : s.step action = some t)
include sound taken

theorem phase_step {before : Call} (found : s.calls[ticket]? = some before) :
    ∃ after, t.calls[ticket]? = some after ∧ Evolves before after ∧
      (after.phase = before.phase ∨ PhaseStep s action ticket before after.phase) := by
  obtain ⟨after, later, evolves⟩ := evolves_moves sound (moves_step sound.ordered taken) found
  refine ⟨after, later, evolves, ?_⟩
  cases callStep_step sound.ordered taken later with
  | same found' _ phase =>
    cases found.symm.trans found'
    exact .inl phase
  | changed found' _ changes =>
    cases found.symm.trans found'
    exact .inr changes
  | enters new =>
    rw [new, List.getElem?_eq_none (Nat.le_refl _)] at found
    cases found

theorem command_step (later : t.calls[ticket]? = some after) :
    (∃ before, s.calls[ticket]? = some before ∧ before.command = after.command) ∨
      ticket = s.calls.length ∧ action = .call after.command := by
  cases callStep_step sound.ordered taken later with
  | same found command | changed found command => exact .inl ⟨_, found, command.symm⟩
  | enters new same fresh => exact .inr ⟨new, by rw [same, fresh]⟩

theorem over_step (ended : Over s ticket) : Over t ticket := by
  obtain ⟨call, found, closed⟩ := ended
  obtain ⟨after, later, evolves, -⟩ := phase_step sound taken found
  exact ⟨after, later, by rw [evolves.reply closed]; exact closed⟩

end

/-- The caller is still there, and it returns only with the result of its command. -/
def Protected (s : Runner) (ticket : Nat) : Prop :=
  ∃ call, s.calls[ticket]? = some call ∧ call.phase ≠ .dropped ∧
    ∀ result, call.phase = .returned result → (ticket, result) ∈ s.executed

theorem executed_moves (moves : ReflTransGen (Move action) s t) {entry : Nat × ActorResult Bytes}
    (member : entry ∈ s.executed) : entry ∈ t.executed := by
  induction moves with
  | refl => exact member
  | tail _ move ih => exact executed_subset move ih

theorem protected_step (sound : Sound s) (taken : s.step action = some t) (kept : Protected s ticket)
    (early : ∀ call, s.calls[ticket]? = some call → call.phase = .entering → s.intakeOpen = true)
    (active : ∀ call, s.calls[ticket]? = some call → isActive call = true → s.loop ≠ .exited ∧ action ≠ .drop ticket) :
    Protected t ticket := by
  obtain ⟨call, found, present, returns⟩ := kept
  have moves := moves_step sound.ordered taken
  obtain ⟨after, later, -, phase⟩ := phase_step sound taken found
  refine ⟨after, later, ?_⟩
  rcases phase with same | changes
  · rw [same]
    exact ⟨present, fun result returned => executed_moves moves (returns result returned)⟩
  generalize after.phase = arrived at changes
  cases changes with
  | admitted | sent => exact ⟨nofun, nofun⟩
  | dropped isActive same => exact absurd same (active call found isActive).2
  | @returned result done =>
    refine ⟨nofun, ?_⟩
    rintro _ ⟨⟩
    have running := (active call found done.active).1
    cases done with
    | refused entering shut => exact absurd (shut.symm.trans (early call found entering)) nofun
    | unsent _ exited => exact absurd exited running
    | answered _ sent => exact executed_moves moves ((sound.settled.executed ticket result).mpr ⟨call, found, sent⟩)
    | terminated awaiting dropped => cases awaiting.symm.trans (sound.settled.gone running ticket call found dropped)

end Actr.Proof.Executor
