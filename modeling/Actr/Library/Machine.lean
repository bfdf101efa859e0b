import Mathlib.Data.List.Basic
import Mathlib.Data.List.Induction

/-!
# Runs of labelled partial step functions

A machine is a partial step function `State → Action → Option State`; all nondeterminism is in the action labels, so a
run is a list of actions that succeeds.
-/

namespace Actr.Library.Machine

variable {State Action : Type*} {step : State → Action → Option State} {Inv : State → Prop} {allowed : Action → Prop}
variable {start s t u : State} {a b : Action} {actions before after past : List Action}

def exec (step : State → Action → Option State) : State → List Action → Option State
  | s, [] => some s
  | s, a :: rest => (step s a).bind fun t => exec step t rest

def Reachable (step : State → Action → Option State) (start finish : State) : Prop :=
  ∃ actions, exec step start actions = some finish

theorem of_guard {p : Prop} [Decidable p] (taken : (if p then some s else none) = some t) : p ∧ s = t := by
  obtain ⟨holds, same⟩ := Option.ite_none_right_eq_some.mp taken
  exact ⟨holds, Option.some.inj same⟩

theorem of_unless {p : Prop} [Decidable p] (taken : (if p then none else some s) = some t) : ¬ p ∧ s = t := by
  obtain ⟨fails, same⟩ := Option.ite_none_left_eq_some.mp taken
  exact ⟨fails, Option.some.inj same⟩

theorem exec_cons : exec step s (a :: after) = some u ↔ ∃ t, step s a = some t ∧ exec step t after = some u := by
  simp [exec, Option.bind_eq_some_iff]

theorem exec_of_any {P : State → Prop} [DecidablePred P] (any : (exec step s actions).any (fun t => P t) = true) :
    ∃ t, exec step s actions = some t ∧ P t := by
  cases run : exec step s actions with
  | none =>
    rw [run] at any
    cases any
  | some t =>
    rw [run] at any
    exact ⟨t, rfl, of_decide_eq_true any⟩

theorem exec_invariant_on (preserved : ∀ s a t, Inv s → allowed a → step s a = some t → Inv t)
    {s t : State} (all : ∀ a ∈ actions, allowed a) (start : Inv s) (run : exec step s actions = some t) : Inv t := by
  induction actions generalizing s with
  | nil =>
    cases run
    exact start
  | cons a rest ih =>
    obtain ⟨middle, action, run⟩ := exec_cons.mp run
    have next := preserved s a middle start (all a List.mem_cons_self) action
    exact ih (fun b member => all b (List.mem_cons_of_mem a member)) next run

theorem exec_invariant (preserved : ∀ s a t, Inv s → step s a = some t → Inv t) {s t : State} (start : Inv s)
    (run : exec step s actions = some t) : Inv t :=
  exec_invariant_on (fun s a t inv (_ : True) => preserved s a t inv) (fun _ _ => trivial) start run

theorem Reachable.invariant (reachable : Reachable step start t) (initial : Inv start)
    (preserved : ∀ s a t, Inv s → step s a = some t → Inv t) : Inv t := by
  obtain ⟨actions, run⟩ := reachable
  exact exec_invariant preserved initial run

/-- The progress rule: if every counted step lowers a measure that no other step raises, the measure
bounds the number of counted steps of a run. -/
theorem exec_measure (counted : Action → Bool) (measure : State → Nat)
    (preserved : ∀ s a t, Inv s → step s a = some t → Inv t)
    (lowered : ∀ s a t, Inv s → step s a = some t → measure t + (if counted a then 1 else 0) ≤ measure s)
    (start : Inv s) (run : exec step s actions = some t) : measure t + actions.countP counted ≤ measure s := by
  induction actions generalizing s with
  | nil =>
    cases run
    simp
  | cons a rest ih =>
    obtain ⟨middle, action, run⟩ := exec_cons.mp run
    have first := lowered s a middle start action
    have later := ih (preserved s a middle start action) run
    rw [List.countP_cons]
    omega

theorem exec_append : exec step s (before ++ after) = (exec step s before).bind fun t => exec step t after := by
  induction before generalizing s with
  | nil => rfl
  | cons a rest ih =>
    rw [List.cons_append, exec, exec, Option.bind_assoc]
    congr 1
    funext t
    exact ih

/-- The action was taken in the state `s` of the run of `actions` from `start`. -/
def Taken (step : State → Action → Option State) (start : State) (actions : List Action) (a : Action) (s : State) :
    Prop :=
  ∃ before after, actions = before ++ a :: after ∧ exec step start before = some s

theorem Taken.later (taken : Taken step start past a s) : Taken step start (past ++ [b]) a s := by
  obtain ⟨before, after, rfl, run⟩ := taken
  exact ⟨before, after ++ [b], by simp, run⟩

theorem Taken.last (run : exec step start past = some s) : Taken step start (past ++ [a]) a s :=
  ⟨past, [], rfl, run⟩

theorem exec_past_invariant {Inv : List Action → State → Prop} (initial : Inv [] start)
    (preserved : ∀ past s a t, exec step start past = some s → Inv past s → step s a = some t → Inv (past ++ [a]) t)
    (run : exec step start actions = some t) : Inv actions t := by
  induction actions using List.reverseRecOn generalizing t with
  | nil =>
    cases run
    exact initial
  | append_singleton past a ih =>
    rw [exec_append, Option.bind_eq_some_iff] at run
    obtain ⟨s, before, last⟩ := run
    obtain ⟨u, taken, same⟩ := exec_cons.mp last
    cases same
    exact preserved past s a t before (ih before) taken

def Along (step : State → Action → Option State) (Good : State → Action → State → Prop) :
    State → List Action → Prop
  | _, [] => True
  | s, a :: rest => ∀ t, step s a = some t → Good s a t ∧ Along step Good t rest

section Along

variable {Good Guarded : State → Action → State → Prop}

instance Along.decidable [∀ s a t, Decidable (Good s a t)] (s : State) (actions : List Action) :
    Decidable (Along step Good s actions) :=
  match actions with
  | [] => .isTrue trivial
  | a :: rest =>
    match next : step s a with
    | none => .isTrue fun t action => by rw [next] at action; cases action
    | some t =>
      have := Along.decidable t rest
      decidable_of_iff (Good s a t ∧ Along step Good t rest) (by simp [Along, next])

theorem along_cons (action : step s a = some t) (good : Good s a t) (along : Along step Good t after) :
    Along step Good s (a :: after) := by
  intro u same
  cases action.symm.trans same
  exact ⟨good, along⟩

/-- Two properties of steps hold along the same runs of allowed actions if they agree where the invariant holds and
the second one keeps it. -/
theorem along_iff_on (start : Inv s)
    (agree : ∀ s a t, Inv s → allowed a → step s a = some t → (Good s a t ↔ Guarded s a t))
    (kept : ∀ s a t, Inv s → allowed a → step s a = some t → Guarded s a t → Inv t)
    (all : ∀ a ∈ actions, allowed a) : Along step Good s actions ↔ Along step Guarded s actions := by
  induction actions generalizing s with
  | nil => exact Iff.rfl
  | cons a rest ih =>
    have first := all a List.mem_cons_self
    apply forall_congr'
    intro t
    apply forall_congr'
    intro action
    rw [agree s a t start first action]
    apply and_congr_right
    intro guarded
    exact ih (kept s a t start first action guarded) fun b member => all b (List.mem_cons_of_mem a member)

theorem along_iff (start : Inv s) (agree : ∀ s a t, Inv s → step s a = some t → (Good s a t ↔ Guarded s a t))
    (kept : ∀ s a t, Inv s → step s a = some t → Guarded s a t → Inv t) :
    Along step Good s actions ↔ Along step Guarded s actions :=
  along_iff_on start (fun s a t inv (_ : True) => agree s a t inv) (fun s a t inv _ => kept s a t inv)
    fun _ _ => trivial

theorem along_of_invariant (start : Inv s)
    (holds : ∀ s a t, Inv s → allowed a → step s a = some t → Good s a t ∧ Inv t)
    (all : ∀ a ∈ actions, allowed a) : Along step Good s actions := by
  induction actions generalizing s with
  | nil => trivial
  | cons a rest ih =>
    intro t action
    obtain ⟨good, next⟩ := holds s a t start (all a List.mem_cons_self) action
    exact ⟨good, ih next fun b member => all b (List.mem_cons_of_mem a member)⟩

theorem along_of_guarded (start : Inv s)
    (holds : ∀ s a t, Inv s → Guarded s a t → step s a = some t → Good s a t ∧ Inv t)
    (along : Along step Guarded s actions) : Along step Good s actions := by
  induction actions generalizing s with
  | nil => trivial
  | cons a rest ih =>
    intro t action
    obtain ⟨guarded, along⟩ := along t action
    obtain ⟨good, next⟩ := holds s a t start guarded action
    exact ⟨good, ih next along⟩

theorem along_invariant (preserved : ∀ s a t, Inv s → Guarded s a t → step s a = some t → Inv t)
    (along : Along step Guarded s actions) (start : Inv s) (run : exec step s actions = some t) : Inv t := by
  induction actions generalizing s with
  | nil =>
    cases run
    exact start
  | cons a rest ih =>
    obtain ⟨middle, action, run⟩ := exec_cons.mp run
    obtain ⟨guarded, along⟩ := along middle action
    exact ih along (preserved s a middle start guarded action) run

theorem along_and (good : Along step Good s actions) (guarded : Along step Guarded s actions) :
    Along step (fun s a t => Good s a t ∧ Guarded s a t) s actions := by
  induction actions generalizing s with
  | nil => trivial
  | cons a rest ih =>
    intro t action
    obtain ⟨here, later⟩ := good t action
    obtain ⟨guard, guards⟩ := guarded t action
    exact ⟨⟨here, guard⟩, ih later guards⟩

theorem along_rest (along : Along step Good s (before ++ after)) (run : exec step s before = some t) :
    Along step Good t after := by
  induction before generalizing s with
  | nil =>
    cases run
    exact along
  | cons a rest ih =>
    obtain ⟨middle, action, run⟩ := exec_cons.mp run
    exact ih (along middle action).2 run

theorem along_at (along : Along step Good s (before ++ a :: after)) (run : exec step s before = some t)
    (action : step t a = some u) : Good t a u :=
  (along_rest along run u action).1

/-- The machine that keeps the actions taken with its state. -/
def recording (step : State → Action → Option State) (s : List Action × State) (a : Action) :
    Option (List Action × State) :=
  (step s.2 a).map fun t => (s.1 ++ [a], t)

theorem along_of_recording (along : Along (recording step) (fun s a t => Good s.2 a t.2) (past, s) actions) :
    Along step Good s actions := by
  induction actions generalizing past s with
  | nil => trivial
  | cons a rest ih =>
    intro t action
    obtain ⟨good, along⟩ := along (past ++ [a], t) (Option.map_eq_some_iff.mpr ⟨t, action, rfl⟩)
    exact ⟨good, ih along⟩

end Along

end Actr.Library.Machine
