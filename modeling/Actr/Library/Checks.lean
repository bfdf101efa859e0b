import Mathlib.Data.List.Basic

/-!
# Sequences of checks

A function that may fail is a sequence of checks, each with its own error. These lemmas read off what a sequence that
has not failed has found.
-/

namespace Actr.Library.Checks

universe u v

variable {α β : Type u} {ε δ : Type v} {result : Except ε α} {a : α} {b : β} {condition : Prop} {error : ε}
variable {next : α → Except ε β}

def require (condition : Prop) [Decidable condition] (error : ε) : Except ε Unit :=
  if condition then .ok () else .error error

def okOr (value : Option α) (error : ε) : Except ε α :=
  match value with
  | some found => .ok found
  | none => .error error

theorem bind_eq_ok : (result >>= next) = .ok b ↔ ∃ a, result = .ok a ∧ next a = .ok b := by
  cases result with
  | error | ok => simp [bind, Except.bind]

theorem pure_eq_ok {a' : α} : (pure a : Except ε α) = .ok a' ↔ a = a' := by
  simp [pure, Except.pure]

@[simp]
theorem ok_bind : ((.ok a : Except ε α) >>= next) = next a := rfl

@[simp]
theorem mapError_ok {change : ε → δ} : (.ok a : Except ε α).mapError change = .ok a := rfl

theorem require_eq_ok [Decidable condition] {done : Unit} : require condition error = .ok done ↔ condition := by
  unfold require
  split
  case isTrue holds => simp [holds]
  case isFalse fails => simp [fails]

theorem require_of [Decidable condition] (holds : condition) : require condition error = .ok () := if_pos holds

theorem okOr_eq_ok {value : Option α} : okOr value error = .ok a ↔ value = some a := by
  cases value with
  | none | some => simp [okOr]

theorem mapError_eq_ok {change : ε → δ} : result.mapError change = .ok a ↔ result = .ok a := by
  cases result with
  | error | ok => simp [Except.mapError]

end Actr.Library.Checks
