import Mathlib.Algebra.Order.Ring.Nat

/-!
# The fuel of a resident region

The store has one amount of fuel for all invocations.
-/

namespace Actr.Hyper.Wasm

def u64Max : Nat := 2 ^ 64 - 1

def saturatingAdd (a b : Nat) : Nat := min (a + b) u64Max

def saturatingMul (a b : Nat) : Nat := min (a * b) u64Max

def fuelCap (fuelPerInvocation live : Nat) : Nat := saturatingMul fuelPerInvocation (min live u64Max)

structure RegionFuelBudget where
  peakLive : Nat
  deriving DecidableEq, Repr

namespace RegionFuelBudget

def admissionTarget (budget : RegionFuelBudget) (currentFuel live fuelPerInvocation : Nat) : Nat :=
  let newlyEarned := live - budget.peakLive
  let additional := saturatingMul fuelPerInvocation (min newlyEarned u64Max)
  min (saturatingAdd currentFuel additional) (fuelCap fuelPerInvocation live)

def recordAdmission (budget : RegionFuelBudget) (live : Nat) : RegionFuelBudget :=
  ⟨max budget.peakLive live⟩

def completionTarget (budget : RegionFuelBudget) (currentFuel live fuelPerInvocation : Nat) : Nat × RegionFuelBudget :=
  if live = 0 then (0, ⟨0⟩) else (min currentFuel (fuelCap fuelPerInvocation live), budget)

end RegionFuelBudget

-- `consumed` and `highest` are about the current busy period, or the last one when nothing is live.
structure Region where
  fuel : Nat
  live : Nat
  budget : RegionFuelBudget
  consumed : Nat
  highest : Nat
  deriving DecidableEq, Repr

namespace Region

-- Admissions and completions are those of dispatches and of barriers; both arm and clamp in the same way.
inductive Action where
  | admission
  | complete
  | burn (amount : Nat)
  deriving DecidableEq, Repr

def start (fuel : Nat) : Region := ⟨fuel, 0, ⟨0⟩, 0, 0⟩

def admission (fuelPerInvocation : Nat) (s : Region) : Region :=
  let live := s.live + 1
  { fuel := s.budget.admissionTarget s.fuel live fuelPerInvocation
    live
    budget := s.budget.recordAdmission live
    consumed := if s.live = 0 then 0 else s.consumed
    highest := if s.live = 0 then live else max s.highest live }

def complete (fuelPerInvocation : Nat) (s : Region) : Region :=
  let live := s.live - 1
  let (fuel, budget) := s.budget.completionTarget s.fuel live fuelPerInvocation
  { s with fuel, live, budget }

def step (fuelPerInvocation : Nat) (s : Region) : Action → Option Region
  | .admission => some (s.admission fuelPerInvocation)
  | .complete => if 0 < s.live then some (s.complete fuelPerInvocation) else none
  | .burn amount =>
    if amount ≤ s.fuel then
      some { s with fuel := s.fuel - amount, consumed := if s.live = 0 then s.consumed else s.consumed + amount }
    else none

end Region

end Actr.Hyper.Wasm
