import Actr.Hyper.Wasm.FuelBudget
import Actr.Library.Machine

/-! # What a busy period can burn -/

namespace Actr.Proof.Wasm
open Hyper.Wasm Region Library.Machine

variable {fuelPerInvocation : Nat} {s t : Region}

/-- What the period has burnt and may still burn is what its peak has earned. -/
structure Earned (fuelPerInvocation : Nat) (s : Region) : Prop where
  busy : 0 < s.live → s.highest = s.budget.peakLive ∧ s.consumed + s.fuel ≤ fuelPerInvocation * s.budget.peakLive
  quiescent : s.live = 0 → s.budget.peakLive = 0 ∧ s.consumed ≤ fuelPerInvocation * s.highest

def Budgeted (fuelPerInvocation : Nat) (_ : Region) (action : Action) (t : Region) : Prop :=
  t.consumed ≤ fuelPerInvocation * t.highest ∧
    ((∀ amount, action ≠ .burn amount) → t.fuel ≤ fuelCap fuelPerInvocation t.live)

theorem Earned.consumed_le (earned : Earned fuelPerInvocation s) : s.consumed ≤ fuelPerInvocation * s.highest := by
  rcases Nat.eq_zero_or_pos s.live with quiescent | busy
  · exact (earned.quiescent quiescent).2
  · obtain ⟨highest, bound⟩ := earned.busy busy
    rw [highest]
    omega

theorem saturatingMul_le (a b : Nat) : saturatingMul a (min b u64Max) ≤ a * b :=
  (min_le_left _ _).trans (Nat.mul_le_mul_left a (min_le_left _ _))

theorem admissionTarget_le (budget : RegionFuelBudget) (fuel live fuelPerInvocation : Nat) :
    budget.admissionTarget fuel live fuelPerInvocation ≤ fuel + fuelPerInvocation * (live - budget.peakLive) := by
  have additional := saturatingMul_le fuelPerInvocation (live - budget.peakLive)
  have sum := min_le_left (fuel + saturatingMul fuelPerInvocation (min (live - budget.peakLive) u64Max)) u64Max
  exact (min_le_left _ _).trans (sum.trans (Nat.add_le_add_left additional fuel))

theorem earned_admit (earned : Earned fuelPerInvocation s) :
    Earned fuelPerInvocation (s.admission fuelPerInvocation) := by
  refine ⟨fun _ => ?_, fun idle => absurd idle (Nat.succ_ne_zero _)⟩
  have target := admissionTarget_le s.budget s.fuel (s.live + 1) fuelPerInvocation
  simp only [admission, RegionFuelBudget.recordAdmission]
  rcases Nat.eq_zero_or_pos s.live with quiescent | busy
  · have fresh : (s.budget.admissionTarget s.fuel (s.live + 1) fuelPerInvocation) ≤ fuelPerInvocation * (s.live + 1) :=
      (min_le_right _ _).trans (saturatingMul_le _ _)
    simpa [quiescent, (earned.quiescent quiescent).1] using fresh
  · obtain ⟨highest, bound⟩ := earned.busy busy
    have peak : fuelPerInvocation * max s.budget.peakLive (s.live + 1) =
        fuelPerInvocation * s.budget.peakLive + fuelPerInvocation * (s.live + 1 - s.budget.peakLive) := by
      rw [← Nat.mul_add]
      congr 1
      omega
    rw [if_neg (by omega), if_neg (by omega), highest, peak]
    exact ⟨rfl, by omega⟩

theorem earned_complete (earned : Earned fuelPerInvocation s) (busy : 0 < s.live) :
    Earned fuelPerInvocation (s.complete fuelPerInvocation) := by
  obtain ⟨highest, bound⟩ := earned.busy busy
  simp only [complete, RegionFuelBudget.completionTarget]
  split
  · next idle => exact ⟨fun live => absurd idle (Nat.ne_of_gt live), fun _ => ⟨rfl, earned.consumed_le⟩⟩
  · next live =>
    refine ⟨fun _ => ⟨highest, ?_⟩, fun idle => absurd idle live⟩
    simp only
    omega

theorem capped_complete : (s.complete fuelPerInvocation).fuel ≤ fuelCap fuelPerInvocation (s.live - 1) := by
  simp only [complete, RegionFuelBudget.completionTarget]
  split
  · exact Nat.zero_le _
  · exact min_le_right _ _

theorem earned_step {action : Action} (earned : Earned fuelPerInvocation s)
    (taken : step fuelPerInvocation s action = some t) :
    Budgeted fuelPerInvocation s action t ∧ Earned fuelPerInvocation t := by
  cases action with
  | admission =>
    cases taken
    have next := earned_admit earned
    exact ⟨⟨next.consumed_le, fun _ => min_le_right _ _⟩, next⟩
  | complete =>
    obtain ⟨busy, rfl⟩ := of_guard taken
    have next := earned_complete earned busy
    exact ⟨⟨next.consumed_le, fun _ => capped_complete⟩, next⟩
  | burn amount =>
    obtain ⟨enough, rfl⟩ := of_guard taken
    have next : Earned fuelPerInvocation { s with
        fuel := s.fuel - amount, consumed := if s.live = 0 then s.consumed else s.consumed + amount } := by
      constructor
      · intro busy
        obtain ⟨highest, bound⟩ := earned.busy busy
        refine ⟨highest, ?_⟩
        rw [if_neg (Nat.ne_of_gt busy)]
        simp only
        omega
      · intro idle
        rw [if_pos idle]
        exact earned.quiescent idle
    exact ⟨⟨next.consumed_le, fun other => absurd rfl (other amount)⟩, next⟩

theorem fuel_within_budget (fuelPerInvocation fuel : Nat) (actions : List Action) :
    Along (step fuelPerInvocation) (Budgeted fuelPerInvocation) (.start fuel) actions := by
  have start : Earned fuelPerInvocation (.start fuel) := ⟨by simp [Region.start], fun _ => ⟨rfl, Nat.zero_le _⟩⟩
  refine along_of_invariant start ?_ fun _ _ => trivial
  intro s action t earned (_ : True) taken
  exact earned_step earned taken

theorem period_outburns_saturated_product :
    ∃ s, exec (step u64Max) (.start u64Max) [.admission, .burn u64Max, .admission, .burn u64Max] = some s ∧
      s.highest = 2 ∧ s.consumed = 2 * u64Max ∧ saturatingMul u64Max s.highest < s.consumed :=
  exec_of_any (by decide +kernel)

end Actr.Proof.Wasm
