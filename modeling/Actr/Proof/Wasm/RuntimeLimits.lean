import Actr.Hyper.Wasm.RuntimeLimits
import Actr.Library.Machine
import Mathlib.Algebra.BigOperators.Group.List.Basic
import Mathlib.Data.List.GetD

/-! # Resources are never undercounted -/

namespace Actr.Proof.Wasm
open Hyper.Wasm Library.Machine StoreResourceLimiter

variable {limits : WasmRuntimeLimits} {s t : Quotas}

structure Accounted (limits : WasmRuntimeLimits) (s : WasmStore) : Prop where
  memories : s.memories.sum ≤ s.limiter.linearMemory
  memory : s.limiter.linearMemory ≤ limits.maxLinearMemory
  tables : s.tables.sum ≤ s.limiter.tableElements
  table : s.limiter.tableElements ≤ limits.maxTableElements

structure Sized (limits : WasmRuntimeLimits) (s : WasmStore) : Prop extends Accounted limits s where
  memoryLimit : s.limiter.maxLinearMemory = limits.maxLinearMemory
  tableLimit : s.limiter.maxTableElements = limits.maxTableElements

theorem sum_resize (sizes : List Nat) (index desired : Nat) :
    (WasmStore.resize sizes index desired).sum + sizes.getD index 0 = sizes.sum + desired := by
  unfold WasmStore.resize
  split
  · next below =>
    have parts := List.sum_take_add_sum_drop sizes index
    rw [List.drop_eq_getElem_cons below, List.sum_cons] at parts
    rw [List.sum_set, if_pos below, List.getD_eq_getElem _ _ below]
    omega
  · next beyond =>
    rw [List.getD_eq_default _ _ (Nat.not_lt.mp beyond)]
    simp

theorem growing_accounted (limiter : StoreResourceLimiter) (label : String) (index desired : Nat) (succeeds : Bool)
    {sizes : List Nat} {total limit : Nat} (held : sizes.sum ≤ total) (fits : total ≤ limit) :
    let grown := limiter.growing label total (sizes.getD index 0) desired limit
    (WasmStore.resized grown.1 succeeds sizes index desired).sum ≤ grown.2 ∧ grown.2 ≤ limit := by
  have denied : WasmStore.resized (limiter.deny label) succeeds sizes index desired = sizes := by
    unfold deny
    split <;> rfl
  have sum := sum_resize sizes index desired
  unfold growing reserveGrowth checkedAdd
  by_cases shrinks : desired < sizes.getD index 0
  · simp only [shrinks, if_true, denied]
    exact ⟨held, fits⟩
  · by_cases overflows : total + (desired - sizes.getD index 0) < 2 ^ 64
    · by_cases exceeds : total + (desired - sizes.getD index 0) > limit
      · simp only [shrinks, overflows, exceeds, if_true, if_false, denied]
        exact ⟨held, fits⟩
      · simp only [shrinks, overflows, exceeds, if_true, if_false, WasmStore.resized]
        cases succeeds with
        | false => exact ⟨Nat.le_add_right_of_le held, Nat.not_lt.mp exceeds⟩
        | true => exact ⟨by simp only [if_true]; omega, Nat.not_lt.mp exceeds⟩
    · simp only [shrinks, overflows, if_false, denied]
      exact ⟨held, fits⟩

theorem sized_step {s t : WasmStore} {action : WasmStore.Action} (ok : Sized limits s)
    (taken : s.step action = some t) : Sized limits t := by
  cases action with
  | growMemory index desired succeeds =>
    cases taken
    obtain ⟨memories, memory⟩ := growing_accounted s.limiter "aggregate linear memory per Store" index desired succeeds
      ok.memories (ok.memoryLimit ▸ ok.memory)
    exact { ok with memories, memory := ok.memoryLimit ▸ memory }
  | growTable index desired succeeds =>
    cases taken
    obtain ⟨tables, table⟩ := growing_accounted s.limiter "aggregate table elements per Store" index desired succeeds
      ok.tables (ok.tableLimit ▸ ok.table)
    exact { ok with tables, table := ok.tableLimit ▸ table }

def live (permits : List QuotaPermit) (kind : CounterKind) : Nat :=
  ((permits.filter (·.kind = kind)).map QuotaPermit.amount).sum

def slot (limits : WasmRuntimeLimits) : QuotaPermit := ⟨.store, limits.amount .store⟩

def held (limits : WasmRuntimeLimits) (s : Quotas) : List QuotaPermit :=
  s.permits ++ List.replicate s.reserving (slot limits)

def ExactFor (limits : WasmRuntimeLimits) (permits : List QuotaPermit) (s : Quotas) : Prop :=
  ∀ kind, s.counter kind = live permits kind ∧ s.counter kind ≤ limits.limit kind ∧ s.counter kind < 2 ^ 64

def Exact (limits : WasmRuntimeLimits) (s : Quotas) : Prop := ExactFor limits (held limits s) s

theorem live_cons (permit : QuotaPermit) (permits : List QuotaPermit) (kind : CounterKind) :
    live (permit :: permits) kind = (if permit.kind = kind then permit.amount else 0) + live permits kind := by
  unfold live
  by_cases same : permit.kind = kind <;> simp [same]

theorem ExactFor.perm {first second : List QuotaPermit} (exact : ExactFor limits first s)
    (same : first.Perm second) : ExactFor limits second s := by
  intro kind
  have sum : live first kind = live second kind := ((same.filter _).map _).sum_eq
  rw [← sum]
  exact exact kind

theorem held_reserving (limits : WasmRuntimeLimits) (permits : List QuotaPermit) (reserving : Nat) :
    (permits ++ List.replicate (reserving + 1) (slot limits)).Perm
      (slot limits :: (permits ++ List.replicate reserving (slot limits))) := by
  exact List.perm_middle

theorem acquire_exact {kind : CounterKind} {permit : QuotaPermit} (exact : Exact limits s)
    (acquired : s.acquire limits kind = some (permit, t)) :
    permit = ⟨kind, limits.amount kind⟩ ∧ t.permits = s.permits ∧ t.reserving = s.reserving ∧
      ExactFor limits (permit :: held limits s) t := by
  simp only [Quotas.acquire, checkedAdd, Option.map_eq_some_iff, Option.filter_eq_some_iff, decide_eq_true_eq,
    Option.ite_none_right_eq_some, Option.some.injEq, Prod.mk.injEq] at acquired
  obtain ⟨next, ⟨⟨small, rfl⟩, within⟩, rfl, rfl⟩ := acquired
  refine ⟨rfl, rfl, rfl, fun other => ?_⟩
  obtain ⟨counter, bound⟩ := exact other
  simp only [live_cons, Function.update_apply]
  by_cases same : other = kind
  · subst same
    simp only [if_true]
    omega
  · simp only [same, Ne.symm same, if_false]
    omega

theorem release_exact {permit : QuotaPermit} {rest : List QuotaPermit} (exact : Exact limits s)
    (listed : (held limits s).Perm (permit :: rest)) : ExactFor limits rest (s.release permit) := by
  intro kind
  obtain ⟨counter, bound⟩ := exact.perm listed kind
  simp only [live_cons] at counter
  simp only [Quotas.release, Function.update_apply]
  by_cases same : kind = permit.kind
  · subst same
    simp only [if_true] at counter ⊢
    omega
  · simp only [same, Ne.symm same, if_false] at counter ⊢
    omega

theorem exact_step {action : Quotas.Action} (exact : Exact limits s)
    (taken : s.step limits action = some t) : Exact limits t := by
  cases action with
  | acquire =>
    obtain ⟨-, taken⟩ := Option.ite_none_left_eq_some.mp taken
    split at taken <;> cases taken
    · next acquired =>
      obtain ⟨-, permits, reserving, next⟩ := acquire_exact exact acquired
      simp only [permits, reserving]
      exact next
    · exact exact
  | acquireStore =>
    simp only [Quotas.step] at taken
    split at taken <;> cases taken
    · next acquired =>
      obtain ⟨rfl, permits, reserving, next⟩ := acquire_exact exact acquired
      refine next.perm ?_
      simp only [held, permits, reserving]
      exact (held_reserving limits _ _).symm
    · exact exact
  | reserveMemory =>
    obtain ⟨waiting, taken⟩ := Option.ite_none_left_eq_some.mp taken
    obtain ⟨others, some⟩ := Nat.exists_eq_succ_of_ne_zero waiting
    have one := held_reserving limits s.permits others
    split at taken <;> cases taken
    · next acquired =>
      obtain ⟨-, permits, reserving, next⟩ := acquire_exact exact acquired
      refine next.perm ?_
      simp only [held, permits, reserving, some]
      exact one.cons _
    · refine exact.perm ?_
      simp only [held, some]
      exact one
  | drop =>
    obtain ⟨listed, rfl⟩ := of_guard taken
    exact release_exact exact ((List.perm_cons_erase listed).append_right _)

theorem wasm_resources_accounted (limits : WasmRuntimeLimits) :
    (∀ actions, Along WasmStore.step (fun _ _ t => Accounted limits t) (.new limits) actions) ∧
      ∀ actions, Along (Quotas.step limits) (fun _ _ t => Exact limits t) .initial actions := by
  refine ⟨fun actions => ?_, fun actions => ?_⟩
  · have start : Sized limits (.new limits) :=
      ⟨⟨Nat.zero_le _, Nat.zero_le _, Nat.zero_le _, Nat.zero_le _⟩, rfl, rfl⟩
    refine along_of_invariant start ?_ fun _ _ => trivial
    intro s action t ok (_ : True) taken
    have next := sized_step ok taken
    exact ⟨next.toAccounted, next⟩
  · have start : Exact limits .initial := fun kind => ⟨rfl, Nat.zero_le _, Nat.two_pow_pos 64⟩
    refine along_of_invariant start ?_ fun _ _ => trivial
    intro s action t exact (_ : True) taken
    have next := exact_step exact taken
    exact ⟨next, next⟩

end Actr.Proof.Wasm
