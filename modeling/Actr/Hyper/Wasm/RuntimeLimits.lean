import Mathlib.Algebra.Order.Ring.Nat

/-!
# Limits of stores and of the process

The limiter of one store with the true sizes of its memories and tables, and the counters that all stores share.
-/

namespace Actr.Hyper.Wasm

structure WasmRuntimeLimits where
  (maxLinearMemory maxTableElements : Nat)
  trapOnGrowFailure : Bool
  (maxConcurrentCompiles maxConcurrentInstantiates maxActiveStores maxTotalLinearMemory maxOutstandingInvocations : Nat)

-- `usize` has 64 bits.
def checkedAdd (a b : Nat) : Option Nat := if a + b < 2 ^ 64 then some (a + b) else none

structure StoreResourceLimiter where
  (maxLinearMemory maxTableElements : Nat)
  trapOnGrowFailure : Bool
  (linearMemory tableElements : Nat)

namespace StoreResourceLimiter

def new (limits : WasmRuntimeLimits) : StoreResourceLimiter :=
  ⟨limits.maxLinearMemory, limits.maxTableElements, limits.trapOnGrowFailure, 0, 0⟩

def deny (limiter : StoreResourceLimiter) (label : String) : Except String Bool :=
  if limiter.trapOnGrowFailure then .error label else .ok false

def reserveGrowth (total current desired limit : Nat) : Option Bool × Nat :=
  if desired < current then (none, total)
  else
    match checkedAdd total (desired - current) with
    | none => (none, total)
    | some next => if next > limit then (some false, total) else (some true, next)

def growing (limiter : StoreResourceLimiter) (label : String) (total current desired limit : Nat) :
    Except String Bool × Nat :=
  match reserveGrowth total current desired limit with
  | (some true, total) => (.ok true, total)
  | (_, total) => (limiter.deny label, total)

def memoryGrowing (limiter : StoreResourceLimiter) (current desired : Nat) : Except String Bool × StoreResourceLimiter :=
  let (result, total) := limiter.growing "aggregate linear memory per Store" limiter.linearMemory current desired
    limiter.maxLinearMemory
  (result, { limiter with linearMemory := total })

def tableGrowing (limiter : StoreResourceLimiter) (current desired : Nat) : Except String Bool × StoreResourceLimiter :=
  let (result, total) := limiter.growing "aggregate table elements per Store" limiter.tableElements current desired
    limiter.maxTableElements
  (result, { limiter with tableElements := total })

end StoreResourceLimiter

structure WasmStore where
  limiter : StoreResourceLimiter
  memories : List Nat
  tables : List Nat

namespace WasmStore

-- A growth that is granted may still fail; `grow_failed` keeps the reservation. Creation grows from nothing.
inductive Action where
  | growMemory (index desired : Nat) (succeeds : Bool)
  | growTable (index desired : Nat) (succeeds : Bool)

def new (limits : WasmRuntimeLimits) : WasmStore := ⟨.new limits, [], []⟩

def resize (sizes : List Nat) (index desired : Nat) : List Nat :=
  if index < sizes.length then sizes.set index desired else sizes ++ [desired]

def resized (result : Except String Bool) (succeeds : Bool) (sizes : List Nat) (index desired : Nat) : List Nat :=
  match result with
  | .ok true => if succeeds then resize sizes index desired else sizes
  | _ => sizes

def step (s : WasmStore) : Action → Option WasmStore
  | .growMemory index desired succeeds =>
    let (result, limiter) := s.limiter.memoryGrowing (s.memories.getD index 0) desired
    some { s with limiter, memories := resized result succeeds s.memories index desired }
  | .growTable index desired succeeds =>
    let (result, limiter) := s.limiter.tableGrowing (s.tables.getD index 0) desired
    some { s with limiter, tables := resized result succeeds s.tables index desired }

end WasmStore

inductive CounterKind where
  | compile | instantiate | store | memory | invocation
  deriving DecidableEq, Repr

structure QuotaPermit where
  kind : CounterKind
  amount : Nat
  deriving DecidableEq, Repr

def WasmRuntimeLimits.limit (limits : WasmRuntimeLimits) : CounterKind → Nat
  | .compile => limits.maxConcurrentCompiles
  | .instantiate => limits.maxConcurrentInstantiates
  | .store => limits.maxActiveStores
  | .memory => limits.maxTotalLinearMemory
  | .invocation => limits.maxOutstandingInvocations

def WasmRuntimeLimits.amount (limits : WasmRuntimeLimits) : CounterKind → Nat
  | .memory => limits.maxLinearMemory
  | _ => 1

-- `reserving` counts the calls of `acquire_store` that hold the slot of a store and have no memory yet.
structure Quotas where
  counter : CounterKind → Nat
  permits : List QuotaPermit
  reserving : Nat

namespace Quotas

def initial : Quotas := ⟨fun _ => 0, [], 0⟩

inductive Action where
  | acquire (kind : CounterKind)
  | acquireStore
  | reserveMemory
  | drop (permit : QuotaPermit)

def acquire (limits : WasmRuntimeLimits) (s : Quotas) (kind : CounterKind) : Option (QuotaPermit × Quotas) :=
  ((checkedAdd (s.counter kind) (limits.amount kind)).filter (· ≤ limits.limit kind)).map fun next =>
    (⟨kind, limits.amount kind⟩, { s with counter := Function.update s.counter kind next })

-- `fetch_sub` wraps.
def release (s : Quotas) (permit : QuotaPermit) : Quotas :=
  { s with counter := Function.update s.counter permit.kind ((s.counter permit.kind + 2 ^ 64 - permit.amount) % 2 ^ 64) }

-- The permit of a store leaves the function with that of its memory; after a refusal it is left to be dropped.
def step (limits : WasmRuntimeLimits) (s : Quotas) : Action → Option Quotas
  | .acquire kind =>
    if kind = .store ∨ kind = .memory then none
    else
      match s.acquire limits kind with
      | some (permit, t) => some { t with permits := permit :: t.permits }
      | none => some s
  | .acquireStore =>
    match s.acquire limits .store with
    | some (_, t) => some { t with reserving := t.reserving + 1 }
    | none => some s
  | .reserveMemory =>
    if s.reserving = 0 then none
    else
      match s.acquire limits .memory with
      | some (permit, t) =>
        some { t with permits := permit :: ⟨.store, limits.amount .store⟩ :: t.permits, reserving := t.reserving - 1 }
      | none => some { s with permits := ⟨.store, limits.amount .store⟩ :: s.permits, reserving := s.reserving - 1 }
  | .drop permit =>
    if permit ∈ s.permits then some { s.release permit with permits := s.permits.erase permit } else none

end Quotas

end Actr.Hyper.Wasm
