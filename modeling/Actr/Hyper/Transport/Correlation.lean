import Actr.Protocol.Envelope

/-!
# Correlation of in-process requests

Every step holds the lock of the table once. An entry names the guard that its sender feeds; the receiver of a guard
finds the sender gone when no entry names it.
-/

namespace Actr.Hyper.Transport
open Protocol

structure Entry (M : Type) where
  metadata : M
  tx : Nat

structure PendingRpc (M : Type) where
  requestId : String
  metadata : M

inductive CompleteOutcome where
  | completed | orphan

-- The table, the guards in the order of their registration, and by guard what was sent to it, what its `wait` has
-- returned and whether it is dropped.
structure RpcCorrelation (M : Type) where
  inner : String → Option (Entry M)
  guards : List (PendingRpc M)
  sent : Nat → List (ActorResult Bytes)
  result : Nat → Option (ActorResult Bytes)
  dropped : Nat → Bool

namespace RpcCorrelation

variable {M : Type}

inductive Action (M : Type) where
  | register (requestId : String) (metadata : M)
  | complete (requestId : String) (result : ActorResult Bytes)
  | failWhere (pred : M → Bool) (error : ActrError)
  | wait (guard : Nat)
  | timeout (guard : Nat)
  | drop (guard : Nat)

def new : RpcCorrelation M := ⟨fun _ => none, [], fun _ => [], fun _ => none, fun _ => false⟩

def register (s : RpcCorrelation M) (requestId : String) (metadata : M) : RpcCorrelation M :=
  { s with
    inner := Function.update s.inner requestId (some ⟨metadata, s.guards.length⟩)
    guards := s.guards ++ [⟨requestId, metadata⟩] }

def sender (s : RpcCorrelation M) (number : Nat) : Option (String × Entry M) := do
  let guard ← s.guards[number]?
  let entry ← s.inner guard.requestId
  if entry.tx = number then some (guard.requestId, entry) else none

def settle (s : RpcCorrelation M) (outcome : String → M → Option (ActorResult Bytes)) : RpcCorrelation M :=
  { s with
    inner := fun id => (s.inner id).filter fun entry => (outcome id entry.metadata).isNone
    sent := fun number => s.sent number ++
      ((s.sender number).bind fun (id, entry) => outcome id entry.metadata).toList }

def complete (s : RpcCorrelation M) (requestId : String) (result : ActorResult Bytes) :
    RpcCorrelation M × CompleteOutcome :=
  (s.settle fun id _ => if id = requestId then some result else none,
    if (s.inner requestId).isSome then .completed else .orphan)

def failWhere (s : RpcCorrelation M) (pred : M → Bool) (error : ActrError) : RpcCorrelation M :=
  s.settle fun _ metadata => if pred metadata then some (.error error) else none

def poll (s : RpcCorrelation M) (number : Nat) : Option (ActorResult Bytes) :=
  match s.sent number with
  | result :: _ => some result
  | [] => if (s.sender number).isSome then none else some (.error (.unavailable "Response channel closed"))

def finish (s : RpcCorrelation M) (number : Nat) (result : ActorResult Bytes) : Option (RpcCorrelation M) :=
  if number < s.guards.length ∧ s.dropped number = false ∧ s.result number = none then
    some { s with result := Function.update s.result number (some result) }
  else none

def drop (s : RpcCorrelation M) (number : Nat) (guard : PendingRpc M) : RpcCorrelation M :=
  { s with
    inner := Function.update s.inner guard.requestId none
    dropped := Function.update s.dropped number true }

def step (s : RpcCorrelation M) : Action M → Option (RpcCorrelation M)
  | .register requestId metadata => some (s.register requestId metadata)
  | .complete requestId result => some (s.complete requestId result).1
  | .failWhere pred error => some (s.failWhere pred error)
  | .wait number => (s.poll number).bind (s.finish number)
  | .timeout number => if s.poll number = none then s.finish number (.error .timedOut) else none
  | .drop number => do
    let guard ← s.guards[number]?
    if s.dropped number = false then some (s.drop number guard) else none

end RpcCorrelation

end Actr.Hyper.Transport
