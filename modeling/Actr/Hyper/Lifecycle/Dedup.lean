import Actr.Protocol.Envelope

/-!
# Request deduplication

`DedupState` with the watch channels whose senders its in-flight entries own. A channel is known by the number its
creator chose for it.
-/

namespace Actr.Hyper.Lifecycle
open Protocol

def dedupTtl : Nat := 30 * 1000000000

structure WatchChannel where
  value : Option (ActorResult Bytes)
  senderAlive : Bool
  deriving DecidableEq

inductive CachedResult where
  | done (result : ActorResult Bytes)
  | inFlight (completionTx : Nat)
  deriving DecidableEq

structure Entry where
  receivedAt : Nat
  result : CachedResult
  deriving DecidableEq

structure DedupState where
  entries : String → Option Entry
  ttl : Nat
  channels : Nat → Option WatchChannel

inductive DedupOutcome where
  | fresh
  | inFlight (waiter : Nat)
  | duplicate (cached : ActorResult Bytes)
  deriving DecidableEq

namespace DedupState

def new : DedupState where
  entries _ := none
  ttl := dedupTtl
  channels _ := none

def retained (ttl now : Nat) (entry : Entry) : Bool :=
  match entry.result with
  | .inFlight _ => true
  | .done _ => now - entry.receivedAt < ttl

def evictExpired (state : DedupState) (now : Nat) : DedupState :=
  { state with entries := fun requestId => (state.entries requestId).filter (retained state.ttl now) }

def checkOrMark (state : DedupState) (now : Nat) (requestId : String) (channel : Nat) : DedupState × DedupOutcome :=
  let state := state.evictExpired now
  match state.entries requestId with
  | none =>
    ({ state with
        entries := Function.update state.entries requestId (some ⟨now, .inFlight channel⟩)
        channels := Function.update state.channels channel (some ⟨none, true⟩) }, .fresh)
  | some entry =>
    match entry.result with
    | .inFlight completionTx => (state, .inFlight completionTx)
    | .done result => (state, .duplicate result)

def complete (state : DedupState) (requestId : String) (result : ActorResult Bytes) : DedupState :=
  match state.entries requestId with
  | none => state
  | some entry =>
    { state with
      entries := Function.update state.entries requestId (some { entry with result := .done result })
      channels :=
        match entry.result with
        | .inFlight completionTx => Function.update state.channels completionTx (some ⟨some result, false⟩)
        | .done _ => state.channels }

end DedupState

end Actr.Hyper.Lifecycle
