import Mathlib.Data.List.Basic

/-!
# What a batch of network events calls for

The decision state of `ConnectionSupervisor`. Of a snapshot only its sequence number and its availability are read.
-/

namespace Actr.Hyper.Lifecycle

inductive NetworkAvailability where
  | unknown | available | unavailable
  deriving DecidableEq, Repr

structure NetworkSnapshot where
  sequence : UInt64
  availability : NetworkAvailability
  deriving DecidableEq, Repr

def NetworkSnapshot.isOffline (snapshot : NetworkSnapshot) : Bool := snapshot.availability = .unavailable

def NetworkSnapshot.shouldRestore (snapshot : NetworkSnapshot) : Bool := snapshot.availability = .available

inductive CleanupReason where
  | appTerminating | userLogout | staleConnectionSuspected | manualReset
  deriving DecidableEq, Repr

inductive ReconnectReason where
  | networkPathChanged | longBackground | probeFailed | manualReconnect | staleConnectionSuspected
  deriving DecidableEq, Repr

/-- `NetworkEvent` with its `AppLifecycleState` inlined, which is `ConnectionFact`. -/
inductive NetworkEvent where
  | networkPathChanged (snapshot : NetworkSnapshot)
  | appBackground
  | appForeground (backgroundDurationMs : UInt64)
  | cleanupConnections (reason : CleanupReason)
  | forceReconnect (reason : ReconnectReason)
  deriving DecidableEq, Repr

inductive NetworkRecoveryAction where
  | noop | offline | probe | restore | cleanupOnly | forceReconnect
  deriving DecidableEq, Repr

def longBackgroundReconnectThresholdMs : UInt64 := 30000

structure ConnectionSupervisor where
  cleanupRequested : Option CleanupReason
  forceReconnectRequested : Option ReconnectReason
  latestStateAction : NetworkRecoveryAction
  latestSnapshotSequence : Option UInt64

namespace ConnectionSupervisor

def new : ConnectionSupervisor := ⟨none, none, .noop, none⟩

def snapshotAction (snapshot : NetworkSnapshot) : NetworkRecoveryAction :=
  if snapshot.isOffline then .offline else if snapshot.shouldRestore then .restore else .probe

def submitFact (s : ConnectionSupervisor) : NetworkEvent → ConnectionSupervisor
  | .cleanupConnections reason => { s with cleanupRequested := some reason }
  | .forceReconnect reason => { s with forceReconnectRequested := some reason }
  | .networkPathChanged snapshot =>
    if s.latestSnapshotSequence.all (· ≤ snapshot.sequence) then
      { s with
        latestSnapshotSequence := some snapshot.sequence
        latestStateAction := snapshotAction snapshot }
    else s
  | .appForeground backgroundDurationMs =>
    if longBackgroundReconnectThresholdMs ≤ backgroundDurationMs then
      { s with forceReconnectRequested := some .longBackground }
    else if s.latestStateAction = .noop then { s with latestStateAction := .probe }
    else s
  | .appBackground => s

def fromEvents (events : List NetworkEvent) : ConnectionSupervisor := events.foldl submitFact new

def reconcile (s : ConnectionSupervisor) : NetworkRecoveryAction :=
  if s.cleanupRequested.isSome then .cleanupOnly
  else if s.latestStateAction = .offline then .offline
  else if s.forceReconnectRequested.isSome then .forceReconnect
  else s.latestStateAction

def selectAction (events : List NetworkEvent) : NetworkRecoveryAction := (fromEvents events).reconcile

end ConnectionSupervisor

end Actr.Hyper.Lifecycle
