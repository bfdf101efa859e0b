import Actr.Hyper.Lifecycle.ConnectionSupervisor
import Mathlib.Data.List.Induction

/-! # Batches of network events converge -/

namespace Actr.Proof.Lifecycle.Supervisor
open Hyper.Lifecycle ConnectionSupervisor

variable {events other : List NetworkEvent} {event : NetworkEvent} {action : NetworkRecoveryAction}
variable {s : ConnectionSupervisor}

@[grind] def Cleanup (events : List NetworkEvent) : Prop := ∃ reason, .cleanupConnections reason ∈ events

@[grind] def Force (events : List NetworkEvent) : Prop :=
  (∃ reason, .forceReconnect reason ∈ events) ∨
    ∃ duration, .appForeground duration ∈ events ∧ longBackgroundReconnectThresholdMs ≤ duration

@[grind] def ShortForeground (events : List NetworkEvent) : Prop :=
  ∃ duration, .appForeground duration ∈ events ∧ duration < longBackgroundReconnectThresholdMs

@[grind] def Latest (events : List NetworkEvent) (snapshot : NetworkSnapshot) : Prop :=
  .networkPathChanged snapshot ∈ events ∧
    ∀ earlier, .networkPathChanged earlier ∈ events → earlier.sequence ≤ snapshot.sequence

def Distinct (events : List NetworkEvent) : Prop :=
  ∀ first second, .networkPathChanged first ∈ events → .networkPathChanged second ∈ events →
    first.sequence = second.sequence → first = second

inductive Calls (events : List NetworkEvent) : NetworkRecoveryAction → Prop
  | cleanup (requested : Cleanup events) : Calls events .cleanupOnly
  | offline {snapshot : NetworkSnapshot} (kept : ¬Cleanup events) (latest : Latest events snapshot)
      (offline : snapshot.isOffline = true) : Calls events .offline
  | force (kept : ¬Cleanup events) (online : ∀ snapshot, Latest events snapshot → snapshot.isOffline = false)
      (requested : Force events) : Calls events .forceReconnect
  | path {snapshot : NetworkSnapshot} (kept : ¬Cleanup events) (latest : Latest events snapshot)
      (online : snapshot.isOffline = false) (unforced : ¬Force events) :
      Calls events (if snapshot.shouldRestore then .restore else .probe)
  | foreground (kept : ¬Cleanup events) (silent : ∀ snapshot, ¬Latest events snapshot) (unforced : ¬Force events)
      (short : ShortForeground events) : Calls events .probe
  | idle (kept : ¬Cleanup events) (silent : ∀ snapshot, ¬Latest events snapshot) (unforced : ¬Force events)
      (never : ¬ShortForeground events) : Calls events .noop

structure Reflects (events : List NetworkEvent) (s : ConnectionSupervisor) : Prop where
  cleanup : s.cleanupRequested.isSome ↔ Cleanup events
  force : s.forceReconnectRequested.isSome ↔ Force events
  silent : s.latestSnapshotSequence = none → (∀ snapshot, .networkPathChanged snapshot ∉ events) ∧
    (ShortForeground events ∧ s.latestStateAction = .probe ∨ ¬ShortForeground events ∧ s.latestStateAction = .noop)
  latest : ∀ sequence, s.latestSnapshotSequence = some sequence → ∃ snapshot, Latest events snapshot ∧
    snapshot.sequence = sequence ∧ s.latestStateAction = snapshotAction snapshot

attribute [grind] submitFact

theorem snapshotAction_ne_noop (snapshot : NetworkSnapshot) : snapshotAction snapshot ≠ .noop := by
  unfold snapshotAction
  split
  · simp
  · split <;> simp

theorem reflects_path {snapshot : NetworkSnapshot} (reflects : Reflects events s) :
    ∀ sequence, (s.submitFact (.networkPathChanged snapshot)).latestSnapshotSequence = some sequence →
      ∃ found, Latest (events ++ [.networkPathChanged snapshot]) found ∧ found.sequence = sequence ∧
        (s.submitFact (.networkPathChanged snapshot)).latestStateAction = snapshotAction found := by
  intro sequence known
  unfold submitFact at *
  cases before : s.latestSnapshotSequence with
  | none =>
    simp only [before, Option.all_none, if_true, Option.some.injEq] at known ⊢
    have none := (reflects.silent before).1
    exact ⟨snapshot, by grind, known, rfl⟩
  | some newest =>
    obtain ⟨found, latest, same, acts⟩ := reflects.latest newest before
    simp only [before, Option.all_some, decide_eq_true_eq] at known ⊢
    split
    · next newer =>
      rw [if_pos newer] at known
      exact ⟨snapshot, by grind, Option.some.inj known, rfl⟩
    · next older =>
      exact ⟨found, by grind, by grind, acts⟩

theorem reflects_submitFact (reflects : Reflects events s) (event : NetworkEvent) :
    Reflects (events ++ [event]) (s.submitFact event) := by
  obtain ⟨cleanup, force, silent, latest⟩ := id reflects
  cases event with
  | cleanupConnections | forceReconnect | appBackground => constructor <;> grind
  | appForeground =>
    have acts := snapshotAction_ne_noop
    constructor <;> grind
  | networkPathChanged =>
    constructor
    case latest => exact reflects_path reflects
    all_goals grind

theorem reflects_fromEvents (events : List NetworkEvent) : Reflects events (fromEvents events) := by
  induction events using List.reverseRecOn with
  | nil => constructor <;> simp [fromEvents, new, Cleanup, Force, ShortForeground]
  | append_singleton events event ih =>
    rw [fromEvents, List.foldl_append]
    exact reflects_submitFact ih event

theorem Latest.unique {first second : NetworkSnapshot} (one : Latest events first) (distinct : Distinct events)
    (two : Latest events second) : first = second :=
  distinct first second one.1 two.1 (UInt64.le_antisymm (two.2 first one.1) (one.2 second two.1))

theorem calls_selectAction (distinct : Distinct events) : Calls events (selectAction events) := by
  obtain ⟨cleanup, force, silent, latest⟩ := reflects_fromEvents events
  unfold selectAction reconcile
  by_cases requested : Cleanup events
  · rw [if_pos (cleanup.mpr requested)]
    exact .cleanup requested
  rw [if_neg (mt cleanup.mp requested)]
  cases known : (fromEvents events).latestSnapshotSequence with
  | none =>
    obtain ⟨none, acts⟩ := silent known
    have unseen (snapshot : NetworkSnapshot) : ¬Latest events snapshot := fun found => none snapshot found.1
    rw [if_neg (by grind)]
    by_cases forced : Force events
    · rw [if_pos (force.mpr forced)]
      exact .force requested (fun snapshot found => absurd found (unseen snapshot)) forced
    rw [if_neg (mt force.mp forced)]
    rcases acts with ⟨short, acts⟩ | ⟨never, acts⟩
    · rw [acts]
      exact .foreground requested unseen forced short
    · rw [acts]
      exact .idle requested unseen forced never
  | some sequence =>
    obtain ⟨snapshot, found, -, acts⟩ := latest sequence known
    rw [acts]
    cases offline : snapshot.isOffline with
    | true =>
      rw [if_pos (by simp [snapshotAction, offline])]
      exact .offline requested found offline
    | false =>
      have online (other : NetworkSnapshot) (also : Latest events other) : other.isOffline = false :=
        found.unique distinct also ▸ offline
      have path : snapshotAction snapshot = if snapshot.shouldRestore then .restore else .probe := by
        simp [snapshotAction, offline]
      rw [path, if_neg (by split <;> simp)]
      by_cases forced : Force events
      · rw [if_pos (force.mpr forced)]
        exact .force requested online forced
      · rw [if_neg (mt force.mp forced)]
        exact .path requested found offline forced

theorem Calls.unique {second : NetworkRecoveryAction} (distinct : Distinct events)
    (same : ∀ event, event ∈ other ↔ event ∈ events) (one : Calls events action) (two : Calls other second) :
    second = action := by
  have cleanup : Cleanup other ↔ Cleanup events := by simp only [Cleanup, same]
  have force : Force other ↔ Force events := by simp only [Force, same]
  have short : ShortForeground other ↔ ShortForeground events := by simp only [ShortForeground, same]
  have latest (snapshot : NetworkSnapshot) : Latest other snapshot ↔ Latest events snapshot := by
    simp only [Latest, same]
  have unique (first second : NetworkSnapshot) (one : Latest events first) (two : Latest events second) :
      first = second := one.unique distinct two
  cases one <;> cases two <;> grind

theorem batches_converge (events : List NetworkEvent) (distinct : Distinct events) :
    Calls events (selectAction events) ∧ ∀ other, other.Perm events → selectAction other = selectAction events := by
  have calls := calls_selectAction distinct
  refine ⟨calls, fun other permuted => ?_⟩
  have kept : Distinct other := by
    simp only [Distinct, permuted.mem_iff]
    exact distinct
  exact calls.unique distinct (fun _ => permuted.mem_iff) (calls_selectAction kept)

def settledBatch : List NetworkEvent :=
  [.networkPathChanged ⟨2, .available⟩, .networkPathChanged ⟨1, .unavailable⟩, .appForeground 100]

theorem batches_converge_to_restore : Distinct settledBatch ∧ Calls settledBatch .restore := by
  have distinct : Distinct settledBatch := by
    simp only [Distinct, settledBatch]
    grind
  exact ⟨distinct, (batches_converge settledBatch distinct).1⟩

end Actr.Proof.Lifecycle.Supervisor
