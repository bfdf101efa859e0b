import Actr.Proof.Signaling.ActorIndex
import Actr.Proof.Signaling.MessageTypeIndex

/-! # The cleanup of expired services -/

namespace Actr.Proof.Signaling
open Actrix.Signaling ServiceRegistry Library.Maps Library.Machine

variable {r : ServiceRegistry} {now : UInt64} {order : List String} {name : String} {service : ServiceInfo}

def fresh (now : UInt64) (service : ServiceInfo) : Bool := now.toNat ≤ service.lastHeartbeatTimeSecs.toNat + 60

/-- Stale instances go, the others stay as they are, and the indexes are those of what is left. -/
structure Cleaned (r : ServiceRegistry) (now : UInt64) (t : ServiceRegistry) : Prop where
  instances : ∀ name, t.instancesOf name = (r.instancesOf name).filter (fresh now)
  actors : ActorExact t
  types : TypesExact t

theorem expired_iff (before : service.lastHeartbeatTimeSecs ≤ now) :
    expired now service = true ↔ service.lastHeartbeatTimeSecs.toNat + 60 < now.toNat := by
  have threshold : serviceExpiryThresholdSecs.toNat = 60 := rfl
  simp only [expired, decide_eq_true_eq, UInt64.lt_iff_toNat_lt, UInt64.toNat_sub_of_le _ _ before, threshold]
  omega

theorem mem_keys_of_instance (listed : service ∈ r.instancesOf name) : name ∈ r.services.keys := by
  cases found : r.services.lookup name with
  | none =>
    rw [instancesOf, listAt_of_lookup_none found] at listed
    cases listed
  | some =>
    apply AList.mem_keys.mp
    apply AList.lookup_isSome.mp
    rw [found]
    rfl

theorem kept_iff (inv : ActorExact r) (all : order.Perm r.services.keys) (listed : service ∈ r.instancesOf name) :
    (∀ pair ∈ order.flatMap fun serviceName =>
      ((r.instancesOf serviceName).filter (expired now)).map fun service => (service.actorId, serviceName),
        ¬ (service.actorId = pair.1 ∧ name = pair.2)) ↔ ¬ expired now service = true := by
  constructor
  · intro kept old
    refine kept (service.actorId, name) ?_ ⟨rfl, rfl⟩
    refine List.mem_flatMap.mpr ⟨name, all.mem_iff.mpr (mem_keys_of_instance listed), ?_⟩
    exact List.mem_map.mpr ⟨service, List.mem_filter.mpr ⟨listed, old⟩, rfl⟩
  · rintro fresh pair member ⟨own, rfl⟩
    obtain ⟨named, -, member⟩ := List.mem_flatMap.mp member
    obtain ⟨other, found, rfl⟩ := List.mem_map.mp member
    obtain ⟨found, old⟩ := List.mem_filter.mp found
    have distinct : ((r.instancesOf named).map ServiceInfo.actorId).Nodup := by
      simpa [actorsOf, declared, Function.comp_def, declaration] using inv.unique named
    exact fresh (List.inj_on_of_nodup_map distinct found listed own.symm ▸ old)

section Results

variable (inv : ActorExact r) (all : order.Perm r.services.keys)
include inv all

theorem instancesOf_cleanup (past : ∀ service ∈ r.instancesOf name, service.lastHeartbeatTimeSecs ≤ now) :
    (r.cleanupExpiredServices now order).instancesOf name = (r.instancesOf name).filter (fresh now) := by
  unfold cleanupExpiredServices
  rw [instancesOf_foldl]
  apply List.filter_congr
  intro service listed
  rw [fresh, decide_eq_decide, kept_iff inv all listed, expired_iff (past service listed), Nat.not_lt]

theorem cleaned_iff (exactly : TypesExact r)
    (past : ∀ name, ∀ service ∈ r.instancesOf name, service.lastHeartbeatTimeSecs ≤ now) :
    Cleaned r now (r.cleanupExpiredServices now order) ↔ Covers r fun _ => fresh now := by
  have instances (name : String) := instancesOf_cleanup inv all (past name)
  have types := typesExact_removes exactly (removes_withdraw (removed r (.cleanupExpiredServices now order))) instances
  exact ⟨fun cleaned => types.mp cleaned.types, fun covers => ⟨instances, inv.cleanup now order, types.mpr covers⟩⟩

/-- With and without overflow checks. -/
theorem cleanup_exact_iff (exactly : TypesExact r) :
    (∀ overflowChecks, ∃ t, cleanupChecked overflowChecks r now order = some t ∧ Cleaned r now t) ↔
      (∀ name, ∀ service ∈ r.instancesOf name, service.lastHeartbeatTimeSecs ≤ now) ∧ Covers r fun _ => fresh now := by
  constructor
  · intro cleans
    obtain ⟨t, run, cleaned⟩ := cleans true
    obtain ⟨early, rfl⟩ := of_unless run
    have past : ∀ name, ∀ service ∈ r.instancesOf name, service.lastHeartbeatTimeSecs ≤ now := by
      intro name service listed
      refine UInt64.not_lt.mp fun later => early ⟨rfl, name, ?_, service, listed, later⟩
      exact all.mem_iff.mpr (mem_keys_of_instance listed)
    exact ⟨past, (cleaned_iff inv all exactly past).mp cleaned⟩
  · rintro ⟨past, covers⟩ overflowChecks
    refine ⟨_, if_neg ?_, (cleaned_iff inv all exactly past).mpr covers⟩
    rintro ⟨-, name, -, service, listed, later⟩
    exact UInt64.not_lt.mpr (past name service listed) later

end Results

def chatting : ServiceRegistry := empty.registerServiceFull (echo 1) "chat" ["Say"] none 100

def joined : ServiceRegistry := chatting.registerServiceFull (echo 2) "chat" ["Say"] none 190

theorem actorExact_chatting : ActorExact chatting := actorExact_empty.register ..

theorem typesExact_chatting : TypesExact chatting := typesExact_register typesExact_empty _ _ _ _ _

theorem only_chat {service : ServiceInfo} (listed : service ∈ joined.instancesOf name) : name = "chat" := by
  by_contra other
  have none : joined.instancesOf name = [] :=
    listAt_insert.trans ((if_neg other).trans (listAt_insert.trans (if_neg other)))
  rw [none] at listed
  cases listed

theorem cleanup_takes_first_of_joined :
    ∃ t, cleanupChecked true joined 200 ["chat"] = some t ∧ Cleaned joined 200 t ∧
      (joined.instancesOf "chat").map ServiceInfo.actorId = [echo 1, echo 2] ∧
      (t.instancesOf "chat").map ServiceInfo.actorId = [echo 2] := by
  have past : ∀ name, ∀ service ∈ joined.instancesOf name, service.lastHeartbeatTimeSecs ≤ 200 := by
    intro name service listed
    cases only_chat listed
    have each : ∀ service ∈ joined.instancesOf "chat", service.lastHeartbeatTimeSecs ≤ 200 := by decide +kernel
    exact each service listed
  have covers : Covers joined fun _ => fresh 200 := by
    intro name kept listed stays messageType service found declares
    cases only_chat listed
    have each : ∀ service ∈ joined.instancesOf "chat", service.messageTypes = ["Say"] := by decide +kernel
    rw [each service found] at declares
    exact ⟨kept, listed, stays, by rwa [each kept listed]⟩
  obtain ⟨t, run, cleaned⟩ := (cleanup_exact_iff (actorExact_chatting.register ..) (.refl ["chat"])
    (typesExact_register typesExact_chatting _ _ _ _ _)).mpr ⟨past, covers⟩ true
  refine ⟨t, run, cleaned, rfl, ?_⟩
  rw [cleaned.instances]
  rfl

theorem early_reading_removes_fresh_instance :
    ActorExact chatting ∧ TypesExact chatting ∧ (cleanupChecked true chatting 99 ["chat"]).isNone ∧
      ∃ t, cleanupChecked false chatting 99 ["chat"] = some t ∧ t.instancesOf "chat" = [] ∧ ¬ Cleaned chatting 99 t := by
  refine ⟨actorExact_chatting, typesExact_chatting, by decide +kernel, _, rfl, rfl, ?_⟩
  intro cleaned
  cases (cleaned.instances "chat")

end Actr.Proof.Signaling
