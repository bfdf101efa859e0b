import Actr.Actrix.Control.RealmCreation
import Actr.Proof.Platform.Realm

/-! # A realm is created whole or not at all -/

namespace Actr.Proof.Platform
open Actrix.Platform

variable {s : RealmStore}

theorem id_lt_nextId {stored : StoredRealm} (member : stored ∈ s.rows) : stored.id < s.nextId := by
  obtain ⟨rows, seq⟩ := s
  simp only [RealmStore.nextId, Nat.lt_succ_iff] at member ⊢
  induction rows with
  | nil => cases member
  | cons first rest ih =>
    rcases List.mem_cons.mp member with rfl | member
    · exact le_max_left _ _
    · exact (ih member).trans (le_max_right _ _)

theorem delete_created {id : Nat} {now : Int64} {row : RealmRow} :
    (RealmStore.delete ⟨s.rows ++ [⟨s.nextId, now, row⟩], s.nextId⟩ id).rows = s.rows ↔ s.nextId = id := by
  constructor
  · intro same
    by_contra other
    have member : ⟨s.nextId, now, row⟩ ∈ s.rows := by
      rw [← same]
      exact List.mem_filter.mpr ⟨List.mem_append_right _ List.mem_cons_self, decide_eq_true other⟩
    exact (id_lt_nextId member).ne rfl
  · rintro rfl
    have kept : s.rows.filter (fun stored => stored.id ≠ s.nextId) = s.rows :=
      List.filter_eq_self.mpr fun stored member => decide_eq_true (id_lt_nextId member).ne
    rw [RealmStore.delete, List.filter_append, kept]
    simp

/-- The realm of the request. -/
def requested (sha256 : List UInt8 → Vector UInt8 32) (req : CreateRealmRequest) (bytes : Vector UInt8 24) : Realm where
  name := req.name
  status := (req.status.bind RealmStatus.fromStr).getD .active
  enabled := req.enabled
  expiresAt := if req.expiresAt > 0 then some req.expiresAt else none
  updatedAt := none
  secretCurrent := hashRealmSecret sha256 (generateRealmSecret bytes)
  secretPrevious := none

def Parses (req : CreateRealmRequest) : Prop := ∀ status ∈ req.status, (RealmStatus.fromStr status).isSome

/-- The update of a row, and what is asked of it where the id it names is not that of the new row. -/
def update (id : Nat) (row : RealmRow) (stored : StoredRealm) : StoredRealm :=
  if stored.id = id then { stored with row } else stored

def Harmless (s : RealmStore) (req : CreateRealmRequest) (realm : Realm) (later : Int64) : Prop :=
  realm.enabled = true ∧ req.expiresAt = 0 ∧ realm.status = .active ∧
    ∀ stored ∈ s.rows, update (s.nextId % 2 ^ 32) (realm.toRow later) stored = stored

section Statements

variable {sha256 : List UInt8 → Vector UInt8 32} {req : CreateRealmRequest} {bytes : Vector UInt8 24} {later : Int64}

theorem apply_created (parses : Parses req) :
    req.apply ⟨req.name, .active, true, none, none, hashRealmSecret sha256 (generateRealmSecret bytes), none⟩ =
      .ok (requested sha256 req bytes) := by
  unfold CreateRealmRequest.apply requested
  cases given : req.status with
  | none => split <;> rfl
  | some status =>
    obtain ⟨parsed, reads⟩ := Option.isSome_iff_exists.mp (parses status given)
    simp only [parseRealmStatus, reads, Except.map, Option.bind_some, Option.getD_some]
    split <;> rfl

theorem apply_refused (unparsed : ¬ Parses req) (realm : Realm) : ∃ error, req.apply realm = .error error := by
  simp only [Parses, not_forall, Option.not_isSome_iff_eq_none] at unparsed
  obtain ⟨status, given, unread⟩ := unparsed
  rw [CreateRealmRequest.apply, given]
  simp only [parseRealmStatus, unread]
  exact ⟨_, rfl⟩

theorem default_iff {row : RealmRow} (created : Realm.fromRow row =
      ⟨req.name, .active, true, none, none, hashRealmSecret sha256 (generateRealmSecret bytes), none⟩) :
    { Realm.fromRow row with updatedAt := none } = requested sha256 req bytes ↔
      (requested sha256 req bytes).enabled = true ∧ req.expiresAt = 0 ∧ (requested sha256 req bytes).status = .active := by
  have positive : req.expiresAt > 0 ↔ req.expiresAt ≠ 0 := UInt64.pos_iff_ne_zero
  rw [created]
  simp only [requested, Realm.mk.injEq, true_and, and_true, positive]
  grind

theorem updated_iff {id : Nat} {row : RealmRow} {created : StoredRealm} {Good : StoredRealm → Prop} :
    (∃ stored, (s.rows ++ [created]).map (update id row) = s.rows ++ [stored] ∧ Good stored) ↔
      (∀ stored ∈ s.rows, update id row stored = stored) ∧ Good (update id row created) := by
  rw [List.map_append]
  constructor
  · rintro ⟨stored, same, good⟩
    obtain ⟨front, last⟩ := List.append_inj' same rfl
    cases last
    exact ⟨List.map_inj_left.mp (front.trans (List.map_id s.rows).symm), good⟩
  · rintro ⟨fixed, good⟩
    exact ⟨_, by rw [List.map_congr_left fixed, List.map_id']; rfl, good⟩

end Statements

theorem realm_created_whole_iff (sha256 : List UInt8 → Vector UInt8 32) (s : RealmStore)
    (req : CreateRealmRequest) (exposePlainSecret : Bool) (bytes : Vector UInt8 24) (now later : Int64)
    (createFailure saveFailure : Option String) :
    let outcome := createLocalRealmInternal sha256 s req exposePlainSecret bytes now later createFailure saveFailure
    ((outcome.2.1.success = false → outcome.1.rows = s.rows) ∧
      (outcome.2.1.success = true → ∃ stored, outcome.1.rows = s.rows ++ [stored] ∧
        { Realm.fromRow stored.row with updatedAt := none } = requested sha256 req bytes)) ↔
    createFailure.isSome ∨ Parses req ∧
      (s.nextId < 2 ^ 32 ∨ saveFailure = none ∧ Harmless s req (requested sha256 req bytes) later) := by
  unfold createLocalRealmInternal
  cases createFailure with
  | some => simp [RealmStore.create]
  | none =>
    simp only [RealmStore.create, Option.isSome_none, Bool.false_eq_true, false_or]
    by_cases parses : Parses req
    · simp only [apply_created parses, parses, true_and]
      by_cases narrow : s.nextId < 2 ^ 32
      · rw [Nat.mod_eq_of_lt narrow, iff_true_right (.inl narrow)]
        cases saveFailure with
        | some => exact ⟨fun _ => delete_created.mpr rfl, nofun⟩
        | none =>
          refine ⟨nofun, fun _ => updated_iff.mpr ⟨fun stored member => if_neg (id_lt_nextId member).ne, ?_⟩⟩
          rw [update, if_pos rfl, fromRow_toRow (by simp [requested])]
          rfl
      · have other : s.nextId ≠ s.nextId % 2 ^ 32 := by omega
        simp only [narrow, false_or]
        cases saveFailure with
        | some => exact iff_of_false (fun whole => other (delete_created.mp (whole.1 rfl))) nofun
        | none =>
          refine Iff.trans ⟨fun whole => whole.2 rfl, fun added => ⟨nofun, fun _ => added⟩⟩ (updated_iff.trans ?_)
          rw [update, if_neg other, default_iff rfl, Harmless]
          tauto
    · obtain ⟨error, refused⟩ := apply_refused parses
        ⟨req.name, .active, true, none, none, hashRealmSecret sha256 (generateRealmSecret bytes), none⟩
      simp [refused, parses]

theorem invalid_status_leaves_a_realm :
    let req : CreateRealmRequest := ⟨"lab", true, 0, some "active"⟩
    let outcome := createLocalRealmInternal (fun _ => .replicate 32 0) ⟨[], 33554431⟩ req true (.replicate 24 0) 100 100
      none none
    outcome.2.1.success = false ∧ outcome.1.rows.map (fun stored => (stored.id, stored.row.name)) = [(33554432, "lab")] := by
  exact ⟨rfl, rfl⟩

end Actr.Proof.Platform
