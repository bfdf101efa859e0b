import Actr.Actrix.Ais.Renewal
import Mathlib.Data.List.Sort

/-!
# What a rotation does to the rows of its actor
-/

namespace Actr.Proof.Ais
open Actrix.Ais RenewalStore Actr.Protocol

def own (store : RenewalStore) (actorId : String) : List RenewalTokenRow :=
  store.rows.filter fun row => row.actorId = actorId

def links (store : RenewalStore) (actorId : String) : List (List UInt8 × Int64) :=
  (own store actorId).map fun row => (row.tokenHash, row.expiresAt)

section Statements

variable {store : RenewalStore} {actorId : String} {tokenHash : List UInt8} {expiresAt now : Int64}
variable {row : RenewalTokenRow}

theorem links_of_find (found : store.find actorId tokenHash now = some row) :
    (tokenHash, row.expiresAt) ∈ links store actorId ∧ now < row.expiresAt := by
  have matched := List.find?_some found
  have member := List.mem_of_find?_eq_some found
  simp only [decide_eq_true_eq] at matched
  obtain ⟨mine, hash, unexpired⟩ := matched
  refine ⟨?_, unexpired⟩
  rw [← hash]
  apply List.mem_map_of_mem
  exact List.mem_filter.mpr ⟨member, decide_eq_true mine⟩

theorem find_of_links (listed : (tokenHash, expiresAt) ∈ links store actorId) (unexpired : now < expiresAt) :
    ∃ row, store.find actorId tokenHash now = some row := by
  obtain ⟨row, member, same⟩ := List.mem_map.mp listed
  obtain ⟨member, mine⟩ := List.mem_filter.mp member
  cases same
  apply Option.isSome_iff_exists.mp
  rw [RenewalStore.find, List.find?_isSome]
  exact ⟨row, member, by simpa using ⟨of_decide_eq_true mine, unexpired⟩⟩

theorem insertOrIgnore_present {stored : Int64} (listed : (tokenHash, stored) ∈ links store actorId) :
    store.insertOrIgnore actorId tokenHash expiresAt now = store := by
  obtain ⟨row, member, same⟩ := List.mem_map.mp listed
  cases same
  have present : store.rows.any (fun other => other.tokenHash = row.tokenHash) = true :=
    List.any_eq_true.mpr ⟨row, (List.mem_filter.mp member).1, by simp⟩
  rw [insertOrIgnore, if_pos present]

theorem rows_insertOrIgnore_absent (absent : ∀ row ∈ store.rows, row.tokenHash ≠ tokenHash) :
    (store.insertOrIgnore actorId tokenHash expiresAt now).rows =
      store.rows ++ [⟨store.nextId, actorId, tokenHash, expiresAt, now⟩] := by
  have none : store.rows.any (fun row => row.tokenHash = tokenHash) = false := by
    rw [List.any_eq_false]
    intro row member
    simpa using absent row member
  rw [insertOrIgnore, if_neg (by rw [none]; decide)]

theorem links_insertOrIgnore_absent (absent : ∀ row ∈ store.rows, row.tokenHash ≠ tokenHash) :
    links (store.insertOrIgnore actorId tokenHash expiresAt now) actorId =
      links store actorId ++ [(tokenHash, expiresAt)] := by
  unfold links own
  rw [rows_insertOrIgnore_absent absent, List.filter_append, List.map_append]
  simp

theorem links_deleteExpired : links (store.deleteExpired actorId now) actorId =
      (links store actorId).filter fun link => now < link.2 := by
  unfold links own deleteExpired
  rw [List.filter_map, List.filter_filter, List.filter_filter]
  congr 1
  apply List.filter_congr
  intro row member
  by_cases mine : row.actorId = actorId <;> simp [mine]

theorem trimOldest_of_two (few : (links store actorId).length ≤ 2) : store.trimOldest actorId = store := by
  have length : ((own store actorId).mergeSort newer).length ≤ 2 := by
    simpa [links] using few
  unfold own at length
  unfold trimOldest
  simp only [List.take_of_length_le length]
  have all : (store.rows.filter fun row => ¬ (row.actorId = actorId ∧
      row.id ∉ (((store.rows.filter fun row => row.actorId = actorId).mergeSort newer).map (·.id)))) = store.rows := by
    apply List.filter_eq_self.mpr
    intro row member
    simp only [decide_eq_true_eq, not_and, not_not]
    intro mine
    apply List.mem_map_of_mem
    rw [List.mem_mergeSort]
    exact List.mem_filter.mpr ⟨member, decide_eq_true mine⟩
  rw [all]

end Statements

section Transaction

variable {config : RenewalConfig} {store t : RenewalStore} {actorId : ActrId} {token : List UInt8} {now : Int64}
variable {fault : Option (Statement × String)} {outcome : RotationOutcome}

theorem bind_runStatement {α : Type} {statement : Statement} {next : Unit → Except RenewalError α} {result : α}
    (ran : (runStatement fault statement >>= next) = .ok result) : next () = .ok result := by
  cases answer : runStatement fault statement with
  | error =>
    rw [answer] at ran
    cases ran
  | ok =>
    rw [answer] at ran
    exact ran

def rotatedStore (config : RenewalConfig) (store : RenewalStore) (actorId : ActrId) (token : List UInt8)
    (expiresAt now : Int64) : RenewalStore :=
  let successor := config.crypto.deriveSuccessorToken config.secret token actorId expiresAt
  let inserted := store.insertOrIgnore actorId.toStringRepr (config.crypto.hashToken successor)
    (successorExpiresAt expiresAt config.ttlSecs) now
  (inserted.deleteExpired actorId.toStringRepr now).trimOldest actorId.toStringRepr

theorem rotate_ok (ran : config.rotate store actorId token now fault = .ok (outcome, t)) :
    ∃ row, store.find actorId.toStringRepr (config.crypto.hashToken token) now = some row ∧
      ((config.rotationWindowSecs.toInt64 < row.expiresAt - now ∧
          outcome = .unchanged token row.expiresAt ∧ t = store) ∨
        (¬ config.rotationWindowSecs.toInt64 < row.expiresAt - now ∧
          outcome = .rotated (config.crypto.deriveSuccessorToken config.secret token actorId row.expiresAt)
            (successorExpiresAt row.expiresAt config.ttlSecs) ∧
          t = rotatedStore config store actorId token row.expiresAt now)) := by
  replace ran := bind_runStatement (bind_runStatement ran)
  cases found : store.find actorId.toStringRepr (config.crypto.hashToken token) now with
  | none =>
    simp only [found] at ran
    cases bind_runStatement ran
  | some row =>
    simp only [found] at ran
    refine ⟨row, rfl, ?_⟩
    split at ran
    · next fresh =>
      cases bind_runStatement ran
      exact .inl ⟨fresh, rfl, rfl⟩
    · next due =>
      cases bind_runStatement (bind_runStatement (bind_runStatement (bind_runStatement ran)))
      exact .inr ⟨due, rfl, rfl⟩

theorem rotate_of_find {row : RenewalTokenRow}
    (found : store.find actorId.toStringRepr (config.crypto.hashToken token) now = some row) :
    ∃ outcome t, config.rotate store actorId token now none = .ok (outcome, t) := by
  unfold RenewalConfig.rotate
  simp only [found]
  by_cases fresh : config.rotationWindowSecs.toInt64 < row.expiresAt - now
  · simp only [if_pos fresh]
    exact ⟨_, _, rfl⟩
  · simp only [if_neg fresh]
    exact ⟨_, _, rfl⟩

end Transaction

end Actr.Proof.Ais
