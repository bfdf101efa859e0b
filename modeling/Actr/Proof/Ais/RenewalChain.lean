import Actr.Library.Slots
import Actr.Proof.Ais.Renewal
import Mathlib.Data.Nat.Bitwise

/-! # The rows of an actor are a window on its chain of tokens -/

namespace Actr.Proof.Ais
open Actrix.Ais RenewalStore Actr.Protocol Library.Machine

structure Registration where
  config : RenewalConfig
  actorId : ActrId
  store : RenewalStore
  token : List UInt8
  seconds : UInt64

namespace Registration

def initial (r : Registration) : RenewalState :=
  ⟨r.config.register r.store r.actorId r.token r.seconds, r.seconds⟩

/-- The successor chain of the first token, each token with its expiry. -/
def chain (r : Registration) : Nat → List UInt8 × Int64
  | 0 => (r.token, (r.seconds + r.config.ttlSecs).toInt64)
  | i + 1 =>
    (r.config.crypto.deriveSuccessorToken r.config.secret (r.chain i).1 r.actorId (r.chain i).2,
      successorExpiresAt (r.chain i).2 r.config.ttlSecs)

def answer (r : Registration) (store : RenewalStore) (request : RenewalRequest) :
    Except RenewalError (RotationOutcome × RenewalStore) :=
  r.config.rotate store r.actorId request.token request.seconds.toInt64 request.fault

/-- The token of the request is in its rotation window. -/
def Due (r : Registration) (request : RenewalRequest) : Prop :=
  ∃ j, request.token = (r.chain j).1 ∧
    ¬ r.config.rotationWindowSecs.toInt64 < (r.chain j).2 - request.seconds.toInt64

def link (r : Registration) (i : Nat) : List UInt8 × Int64 := (r.config.crypto.hashToken (r.chain i).1, (r.chain i).2)

/-- SHA-256 and HMAC-SHA256 do not collide. -/
structure CollisionFree (r : Registration) : Prop where
  sha256 : Function.Injective r.config.crypto.sha256
  hmacSha256 : Function.Injective (r.config.crypto.hmacSha256 r.config.secret)
  first : ∀ message, r.config.crypto.hmacSha256 r.config.secret message ≠ r.token
  others : ∀ row ∈ r.store.rows, row.actorId ≠ r.actorId.toStringRepr ∧ ∀ i, row.tokenHash ≠ (r.link i).1

-- Whatever is computed from a time fits into an `i64`.
def Early (r : Registration) (seconds : UInt64) : Prop :=
  seconds.toNat + r.config.rotationWindowSecs.toNat + r.config.ttlSecs.toNat < 2 ^ 63

end Registration

section Arithmetic

theorem toInt_toInt64 {number : UInt64} (small : number.toNat < 2 ^ 63) : number.toInt64.toInt = number.toNat := by
  apply BitVec.toInt_eq_toNat_of_lt
  change 2 * number.toNat < 2 ^ 64
  omega

theorem toInt_add_of_range {a b : Int64} (low : -2 ^ 63 ≤ a.toInt + b.toInt) (high : a.toInt + b.toInt < 2 ^ 63) :
    (a + b).toInt = a.toInt + b.toInt := by
  rw [Int64.toInt_add]
  apply Int.bmod_eq_of_le
  · omega
  · omega

theorem toInt_sub_of_range {a b : Int64} (low : -2 ^ 63 ≤ a.toInt - b.toInt) (high : a.toInt - b.toInt < 2 ^ 63) :
    (a - b).toInt = a.toInt - b.toInt := by
  rw [Int64.toInt_sub]
  apply Int.bmod_eq_of_le
  · omega
  · omega

variable {r : Registration} {seconds : UInt64} {expiresAt : Int64}

theorem due_expiry (early : r.Early seconds) (unexpired : seconds.toInt64 < expiresAt)
    (due : ¬ r.config.rotationWindowSecs.toInt64 < expiresAt - seconds.toInt64) :
    expiresAt.toInt ≤ seconds.toNat + r.config.rotationWindowSecs.toNat ∧
      (successorExpiresAt expiresAt r.config.ttlSecs).toInt = expiresAt.toInt + r.config.ttlSecs.toNat := by
  unfold Registration.Early at early
  have now : seconds.toInt64.toInt = seconds.toNat := toInt_toInt64 (by omega)
  have window : r.config.rotationWindowSecs.toInt64.toInt = r.config.rotationWindowSecs.toNat :=
    toInt_toInt64 (by omega)
  have ttl : r.config.ttlSecs.toInt64.toInt = r.config.ttlSecs.toNat := toInt_toInt64 (by omega)
  have above := Int64.lt_iff_toInt_lt.mp unexpired
  have top := expiresAt.toInt_lt
  have remaining : (expiresAt - seconds.toInt64).toInt = expiresAt.toInt - seconds.toNat := by
    rw [← now]
    apply toInt_sub_of_range
    · omega
    · omega
  rw [Int64.lt_iff_toInt_lt, window, remaining] at due
  constructor
  · omega
  · rw [← ttl]
    apply toInt_add_of_range
    · omega
    · omega

end Arithmetic

section Chain

variable {r : Registration} {i j : Nat}

theorem length_toBeBytes (number : Int64) : (toBeBytes number).length = 8 := by
  simp [toBeBytes]

theorem chain_succ_injective (free : r.CollisionFree) (same : (r.chain (i + 1)).1 = (r.chain (j + 1)).1) :
    (r.chain i).1 = (r.chain j).1 := by
  have messages := free.hmacSha256 same
  have tails := (List.append_inj' messages (by simp only [length_toBeBytes])).1
  exact List.append_cancel_left (List.append_cancel_right tails)

theorem chain_injective (free : r.CollisionFree) (same : (r.chain i).1 = (r.chain j).1) : i = j := by
  induction i generalizing j with
  | zero =>
    cases j with
    | zero => rfl
    | succ => exact absurd same.symm (free.first _)
  | succ i ih =>
    cases j with
    | zero => exact absurd same (free.first _)
    | succ => rw [ih (chain_succ_injective free same)]

theorem link_injective (free : r.CollisionFree) (same : (r.link i).1 = (r.link j).1) : i = j :=
  chain_injective free (free.sha256 same)

end Chain

/-- The rows of the actor are one token of the chain, or two that follow each other, a lifetime apart. -/
def Window (r : Registration) (store : RenewalStore) (i : Nat) : Prop :=
  links store r.actorId.toStringRepr = [r.link i] ∨
    (links store r.actorId.toStringRepr = [r.link i, r.link (i + 1)] ∧
      (r.chain (i + 1)).2.toInt = (r.chain i).2.toInt + r.config.ttlSecs.toNat)

structure Kept (r : Registration) (store : RenewalStore) : Prop where
  others : ∀ row ∈ store.rows, row.actorId ≠ r.actorId.toStringRepr → ∀ i, row.tokenHash ≠ (r.link i).1
  window : ∃ i, Window r store i

section Rotation

variable {r : Registration} {store : RenewalStore} {i j : Nat} {seconds : UInt64} {now : Int64}

theorem absent_of_links (kept : Kept r store)
    (absent : ∀ link ∈ links store r.actorId.toStringRepr, link.1 ≠ (r.link j).1) :
    ∀ row ∈ store.rows, row.tokenHash ≠ (r.link j).1 := by
  intro row member
  by_cases mine : row.actorId = r.actorId.toStringRepr
  · apply absent (row.tokenHash, row.expiresAt)
    apply List.mem_map_of_mem
    exact List.mem_filter.mpr ⟨member, decide_eq_true mine⟩
  · exact kept.others row member mine j

theorem links_inserted (free : r.CollisionFree) (kept : Kept r store) (windowed : Window r store i)
    (listed : r.link j ∈ links store r.actorId.toStringRepr)
    (expired : ∀ k, j = k + 1 → (r.chain j).2.toInt = (r.chain k).2.toInt + r.config.ttlSecs.toNat →
      (r.chain k).2 ≤ now) (unexpired : now < (r.chain j).2) (later : now < (r.chain (j + 1)).2) :
    links ((store.insertOrIgnore r.actorId.toStringRepr (r.link (j + 1)).1 (r.link (j + 1)).2 now).deleteExpired
      r.actorId.toStringRepr now) r.actorId.toStringRepr = [r.link j, r.link (j + 1)] := by
  have different : ∀ k, k ≠ j + 1 → (r.link k).1 ≠ (r.link (j + 1)).1 :=
    fun k unequal same => unequal (link_injective free same)
  rw [links_deleteExpired]
  rcases windowed with one | ⟨two, spaced⟩
  · rw [one] at listed
    cases link_injective free (congrArg Prod.fst (List.mem_singleton.mp listed))
    have absent : ∀ row ∈ store.rows, row.tokenHash ≠ (r.link (i + 1)).1 := by
      apply absent_of_links kept
      rw [one]
      simpa using different i (by omega)
    rw [links_insertOrIgnore_absent absent, one]
    simp [Registration.link, unexpired, later]
  · rw [two] at listed
    rcases List.mem_cons.mp listed with first | second
    · cases link_injective free (congrArg Prod.fst first)
      have present : ((r.link (i + 1)).1, (r.link (i + 1)).2) ∈ links store r.actorId.toStringRepr := by
        rw [two]
        simp
      rw [insertOrIgnore_present present, two]
      simp [Registration.link, unexpired, later]
    · cases link_injective free (congrArg Prod.fst (List.mem_singleton.mp second))
      have absent : ∀ row ∈ store.rows, row.tokenHash ≠ (r.link (i + 1 + 1)).1 := by
        apply absent_of_links kept
        rw [two]
        simpa using ⟨different i (by omega), different (i + 1) (by omega)⟩
      have gone : ¬ now < (r.chain i).2 := Int64.not_lt.mpr (expired i rfl spaced)
      rw [links_insertOrIgnore_absent absent, two]
      simp [Registration.link, gone, unexpired, later]

theorem window_rotated (free : r.CollisionFree) (kept : Kept r store) (early : r.Early seconds)
    (short : r.config.rotationWindowSecs ≤ r.config.ttlSecs)
    (listed : r.link j ∈ links store r.actorId.toStringRepr) (unexpired : seconds.toInt64 < (r.chain j).2)
    (due : ¬ r.config.rotationWindowSecs.toInt64 < (r.chain j).2 - seconds.toInt64) :
    links (rotatedStore r.config store r.actorId (r.chain j).1 (r.chain j).2 seconds.toInt64)
        r.actorId.toStringRepr = [r.link j, r.link (j + 1)] ∧
      (r.chain (j + 1)).2.toInt = (r.chain j).2.toInt + r.config.ttlSecs.toNat := by
  obtain ⟨i, windowed⟩ := kept.window
  obtain ⟨within, spaced⟩ := due_expiry early unexpired due
  have now : seconds.toInt64.toInt = seconds.toNat := by
    unfold Registration.Early at early
    exact toInt_toInt64 (by omega)
  have expired : ∀ k, j = k + 1 → (r.chain j).2.toInt = (r.chain k).2.toInt + r.config.ttlSecs.toNat →
      (r.chain k).2 ≤ seconds.toInt64 := by
    intro k _ apart
    have window := UInt64.le_iff_toNat_le.mp short
    rw [Int64.le_iff_toInt_le, now]
    omega
  have later : seconds.toInt64 < (r.chain (j + 1)).2 := by
    rw [Int64.lt_iff_toInt_lt] at unexpired ⊢
    have sum : (r.chain (j + 1)).2.toInt = (r.chain j).2.toInt + r.config.ttlSecs.toNat := spaced
    omega
  have two := links_inserted free kept windowed listed expired unexpired later
  refine ⟨?_, spaced⟩
  have trimmed := trimOldest_of_two (le_of_eq (congrArg List.length two))
  exact (congrArg (fun store => links store r.actorId.toStringRepr) trimmed).trans two

theorem others_rotated (kept : Kept r store) {token : List UInt8} {expiresAt : Int64} :
    ∀ row ∈ (rotatedStore r.config store r.actorId token expiresAt now).rows,
      row.actorId ≠ r.actorId.toStringRepr → ∀ i, row.tokenHash ≠ (r.link i).1 := by
  intro row member foreign
  have inserted := (List.mem_filter.mp (List.mem_filter.mp member).1).1
  unfold insertOrIgnore at inserted
  split at inserted
  · exact kept.others row inserted foreign
  · rcases Library.Slots.mem_snoc inserted with old | rfl
    · exact kept.others row old foreign
    · exact absurd rfl foreign

theorem token_of_find (free : r.CollisionFree) (kept : Kept r store) {token : List UInt8} {row : RenewalTokenRow}
    (found : store.find r.actorId.toStringRepr (r.config.crypto.hashToken token) now = some row) :
    ∃ j, token = (r.chain j).1 ∧ row.expiresAt = (r.chain j).2 ∧
      r.link j ∈ links store r.actorId.toStringRepr ∧ now < (r.chain j).2 := by
  obtain ⟨listed, unexpired⟩ := links_of_find found
  obtain ⟨i, windowed⟩ := kept.window
  have somewhere : ∃ j, (r.config.crypto.hashToken token, row.expiresAt) = r.link j := by
    rcases windowed with one | ⟨two, -⟩
    · rw [one] at listed
      exact ⟨i, List.mem_singleton.mp listed⟩
    · rw [two] at listed
      rcases List.mem_cons.mp listed with first | second
      · exact ⟨i, first⟩
      · exact ⟨i + 1, List.mem_singleton.mp second⟩
  obtain ⟨j, same⟩ := somewhere
  have expiry : row.expiresAt = (r.chain j).2 := congrArg Prod.snd same
  refine ⟨j, free.sha256 (congrArg Prod.fst same), expiry, ?_, ?_⟩
  · rw [← same]
    exact listed
  · rw [← expiry]
    exact unexpired

end Rotation

section Runs

variable {r : Registration} {s : RenewalState} {request : RenewalRequest} {outcome : RotationOutcome}
variable {store : RenewalStore}

theorem kept_initial (free : r.CollisionFree) : Kept r r.initial.store := by
  have absent : ∀ row ∈ r.store.rows, row.tokenHash ≠ (r.link 0).1 := fun row member => (free.others row member).2 0
  constructor
  · intro row member foreign
    have rows : r.initial.store.rows = r.store.rows ++ [_] := rows_insertOrIgnore_absent absent
    rw [rows] at member
    rcases Library.Slots.mem_snoc member with old | rfl
    · exact (free.others row old).2
    · exact absurd rfl foreign
  · have none : links r.store r.actorId.toStringRepr = [] := by
      unfold links own
      rw [List.filter_eq_nil_iff.mpr]
      · rfl
      · intro row member
        simpa using (free.others row member).1
    have inserted : links r.initial.store r.actorId.toStringRepr =
        links r.store r.actorId.toStringRepr ++ [r.link 0] := links_insertOrIgnore_absent absent
    rw [none] at inserted
    exact ⟨0, .inl inserted⟩

def returned : RotationOutcome → List UInt8 × Int64
  | .unchanged token expiresAt | .rotated token expiresAt => (token, expiresAt)

/-- A successful call has presented an unexpired token of the chain, and returns it or its successor. -/
inductive Renewed (r : Registration) (request : RenewalRequest) (store : RenewalStore) : RotationOutcome → Prop
  | unchanged {j : Nat} (token : request.token = (r.chain j).1) (unexpired : request.seconds.toInt64 < (r.chain j).2)
      (fresh : ¬ r.Due request) (stored : r.link j ∈ links store r.actorId.toStringRepr) :
      Renewed r request store (.unchanged (r.chain j).1 (r.chain j).2)
  | rotated {j : Nat} (token : request.token = (r.chain j).1) (unexpired : request.seconds.toInt64 < (r.chain j).2)
      (due : r.Due request) (stored : r.link (j + 1) ∈ links store r.actorId.toStringRepr)
      (later : request.seconds.toInt64 < (r.chain (j + 1)).2) :
      Renewed r request store (.rotated (r.chain (j + 1)).1 (r.chain (j + 1)).2)

theorem kept_rotate (free : r.CollisionFree) (short : r.config.rotationWindowSecs ≤ r.config.ttlSecs)
    (kept : Kept r s.store) (early : r.Early request.seconds)
    (ran : r.answer s.store request = .ok (outcome, store)) : Kept r store ∧ Renewed r request store outcome := by
  obtain ⟨row, found, result⟩ := rotate_ok ran
  obtain ⟨j, token, expiry, listed, unexpired⟩ := token_of_find free kept found
  rw [expiry, token] at result
  rcases result with ⟨remains, rfl, rfl⟩ | ⟨due, rfl, rfl⟩
  · refine ⟨kept, .unchanged token unexpired ?_ listed⟩
    rintro ⟨k, same, due⟩
    cases chain_injective free (token.symm.trans same)
    exact due remains
  · obtain ⟨two, spaced⟩ := window_rotated free kept early short listed unexpired due
    have later : request.seconds.toInt64 < (r.chain (j + 1)).2 := by
      rw [Int64.lt_iff_toInt_lt] at unexpired ⊢
      omega
    refine ⟨⟨others_rotated kept, j, .inr ⟨two, spaced⟩⟩, .rotated token unexpired ⟨j, token, due⟩ ?_ later⟩
    rw [two]
    exact List.mem_cons_of_mem _ List.mem_cons_self

def Reached (r : Registration) (s : RenewalState) : Prop :=
  ∃ requests : List RenewalRequest, (∀ request ∈ requests, r.Early request.seconds) ∧
    exec (r.config.step r.actorId) r.initial requests = some s

theorem kept_of_reached (free : r.CollisionFree) (short : r.config.rotationWindowSecs ≤ r.config.ttlSecs)
    (reached : Reached r s) : Kept r s.store := by
  obtain ⟨requests, early, run⟩ := reached
  let Inv (s : RenewalState) : Prop := Kept r s.store
  have preserved : ∀ s request t, Inv s → r.Early request.seconds →
      r.config.step r.actorId s request = some t → Inv t := by
    intro s request t kept early taken
    simp only [RenewalConfig.step] at taken
    split at taken
    · split at taken
      · next ran =>
        cases taken
        exact (kept_rotate free short kept early ran).1
      · cases taken
        exact kept
    · cases taken
  have start : Inv r.initial := kept_initial free
  exact exec_invariant_on preserved early start run

theorem accepted_again (renewed : Renewed r request store outcome) :
    ((r.config.crypto.hashToken (returned outcome).1, (returned outcome).2) ∈ links store r.actorId.toStringRepr) ∧
      ∃ again, r.answer store ⟨(returned outcome).1, request.seconds, none⟩ = .ok again := by
  cases renewed with
  | unchanged token unexpired fresh stored =>
    obtain ⟨row, found⟩ := find_of_links stored unexpired
    obtain ⟨outcome, t, ran⟩ := rotate_of_find found
    exact ⟨stored, _, ran⟩
  | rotated token unexpired due stored later =>
    obtain ⟨row, found⟩ := find_of_links stored later
    obtain ⟨outcome, t, ran⟩ := rotate_of_find found
    exact ⟨stored, _, ran⟩

theorem rotation_follows_chain (r : Registration) (free : r.CollisionFree)
    (short : r.config.rotationWindowSecs ≤ r.config.ttlSecs) :
    (∀ s, Reached r s → ∃ i, links s.store r.actorId.toStringRepr = [r.link i] ∨
      links s.store r.actorId.toStringRepr = [r.link i, r.link (i + 1)]) ∧
    (∀ (s : RenewalState) (request : RenewalRequest) (outcome : RotationOutcome) (store : RenewalStore),
      Reached r s → r.Early request.seconds → r.answer s.store request = .ok (outcome, store) →
      (∃ j, request.token = (r.chain j).1 ∧ request.seconds.toInt64 < (r.chain j).2) ∧
      ((∃ token expiresAt, outcome = .rotated token expiresAt) ↔ r.Due request) ∧
      ((r.config.crypto.hashToken (returned outcome).1, (returned outcome).2) ∈ links store r.actorId.toStringRepr) ∧
      ∃ again, r.answer store ⟨(returned outcome).1, request.seconds, none⟩ = .ok again) ∧
    (∀ (s s' : RenewalState) (request request' : RenewalRequest) (outcome outcome' : RotationOutcome)
      (store store' : RenewalStore), Reached r s → Reached r s' → r.Early request.seconds → r.Early request'.seconds →
      request.token = request'.token → r.Due request → r.Due request' →
      r.answer s.store request = .ok (outcome, store) → r.answer s'.store request' = .ok (outcome', store') →
      outcome = outcome') := by
  refine ⟨?_, ?_, ?_⟩
  · intro s reached
    obtain ⟨i, one | ⟨two, -⟩⟩ := (kept_of_reached free short reached).window
    · exact ⟨i, .inl one⟩
    · exact ⟨i, .inr two⟩
  · intro s request outcome store reached early ran
    have renewed := (kept_rotate free short (kept_of_reached free short reached) early ran).2
    refine ⟨?_, ?_, accepted_again renewed⟩
    · cases renewed with
      | unchanged token unexpired | rotated token unexpired => exact ⟨_, token, unexpired⟩
    · cases renewed with
      | unchanged _ _ fresh => exact ⟨nofun, fun due => absurd due fresh⟩
      | rotated _ _ due => exact ⟨fun _ => due, fun _ => ⟨_, _, rfl⟩⟩
  · intro s s' request request' outcome outcome' store store' reached reached' early early' same due due' ran ran'
    have renewed := (kept_rotate free short (kept_of_reached free short reached) early ran).2
    have renewed' := (kept_rotate free short (kept_of_reached free short reached') early' ran').2
    cases renewed with
    | unchanged _ _ fresh => exact absurd due fresh
    | rotated presented =>
      cases renewed' with
      | unchanged _ _ fresh => exact absurd due' fresh
      | rotated presented' =>
        rw [presented, presented'] at same
        cases chain_injective free same
        rfl

end Runs

section Instances

def plain (window ttl : UInt64) : Registration where
  config := ⟨⟨id, fun _ message => 0 :: message⟩, [], window, ttl⟩
  actorId := ⟨⟨1⟩, 7, ⟨"acme", "echo", "1.0.0"⟩⟩
  store := ⟨[], 1⟩
  token := [1]
  seconds := 1700000000

theorem plain_collisionFree (window ttl : UInt64) : (plain window ttl).CollisionFree where
  sha256 := Function.injective_id
  hmacSha256 _ _ same := List.tail_eq_of_cons_eq same
  first _ same := by cases same
  others row member := by cases member

theorem rotation_in_window_follows_chain :
    ∃ outcome store, (plain 5 10).answer (plain 5 10).initial.store ⟨[1], 1700000006, none⟩ = .ok (outcome, store) ∧
      outcome = .rotated ((plain 5 10).chain 1).1 1700000020 ∧
      ∃ again, (plain 5 10).answer store ⟨(returned outcome).1, 1700000006, none⟩ = .ok again := by
  have reached : Reached (plain 5 10) (plain 5 10).initial := ⟨[], nofun, rfl⟩
  have early : (plain 5 10).Early 1700000006 := by
    unfold Registration.Early
    decide
  have sound := rotation_follows_chain (plain 5 10) (plain_collisionFree 5 10) (by decide)
  refine ⟨_, _, rfl, rfl, ?_⟩
  exact (sound.2.1 _ ⟨[1], 1700000006, none⟩ _ _ reached early rfl).2.2.2

def endless : Registration := plain 4611686018427387904 4611686018427387904

theorem endless_trim (store : RenewalStore) (links : links store endless.actorId.toStringRepr = [endless.link 0]) :
    store.trimOldest endless.actorId.toStringRepr = store := by
  apply trimOldest_of_two
  rw [links]
  decide

-- The expiry of the successor wraps to the past, so the cleanup of the same transaction deletes its row.
theorem overflowing_rotation_returns_unstored_token :
    endless.CollisionFree ∧ endless.config.rotationWindowSecs ≤ endless.config.ttlSecs ∧
    ∃ outcome store, endless.answer endless.initial.store ⟨[1], 1700000000, none⟩ = .ok (outcome, store) ∧
      links store endless.actorId.toStringRepr = [endless.link 0] ∧
      (endless.config.crypto.hashToken (returned outcome).1, (returned outcome).2) = endless.link 1 ∧
      ¬ ∃ again, endless.answer store ⟨(returned outcome).1, 1700000000, none⟩ = .ok again := by
  refine ⟨plain_collisionFree _ _, by decide, _, _, rfl, ?_, rfl, ?_⟩
  · rw [endless_trim _ rfl]
    rfl
  · rw [endless_trim _ rfl]
    rintro ⟨⟨outcome, store⟩, ran⟩
    obtain ⟨row, found, -⟩ := rotate_ok ran
    cases found

end Instances

end Actr.Proof.Ais
