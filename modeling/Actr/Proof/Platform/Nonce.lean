import Actr.Library.Slots
import Actr.Actrix.Platform.Nonce

/-! # Replays of nonces -/

namespace Actr.Proof.Platform
open Actrix.Platform Library.Machine NonceStore

variable {s t : NonceStore} {table : NonceTable} {nonce : String} {context : Option String} {ttlSecs : UInt64}
  {now currentTime : Int64} {action : Action} {actions : List Action}

def InForce (s : NonceStore) (nonce : String) (context : Option String) : Prop :=
  ∃ grant ∈ s.granted, grant.nonce = nonce ∧ grant.context = context ∧ s.clock < grant.expiresAt

def Stored (table : NonceTable) (grant : Granted) : Prop :=
  ∃ row ∈ table.rows, row.nonce = grant.nonce ∧ row.context = grant.context ∧ row.expiresAt = grant.expiresAt

structure Kept (s : NonceStore) : Prop where
  stored : ∀ grant ∈ s.granted, s.clock ≤ grant.expiresAt → Stored s.table grant
  granted : ∀ row ∈ s.table.rows, (⟨row.nonce, row.context, row.expiresAt⟩ : Granted) ∈ s.granted

theorem kept_init {clock : Int64} : Kept (init clock) where
  stored := nofun
  granted := nofun

theorem kept_pass {time : Int64} (kept : Kept s) (later : s.clock ≤ time) : Kept { s with clock := time } where
  stored grant listed unexpired := kept.stored grant listed (Int64.le_trans later unexpired)
  granted := kept.granted

theorem kept_set (kept : Kept s) {row : DbNonceEntry} :
    Kept { s with
      table := ⟨s.table.rows ++ [row], s.table.nextId + 1⟩
      granted := s.granted ++ [⟨row.nonce, row.context, row.expiresAt⟩] } := by
  constructor
  case stored =>
    intro grant listed unexpired
    rcases Library.Slots.mem_snoc listed with old | rfl
    · obtain ⟨found, member, same⟩ := kept.stored grant old unexpired
      exact ⟨found, List.mem_append_left _ member, same⟩
    · exact ⟨row, List.mem_append_right _ List.mem_cons_self, rfl, rfl, rfl⟩
  case granted =>
    intro other member
    rcases Library.Slots.mem_snoc member with old | rfl
    · exact List.mem_append_left _ (kept.granted other old)
    · exact List.mem_append_right _ List.mem_cons_self

theorem kept_cleanup (kept : Kept s) (past : currentTime ≤ s.clock) :
    Kept { s with table := s.table.cleanupExpired currentTime } := by
  constructor
  case stored =>
    intro grant listed unexpired
    obtain ⟨row, member, nonce, context, expiresAt⟩ := kept.stored grant listed unexpired
    refine ⟨row, List.mem_filter.mpr ⟨member, ?_⟩, nonce, context, expiresAt⟩
    rw [expiresAt]
    simpa using Int64.not_lt.mpr (Int64.le_trans past unexpired)
  case granted =>
    intro row member
    exact kept.granted row (List.mem_of_mem_filter member)

theorem kept_step (kept : Kept s) (taken : step s action = some t) : Kept t := by
  cases action with
  | pass =>
    obtain ⟨later, rfl⟩ := of_guard taken
    exact kept_pass kept later
  | set nonce context =>
    simp only [step, Option.ite_none_right_eq_some, NonceTable.set] at taken
    obtain ⟨-, taken⟩ := taken
    cases duplicate : s.table.violatesUnique nonce context with
    | true =>
      simp only [duplicate, if_true, Option.some.injEq] at taken
      subst taken
      exact kept
    | false =>
      simp only [duplicate, Bool.false_eq_true, if_false, Option.some.injEq] at taken
      subst taken
      exact kept_set kept
  | get | exist =>
    cases taken
    exact kept
  | cleanupExpired =>
    obtain ⟨past, rfl⟩ := of_guard taken
    exact kept_cleanup kept past

theorem set_fst : (table.set nonce context ttlSecs now).1 =
    if table.violatesUnique nonce context then .error .duplicateNonce else .ok () := by
  unfold NonceTable.set
  split
  · rfl
  · rfl

/-- What a replay guard answers: a nonce in force is turned down, and both lookups tell the same. -/
def Answers (s : NonceStore) : Action → NonceStore → Prop
  | .set nonce context ttlSecs now, _ =>
    InForce s nonce context → (s.table.set nonce context ttlSecs now).1 = .error .duplicateNonce
  | .get nonce context, _ | .exist nonce context, _ =>
    s.table.exist nonce context = (s.table.get nonce context s.clock).isSome
  | _, _ => True

/-- A nonce without context is not set while an unexpired row holds it, and no lookup finds an expired row. -/
def Guarded (s : NonceStore) : Action → NonceStore → Prop
  | .set nonce none _ _, _ =>
    ∀ row ∈ s.table.rows, row.nonce = nonce → row.context = none → row.expiresAt ≤ s.clock
  | .get nonce context, _ | .exist nonce context, _ =>
    ∀ row, s.table.find nonce context = some row → s.clock < row.expiresAt
  | _, _ => True

theorem inForce_iff (kept : Kept s) : InForce s nonce context ↔
      ∃ row ∈ s.table.rows, row.nonce = nonce ∧ row.context = context ∧ s.clock < row.expiresAt := by
  constructor
  · rintro ⟨grant, listed, rfl, rfl, unexpired⟩
    obtain ⟨row, member, sameNonce, sameContext, expiresAt⟩ := kept.stored grant listed (Int64.le_of_lt unexpired)
    exact ⟨row, member, sameNonce, sameContext, expiresAt ▸ unexpired⟩
  · rintro ⟨row, member, rfl, rfl, unexpired⟩
    exact ⟨_, kept.granted row member, rfl, rfl, unexpired⟩

theorem violatesUnique_of_inForce {context : String} (kept : Kept s) (force : InForce s nonce (some context)) :
    s.table.violatesUnique nonce (some context) = true := by
  obtain ⟨row, member, sameNonce, sameContext, -⟩ := (inForce_iff kept).mp force
  simp only [NonceTable.violatesUnique, List.any_eq_true, decide_eq_true_eq]
  exact ⟨row, member, sameNonce, sameContext⟩

theorem answers_set_iff (kept : Kept s) :
    Answers s (.set nonce context ttlSecs now) t ↔ Guarded s (.set nonce context ttlSecs now) t := by
  cases context with
  | some =>
    simp only [Answers, Guarded, iff_true]
    intro force
    rw [set_fst, violatesUnique_of_inForce kept force]
    rfl
  | none =>
    simp only [Answers, Guarded, inForce_iff kept, set_fst, NonceTable.violatesUnique, Bool.false_eq_true, if_false,
      reduceCtorEq, imp_false, not_exists, not_and, Int64.not_lt]

theorem exist_eq_get_iff :
    table.exist nonce context = (table.get nonce context now).isSome ↔
      ∀ row, table.find nonce context = some row → now < row.expiresAt := by
  unfold NonceTable.exist NonceTable.get
  cases table.find nonce context with
  | none => simp
  | some row =>
    by_cases late : row.expiresAt ≤ now
    · simp [late, Int64.not_lt.mpr late]
    · simp [late, Int64.not_le.mp late]

theorem answers_iff (kept : Kept s) : Answers s action t ↔ Guarded s action t := by
  cases action with
  | pass | cleanupExpired => exact Iff.rfl
  | set => exact answers_set_iff kept
  | get | exist => exact exist_eq_get_iff

theorem replays_rejected_iff {clock : Int64} :
    Along step Answers (init clock) actions ↔ Along step Guarded (init clock) actions := by
  apply along_iff kept_init
  · intro s action t kept taken
    exact answers_iff kept
  · intro s action t kept taken guarded
    exact kept_step kept taken

def twice : List Action := [.set "n" none 60 100, .set "n" none 60 100]

def lapsed : List Action := [.set "n" (some "ctx") 60 100, .pass 170, .get "n" (some "ctx")]

theorem nonce_without_context_is_replayed :
    (∃ s, exec step (init 100) twice = some s ∧ s.granted = [⟨"n", none, 160⟩, ⟨"n", none, 160⟩] ∧ s.clock = 100) ∧
      ¬ Along step Answers (init 100) twice ∧
      (∃ s, exec step (init 100) lapsed = some s ∧ s.table.exist "n" (some "ctx") = true ∧
        s.table.get "n" (some "ctx") s.clock = none) ∧ ¬ Along step Answers (init 100) lapsed := by
  refine ⟨⟨_, rfl, by decide, by decide⟩, ?_, ⟨_, rfl, by decide, by decide⟩, ?_⟩
  · intro along
    obtain ⟨-, along⟩ := along _ rfl
    obtain ⟨second, -⟩ := along _ rfl
    have rejected := second ⟨⟨"n", none, 160⟩, by decide, rfl, rfl, by decide⟩
    cases rejected
  · intro along
    obtain ⟨-, along⟩ := along _ rfl
    obtain ⟨-, along⟩ := along _ rfl
    obtain ⟨lookup, -⟩ := along _ rfl
    have unexpired := exist_eq_get_iff.mp lookup _ rfl
    revert unexpired
    decide

end Actr.Proof.Platform
