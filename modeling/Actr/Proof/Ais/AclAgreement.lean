import Actr.Proof.Ais.AclPersistence

/-! # The decisions of the signaling server and of the runtime -/

namespace Actr.Proof.Ais
open Actrix.Ais Actrix.Platform Library.Machine Actr.Protocol Actr.Runtime
open AclPersistence (Action step start)

variable {actrId caller : ActrId} {acl : Acl} {old : AclTable}

def callerQuery (actrId caller : ActrId) : AclQuery :=
  ⟨caller.realm.realmId, actrId.realm.realmId, caller.type.toStringRepr, actrId.type.toStringRepr⟩

/-- The runtime allows a caller that some rule matches and that no matching rule denies. -/
def MatchingAllow (acl : Acl) (caller : ActrId) : Prop :=
  (∃ rule ∈ acl.rules, matchesRule caller rule) ∧
    ∀ rule ∈ acl.rules, matchesRule caller rule → rule.permission = 1

theorem evaluateRules_iff (caller : ActrId) (anyAllow : Bool) (rules : List AclRule) :
    evaluateRules caller anyAllow rules ↔
      (anyAllow ∨ ∃ rule ∈ rules, matchesRule caller rule) ∧
        ∀ rule ∈ rules, matchesRule caller rule → rule.permission = 1 := by
  induction rules generalizing anyAllow with
  | nil => simp [evaluateRules]
  | cons rule rules ih =>
    rw [evaluateRules]
    cases matching : matchesRule caller rule with
    | false => simp [ih, matching]
    | true =>
      by_cases allows : rule.permission = 1
      · simp [ih, matching, allows]
      · simp [matching, allows]

theorem checkAclPermission_iff (caller target : ActrId) (acl : Acl) :
    ∃ allowed, checkAclPermission (some caller) target (some acl) = .ok allowed ∧
      (allowed ↔ MatchingAllow acl caller) := by
  simp only [checkAclPermission]
  cases empty : acl.rules.isEmpty with
  | true =>
    refine ⟨false, rfl, ?_⟩
    simp [MatchingAllow, List.isEmpty_iff.mp empty]
  | false =>
    refine ⟨evaluateRules caller false acl.rules, rfl, ?_⟩
    rw [evaluateRules_iff, MatchingAllow]
    simp

/-- `saved` are the rules whose insertion succeeded, and `standing` says that rows of an earlier registration are left
and allow the caller. -/
def Harmonious (actrId caller : ActrId) (rules saved : List AclRule) (standing : Prop) : Prop :=
  -- a matching rule denies
  (∀ rule ∈ rules, matchesRule caller rule → rule.permission ≠ 1 →
    (∀ last, lastNaming actrId (callerQuery actrId caller) saved = some last → last.permission ≠ 1) ∧
    (standing → ∃ rule ∈ saved, names actrId (callerQuery actrId caller) rule)) ∧
  -- all matching rules allow
  ((∃ rule ∈ rules, matchesRule caller rule) → (∀ rule ∈ rules, matchesRule caller rule → rule.permission = 1) →
    (∃ rule ∈ saved, names actrId (callerQuery actrId caller) rule) ∨ standing) ∧
  -- no rule matches
  ((∀ rule ∈ rules, ¬ matchesRule caller rule) → ¬ standing)

theorem matchesRule_of_names {rule : AclRule}
    (typed : rule.fromType.toStringRepr = caller.type.toStringRepr → rule.fromType = caller.type)
    (named : names actrId (callerQuery actrId caller) rule) : matchesRule caller rule := by
  obtain ⟨-, type, realm⟩ := names_iff.mp named
  rw [matchesRule, if_neg (not_not.mpr (typed type).symm)]
  cases source : rule.sourceRealm with
  | none => rfl
  | some source' =>
    cases source' with
    | anyRealm => rfl
    | realmId id =>
      rw [source] at realm
      cases realm
      exact beq_self_eq_true _

theorem harmonious_iff {saved : List AclRule} {base : AclTable} (sublist : saved.Sublist acl.rules)
    (typed : ∀ rule ∈ acl.rules, rule.fromType.toStringRepr = caller.type.toStringRepr → rule.fromType = caller.type) :
    (decision (saveRules actrId base saved) (callerQuery actrId caller) ↔ MatchingAllow acl caller) ↔
      Harmonious actrId caller acl.rules saved (decision base (callerQuery actrId caller)) := by
  rw [decision_saveRules, MatchingAllow, Harmonious]
  cases last : lastNaming actrId (callerQuery actrId caller) saved with
  | some rule =>
    obtain ⟨member, named⟩ := mem_of_lastNaming last
    have matching := matchesRule_of_names (typed rule (sublist.subset member)) named
    grind
  | none =>
    have unnamed : ¬ ∃ rule ∈ saved, names actrId (callerQuery actrId caller) rule := by
      simpa [lastNaming] using last
    simp only [unnamed, Option.map_none, Option.getD_none, reduceCtorEq, false_implies, implies_true, true_and, false_or]
    constructor
    · intro agree
      refine ⟨fun rule member matching denies standing => denies ((agree.mp standing).2 rule member matching),
        fun some all => agree.mpr ⟨some, all⟩, fun none standing => ?_⟩
      obtain ⟨⟨rule, member, matching⟩, -⟩ := agree.mp standing
      exact none rule member matching
    · rintro ⟨denied, allowed, unmatched⟩
      refine ⟨fun standing => ⟨?_, fun rule member matching => ?_⟩, fun allow => allowed allow.1 allow.2⟩
      · by_contra none
        exact unmatched (fun rule member matching => none ⟨rule, member, matching⟩) standing
      · by_contra denies
        exact denied rule member matching denies standing

def decisions (acl : Acl) (caller : ActrId) : Option (Option Bool × Option Bool) :=
  (exec (step worker acl) (start .empty) (.delete false :: acl.rules.map (fun _ => .save false) ++ [.respond])).map
    fun s => ((ActorAcl.canDiscover (.ok s.table) (callerQuery worker caller)).toOption,
      (checkAclPermission (some caller) worker (some acl)).toOption)

end Actr.Proof.Ais
