import Actr.Proof.Ais.AclPersistence

/-! # Which decisions the replacement of access rules keeps whole -/

namespace Actr.Proof.Ais
open Actrix.Ais Actrix.Platform Library.Machine Actr.Protocol Actr.Runtime
open AclPersistence (Action step start)

variable {actrId : ActrId} {acl : Acl} {old table : AclTable} {query : AclQuery}

theorem decision_saveRules_of_other (other : ¬ Concerns actrId query) (table : AclTable) (rules : List AclRule) :
    decision (saveRules actrId table rules) query = decision table query := by
  rw [decision_saveRules]
  cases last : lastNaming actrId query rules with
  | none => rfl
  | some => exact absurd (names_concerns (mem_of_lastNaming last).2) other

theorem decision_saveRules_denied {rules : List AclRule} (denied : decision table query = false)
    (denying : ∀ rule ∈ rules, names actrId query rule → rule.permission ≠ 1) :
    decision (saveRules actrId table rules) query = false := by
  rw [decision_saveRules]
  cases last : lastNaming actrId query rules with
  | none => exact denied
  | some rule =>
    obtain ⟨member, named⟩ := mem_of_lastNaming last
    simpa using denying rule member named

theorem stored_decision_of_other (other : ¬ Concerns actrId query) (stored : Stored actrId acl old table) :
    decision table query = decision old query := by
  obtain ⟨base, saved, origin, _, rfl⟩ := stored
  rw [decision_saveRules_of_other other]
  rcases origin with rfl | rfl
  · rfl
  · exact decision_cleared_of_other other old

theorem stored_decision_denied (concerns : Concerns actrId query) (denied : decision old query = false)
    (denying : ∀ rule ∈ acl.rules, names actrId query rule → rule.permission ≠ 1)
    (stored : Stored actrId acl old table) : decision table query = false := by
  obtain ⟨base, saved, origin, sublist, rfl⟩ := stored
  have baseDenied : decision base query = false := by
    rcases origin with rfl | rfl
    · exact denied
    · exact decision_cleared concerns old
  exact decision_saveRules_denied baseDenied fun rule member => denying rule (sublist.subset member)

theorem decision_append_naming {rule : AclRule} (named : names actrId query rule) (table : AclTable)
    (rules : List AclRule) : decision (saveRules actrId table (rules ++ [rule])) query = (rule.permission == 1) := by
  rw [decision_saveRules]
  have last : lastNaming actrId query (rules ++ [rule]) = some rule := by
    simp [lastNaming, List.filter_append, named]
  rw [last]
  rfl

theorem acl_replacement_atomic_iff (actrId : ActrId) (acl : Acl) (old : AclTable) (query : AclQuery) :
    ((∀ actions s, exec (step actrId acl) (start old) actions = some s →
      ActorAcl.canDiscover (.ok s.table) query = ActorAcl.canDiscover (.ok old) query ∨
        ActorAcl.canDiscover (.ok s.table) query = ActorAcl.canDiscover (.ok (replaced actrId acl old)) query) ↔
      (Concerns actrId query →
        ActorAcl.canDiscover (.ok old) query ≠ ActorAcl.canDiscover (.ok (replaced actrId acl old)) query ∨
        ActorAcl.canDiscover (.ok old) query = .ok false ∧
          ∀ rule ∈ acl.rules, names actrId query rule → rule.permission ≠ 1)) ∧
    ∀ actions s, exec (step actrId acl) (start old) actions = some s → s.phase = .responded →
      (∀ a ∈ actions, a.fails = false) →
        ActorAcl.canDiscover (.ok s.table) query = ActorAcl.canDiscover (.ok (replaced actrId acl old)) query := by
  refine ⟨?_, fun actions s run responded succeed => by rw [responded_replaced succeed run responded]⟩
  simp only [canDiscover_ok, Except.ok.injEq, ne_eq]
  constructor
  · intro whole concerns
    by_contra! torn
    obtain ⟨same, torn⟩ := torn
    rw [← same] at whole
    simp only [or_self] at whole
    have denied : decision old query = false := by
      rw [← whole _ _ (reaches_saved actrId acl old (List.nil_append acl.rules))]
      exact decision_cleared concerns old
    obtain ⟨rule, member, named, allows⟩ := torn denied
    obtain ⟨before, after, split⟩ := List.append_of_mem member
    have reached := reaches_saved actrId acl old (by rw [split, List.append_assoc]; rfl :
      (before ++ [rule]) ++ after = acl.rules)
    have decided := whole _ _ reached
    rw [decision_append_naming named, allows, denied] at decided
    cases decided
  · intro condition actions s run
    have stored := run_stored run
    by_cases concerns : Concerns actrId query
    · rcases condition concerns with differ | ⟨denied, denying⟩
      · cases decided : decision s.table query <;> cases before : decision old query <;>
          cases after : decision (replaced actrId acl old) query <;> simp_all
      · rw [stored_decision_denied concerns denied denying stored, denied]
        exact .inl rfl
    · exact .inl (stored_decision_of_other concerns stored)

def viewerQuery : AclQuery := ⟨7, 7, viewer.type.toStringRepr, worker.type.toStringRepr⟩

theorem replacement_shows_neither_rule_set : (ActorAcl.canDiscover (.ok .empty) viewerQuery = .ok false ∧
      ActorAcl.canDiscover (.ok (replaced worker ⟨[viewerRule 1, viewerRule 0]⟩ .empty)) viewerQuery = .ok false ∧
      (exec (step worker ⟨[viewerRule 1, viewerRule 0]⟩) (start .empty) [.delete false, .save false]).map
        (fun s => ActorAcl.canDiscover (.ok s.table) viewerQuery) = some (.ok true)) ∧
    (ActorAcl.canDiscover (.ok (replaced worker ⟨[viewerRule 1]⟩ .empty)) viewerQuery = .ok true ∧
      (exec (step worker ⟨[viewerRule 1]⟩) (start (replaced worker ⟨[viewerRule 1]⟩ .empty)) [.delete false]).map
        (fun s => ActorAcl.canDiscover (.ok s.table) viewerQuery) = some (.ok false)) ∧
    (exec (step worker ⟨[viewerRule 1]⟩) (start .empty) [.delete false, .save true, .respond]).map
      (fun s => (s.phase, ActorAcl.canDiscover (.ok s.table) viewerQuery)) = some (.responded, .ok false) := by
  decide

end Actr.Proof.Ais
