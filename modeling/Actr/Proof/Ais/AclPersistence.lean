import Actr.Actrix.Ais.AclPersistence
import Actr.Library.Machine

/-! # What readers see while access rules are replaced -/

namespace Actr.Proof.Ais
open Actrix.Ais Actrix.Platform Library.Machine Actr.Protocol Actr.Runtime
open AclPersistence (Action step start)

variable {actrId : ActrId} {query : AclQuery} {rule : AclRule}

def decision (table : AclTable) (query : AclQuery) : Bool :=
  ((table.rows.filter fun row => row.2.selected query).getLast?.map fun row => row.2.access).getD false

theorem canDiscover_ok (table : AclTable) (query : AclQuery) :
    ActorAcl.canDiscover (.ok table) query = .ok (decision table query) := by
  simp only [ActorAcl.canDiscover, ActorAcl.getByTypes, Except.map, decision]
  cases (table.rows.filter fun row => row.2.selected query).getLast? <;> rfl

@[simp] theorem decision_insert (table : AclTable) (row : AclRow) (query : AclQuery) :
    decision (table.insert row) query = if row.selected query then row.access else decision table query := by
  simp only [decision, AclTable.insert, List.filter_append, List.filter_singleton]
  cases row.selected query <;> simp

def Concerns (actrId : ActrId) (query : AclQuery) : Prop :=
  query.targetRealmId = actrId.realm.realmId ∧ query.toType = actrId.type.toStringRepr

def cleared (actrId : ActrId) (table : AclTable) : AclTable :=
  table.deleteByTarget actrId.realm.realmId actrId.type.toStringRepr

theorem decision_cleared (concerns : Concerns actrId query) (table : AclTable) :
    decision (cleared actrId table) query = false := by
  obtain ⟨sameRealm, sameType⟩ := concerns
  have none : ((cleared actrId table).rows.filter fun row => row.2.selected query) = [] := by
    simp only [cleared, AclTable.deleteByTarget, List.filter_filter, List.filter_eq_nil_iff, AclRow.selected]
    simp only [Bool.and_eq_true, decide_eq_true_eq]
    rintro row _ ⟨⟨targetRealm, _, _, targetType⟩, kept⟩
    exact kept ⟨targetRealm.trans sameRealm, targetType.trans sameType⟩
  rw [decision, none]
  rfl

theorem decision_cleared_of_other (other : ¬ Concerns actrId query) (table : AclTable) :
    decision (cleared actrId table) query = decision table query := by
  have same : ((cleared actrId table).rows.filter fun row => row.2.selected query) =
      table.rows.filter fun row => row.2.selected query := by
    simp only [cleared, AclTable.deleteByTarget, List.filter_filter]
    apply List.filter_congr
    intro row _
    by_cases selected : row.2.selected query
    · simp only [AclRow.selected, decide_eq_true_eq] at selected
      have kept : ¬ (row.2.realmId = actrId.realm.realmId ∧ row.2.toType = actrId.type.toStringRepr) := by
        rw [selected.1, selected.2.2.2]
        exact other
      simp [kept]
    · simp [selected]
  rw [decision, same, decision]

def names (actrId : ActrId) (query : AclQuery) (rule : AclRule) : Bool :=
  (actorAcl actrId rule).selected query

theorem names_iff : names actrId query rule ↔ Concerns actrId query ∧ rule.fromType.toStringRepr = query.fromType ∧
      sourceRealmId actrId.realm.realmId rule.sourceRealm = some query.sourceRealmId := by
  rw [names, AclRow.selected, decide_eq_true_eq, Concerns]
  simp only [actorAcl, ActorAcl.newWithSourceRealm]
  grind

theorem names_concerns (named : names actrId query rule) : Concerns actrId query :=
  (names_iff.mp named).1

def saveRules (actrId : ActrId) (table : AclTable) (rules : List AclRule) : AclTable :=
  rules.foldl (fun table rule => (table.save (actorAcl actrId rule)).1) table

def replaced (actrId : ActrId) (acl : Acl) (table : AclTable) : AclTable :=
  saveRules actrId (cleared actrId table) acl.rules

def lastNaming (actrId : ActrId) (query : AclQuery) (rules : List AclRule) : Option AclRule :=
  (rules.filter (names actrId query)).getLast?

theorem decision_save (actrId : ActrId) (table : AclTable) (rule : AclRule) (query : AclQuery) :
    decision (table.save (actorAcl actrId rule)).1 query =
      if names actrId query rule then rule.permission == 1 else decision table query :=
  decision_insert table _ query

theorem decision_saveRules (actrId : ActrId) (table : AclTable) (rules : List AclRule) (query : AclQuery) :
    decision (saveRules actrId table rules) query =
      ((lastNaming actrId query rules).map fun rule => rule.permission == 1).getD (decision table query) := by
  induction rules generalizing table with
  | nil => rfl
  | cons rule rules ih =>
    rw [saveRules, List.foldl_cons, ← saveRules, ih, decision_save]
    simp only [lastNaming]
    cases named : names actrId query rule with
    | false => simp [named]
    | true =>
      rw [List.filter_cons_of_pos named, List.getLast?_cons]
      cases (rules.filter (names actrId query)).getLast? <;> rfl

theorem mem_of_lastNaming {rules : List AclRule} (last : lastNaming actrId query rules = some rule) :
    rule ∈ rules ∧ names actrId query rule :=
  List.mem_filter.mp (List.mem_of_getLast? last)

section Runs

variable {actrId : ActrId} {acl : Acl} {old : AclTable} {s : AclPersistence} {actions : List Action}

-- Failed statements leave out rules, and a failed deletion leaves the earlier rules in place.
def Stored (actrId : ActrId) (acl : Acl) (old table : AclTable) : Prop :=
  ∃ base saved, (base = old ∨ base = cleared actrId old) ∧ saved.Sublist acl.rules ∧
    table = saveRules actrId base saved

theorem step_cases {t : AclPersistence} {a : Action} (action : step actrId acl s a = some t) :
    (∃ fails, a = .delete fails ∧ s.phase = .clearing ∧
      t = ⟨if fails then s.table else cleared actrId s.table, .saving acl.rules⟩) ∨
    (∃ fails rule rules, a = .save fails ∧ s.phase = .saving (rule :: rules) ∧
      t = ⟨if fails then s.table else (s.table.save (actorAcl actrId rule)).1, .saving rules⟩) ∨
    (a = .respond ∧ s.phase = .saving [] ∧ t = ⟨s.table, .responded⟩) ∨
    (a = .crash ∧ t = ⟨s.table, .crashed⟩) := by
  cases a with
  | delete fails =>
    simp only [step] at action
    split at action <;> cases action
    next phase => exact .inl ⟨fails, rfl, phase, rfl⟩
  | save fails =>
    simp only [step] at action
    split at action <;> cases action
    next rule rules phase => exact .inr (.inl ⟨fails, rule, rules, rfl, phase, rfl⟩)
  | respond =>
    simp only [step] at action
    split at action <;> cases action
    next phase => exact .inr (.inr (.inl ⟨rfl, phase, rfl⟩))
  | crash =>
    simp only [step] at action
    split at action <;> cases action
    all_goals exact .inr (.inr (.inr ⟨rfl, rfl⟩))

/-- The rules whose insertion succeeded. -/
def savedRules : List Action → List AclRule → List AclRule
  | .save fails :: actions, rule :: rules => if fails then savedRules actions rules else rule :: savedRules actions rules
  | _, _ => []

theorem exec_stopped {t : AclPersistence} (stopped : ∀ a, step actrId acl t a = none)
    (run : exec (step actrId acl) t actions = some s) : s = t := by
  cases actions with
  | nil => exact (Option.some.inj run).symm
  | cons a =>
    obtain ⟨_, taken, -⟩ := exec_cons.mp run
    rw [stopped a] at taken
    cases taken

theorem exec_saving {table : AclTable} {rules : List AclRule}
    (run : exec (step actrId acl) ⟨table, .saving rules⟩ actions = some s) :
    s.table = saveRules actrId table (savedRules actions rules) ∧ (savedRules actions rules).Sublist rules ∧
      (s.phase = .responded → (∀ a ∈ actions, a.fails = false) → savedRules actions rules = rules) := by
  induction actions generalizing table rules with
  | nil =>
    cases run
    exact ⟨rfl, List.nil_sublist _, nofun⟩
  | cons a actions ih =>
    obtain ⟨t, taken, rest⟩ := exec_cons.mp run
    obtain ⟨_, _, phase, _⟩ | ⟨fails, rule, rules, rfl, phase, rfl⟩ | ⟨rfl, phase, rfl⟩ | ⟨rfl, rfl⟩ := step_cases taken
    · cases phase
    · cases phase
      obtain ⟨saved, sublist, all⟩ := ih rest
      cases fails with
      | false =>
        exact ⟨saved, sublist.cons_cons rule, fun responded succeed =>
          congrArg (rule :: ·) (all responded fun a member => succeed a (.tail _ member))⟩
      | true => exact ⟨saved, sublist.cons rule, fun _ succeed => nomatch succeed _ (.head _)⟩
    · cases phase
      rw [exec_stopped (by rintro ⟨⟩ <;> rfl) rest]
      exact ⟨rfl, .slnil, fun _ _ => rfl⟩
    · rw [exec_stopped (by rintro ⟨⟩ <;> rfl) rest]
      exact ⟨rfl, List.nil_sublist _, nofun⟩

theorem run_saved (run : exec (step actrId acl) (start old) actions = some s) :
    (s.table = old ∧ s.phase ≠ .responded) ∨ ∃ fails rest, actions = .delete fails :: rest ∧
      s.table = saveRules actrId (if fails then old else cleared actrId old) (savedRules rest acl.rules) ∧
      (savedRules rest acl.rules).Sublist acl.rules ∧
      (s.phase = .responded → (∀ a ∈ rest, a.fails = false) → savedRules rest acl.rules = acl.rules) := by
  cases actions with
  | nil =>
    cases run
    exact .inl ⟨rfl, nofun⟩
  | cons a rest =>
    obtain ⟨t, taken, run⟩ := exec_cons.mp run
    obtain ⟨fails, rfl, -, rfl⟩ | ⟨_, _, _, -, phase, -⟩ | ⟨-, phase, -⟩ | ⟨-, rfl⟩ := step_cases taken
    · exact .inr ⟨fails, rest, rfl, exec_saving run⟩
    · cases phase
    · cases phase
    · rw [exec_stopped (by rintro ⟨⟩ <;> rfl) run]
      exact .inl ⟨rfl, nofun⟩

theorem run_stored (run : exec (step actrId acl) (start old) actions = some s) : Stored actrId acl old s.table := by
  obtain ⟨table, -⟩ | ⟨fails, rest, -, table, sublist, -⟩ := run_saved run
  · exact ⟨old, [], .inl rfl, List.nil_sublist _, table⟩
  · exact ⟨_, _, by cases fails <;> simp, sublist, table⟩

theorem responded_replaced (succeed : ∀ a ∈ actions, a.fails = false)
    (run : exec (step actrId acl) (start old) actions = some s) (responded : s.phase = .responded) :
    s.table = replaced actrId acl old := by
  obtain ⟨-, other⟩ | ⟨fails, rest, rfl, table, -, all⟩ := run_saved run
  · exact absurd responded other
  · cases succeed _ (.head _)
    rw [table, all responded fun a member => succeed a (.tail _ member)]
    rfl

end Runs

theorem exec_saves (actrId : ActrId) (acl : Acl) (table : AclTable) (saved rest : List AclRule) :
    exec (step actrId acl) ⟨table, .saving (saved ++ rest)⟩ (saved.map fun _ => .save false) =
      some ⟨saveRules actrId table saved, .saving rest⟩ := by
  induction saved generalizing table with
  | nil => rfl
  | cons rule saved ih => exact ih _

theorem reaches_saved (actrId : ActrId) (acl : Acl) (old : AclTable) {saved rest : List AclRule}
    (split : saved ++ rest = acl.rules) :
    exec (step actrId acl) (start old) (.delete false :: saved.map fun _ => .save false) =
      some ⟨saveRules actrId (cleared actrId old) saved, .saving rest⟩ := by
  rw [← exec_saves, split]
  rfl

def worker : ActrId := ⟨⟨7⟩, 1, ⟨"acme", "worker", "1.0.0"⟩⟩

def viewer : ActrId := ⟨⟨7⟩, 2, ⟨"acme", "viewer", "1.0.0"⟩⟩

def viewerRule (permission : Int) : AclRule := ⟨permission, viewer.type, some (.realmId 7)⟩

end Actr.Proof.Ais
