import Actr.Config.Manifest

/-! # What a manifest inherits -/

namespace Actr.Proof.Config
open Actr.Config

variable {Value : Type} {fromFile : String → Except ConfigError (ManifestRawConfig Value)}
  {child parent : ManifestRawConfig Value} {ancestors : List (ManifestRawConfig Value)}

/-- The files of one edition from the parent of a manifest to the one that inherits nothing. -/
inductive Chain (fromFile : String → Except ConfigError (ManifestRawConfig Value)) :
    ManifestRawConfig Value → List (ManifestRawConfig Value) → Prop
  | root {child : ManifestRawConfig Value} : child.inherit = none → Chain fromFile child []
  | parent {child parent : ManifestRawConfig Value} {ancestors : List (ManifestRawConfig Value)} {path : String} :
    child.inherit = some path → fromFile path = .ok parent → parent.edition = child.edition →
      Chain fromFile parent ancestors → Chain fromFile child (parent :: ancestors)

/-- The manifests of `files`, nearest first, merged into one. -/
structure Merged (files : List (ManifestRawConfig Value)) (merged : ManifestRawConfig Value) : Prop where
  exports : merged.exports = files.reverse.flatMap (·.exports)
  dependencies : ∀ key, merged.dependencies.lookup key = files.findSome? (·.dependencies.lookup key)
  scripts : ∀ key, merged.scripts.lookup key = files.findSome? (·.scripts.lookup key)
  acl : merged.acl = files.findSome? (·.acl)
  binary : merged.binary = files.findSome? (·.binary)
  build : merged.build = files.findSome? (·.build)

theorem merged_root : Merged [child] child := by
  constructor <;> simp

theorem lookup_union {V : Type} (near far : AList fun _ : String => V) (key : String) :
    (near ∪ far).lookup key = (near.lookup key).or (far.lookup key) := by
  apply Option.ext
  intro value
  have := @AList.mem_lookup_union _ _ _ key value near far
  rw [← AList.lookup_eq_none] at this
  cases h : near.lookup key <;> simp_all

theorem nearest {V : Type} (entry : ManifestRawConfig Value → Option V) :
    (entry child).or (ancestors.findSome? entry) = (child :: ancestors).findSome? entry := by
  rw [List.findSome?_cons]
  cases entry child <;> rfl

theorem merged_child (rest : Merged ancestors parent) : Merged (child :: ancestors) (child.merge parent) where
  exports := by simp [ManifestRawConfig.merge, rest.exports]
  dependencies key := by
    rw [← nearest fun file => file.dependencies.lookup key, ← rest.dependencies]
    exact lookup_union child.dependencies parent.dependencies key
  scripts key := by
    rw [← nearest fun file => file.scripts.lookup key, ← rest.scripts]
    exact lookup_union child.scripts parent.scripts key
  acl := by rw [← nearest, ← rest.acl, ManifestRawConfig.merge]
  binary := by rw [← nearest, ← rest.binary, ManifestRawConfig.merge]
  build := by rw [← nearest, ← rest.build, ManifestRawConfig.merge]

/-- The references end: at a file without one, with one that cannot be read, or at a parent of another edition. -/
inductive Ends (fromFile : String → Except ConfigError (ManifestRawConfig Value)) : ManifestRawConfig Value → Prop
  | root {child : ManifestRawConfig Value} : child.inherit = none → Ends fromFile child
  | parent {child : ManifestRawConfig Value} {path : String} : child.inherit = some path →
    (∀ parent, fromFile path = .ok parent → parent.edition = child.edition → Ends fromFile parent) → Ends fromFile child

/-- The inheritance is read to an end, which is the merge of a chain of one edition, and an error without such a chain. -/
def Correct (fromFile : String → Except ConfigError (ManifestRawConfig Value)) (child : ManifestRawConfig Value) :
    Prop :=
  ∃ files outcome, processInheritance (mergeInheritance fromFile files) child = some outcome ∧
    (∀ ancestors, Chain fromFile child ancestors → ∃ merged, outcome = .ok merged ∧ Merged (child :: ancestors) merged) ∧
    ((∀ ancestors, ¬ Chain fromFile child ancestors) → ∃ error, outcome = .error error)

theorem processInheritance_parent {path : String} (inherits : child.inherit = some path)
    (read : fromFile path = .ok parent) (files : Nat) :
    processInheritance (mergeInheritance fromFile (files + 1)) child =
      if parent.edition ≠ child.edition then some (.error (.editionMismatch parent.edition child.edition))
      else (processInheritance (mergeInheritance fromFile files) parent).map fun merged => merged.map child.merge := by
  simp only [processInheritance, inherits, mergeInheritance, read]
  rfl

theorem ends_of_run {files : Nat} {outcome : Except ConfigError (ManifestRawConfig Value)}
    (run : processInheritance (mergeInheritance fromFile files) child = some outcome) : Ends fromFile child := by
  induction files generalizing child outcome with
  | zero =>
    cases inherits : child.inherit with
    | none => exact .root inherits
    | some path => simp [processInheritance, inherits, mergeInheritance] at run
  | succ files ih =>
    cases inherits : child.inherit with
    | none => exact .root inherits
    | some path =>
      refine .parent inherits fun parent read same => ?_
      rw [processInheritance_parent inherits read, if_neg (not_not.mpr same)] at run
      obtain ⟨merged, run, -⟩ := Option.map_eq_some_iff.mp run
      exact ih run

theorem refused {path : String} (inherits : child.inherit = some path)
    (unfit : ∀ parent, fromFile path = .ok parent → parent.edition ≠ child.edition) :
    ∃ error, processInheritance (mergeInheritance fromFile 1) child = some (.error error) := by
  cases read : fromFile path with
  | error error => exact ⟨error, by simp [processInheritance, inherits, mergeInheritance, read]⟩
  | ok parent => exact ⟨_, by rw [processInheritance_parent inherits read, if_pos (unfit parent read)]⟩

theorem correct_of_ends (ends : Ends fromFile child) : Correct fromFile child := by
  induction ends with
  | @root child last =>
    refine ⟨0, .ok child, by simp [processInheritance, last], ?_, fun endless => absurd (.root last) (endless [])⟩
    rintro _ (_ | ⟨inherits, _, _, _⟩)
    · exact ⟨child, rfl, merged_root⟩
    · cases last.symm.trans inherits
  | @parent child path inherits ends ih =>
    have above {ancestors} (chain : Chain fromFile child ancestors) : ∃ parent rest, fromFile path = .ok parent ∧
        parent.edition = child.edition ∧ ancestors = parent :: rest ∧ Chain fromFile parent rest := by
      rcases chain with last | ⟨inherits', read, same, chain⟩
      · cases last.symm.trans inherits
      · cases inherits.symm.trans inherits'
        exact ⟨_, _, read, same, rfl, chain⟩
    by_cases unfit : ∀ parent, fromFile path = .ok parent → parent.edition ≠ child.edition
    · obtain ⟨error, run⟩ := refused inherits unfit
      refine ⟨1, _, run, fun ancestors chain => ?_, fun _ => ⟨error, rfl⟩⟩
      obtain ⟨parent, _, read, same, -⟩ := above chain
      exact absurd same (unfit parent read)
    · push Not at unfit
      obtain ⟨parent, read, same⟩ := unfit
      obtain ⟨files, outcome, run, merges, fails⟩ := ih parent read same
      refine ⟨files + 1, outcome.map child.merge, ?_, fun ancestors chain => ?_, fun endless => ?_⟩
      · rw [processInheritance_parent inherits read, if_neg (not_not.mpr same), run]
        rfl
      · obtain ⟨_, rest, read', -, rfl, chain'⟩ := above chain
        cases read.symm.trans read'
        obtain ⟨merged, rfl, rest⟩ := merges rest chain'
        exact ⟨_, rfl, merged_child rest⟩
      · obtain ⟨error, rfl⟩ := fails fun rest chain => endless (parent :: rest) (.parent inherits read same chain)
        exact ⟨error, rfl⟩

theorem inheritance_correct_iff_ends (fromFile : String → Except ConfigError (ManifestRawConfig Value))
    (child : ManifestRawConfig Value) : Correct fromFile child ↔ Ends fromFile child :=
  ⟨fun ⟨_, _, run, _⟩ => ends_of_run run, correct_of_ends⟩

def base : ManifestRawConfig String :=
  ⟨1, none, none, "base", ["base.proto"], AList.singleton "log" "1.0", some "allow", ∅, none, none⟩

def app : ManifestRawConfig String :=
  ⟨1, some "base.toml", none, "app", ["app.proto"], AList.singleton "log" "2.0", none, ∅, none, none⟩

theorem app_inherits_base : ∃ files merged,
    processInheritance (mergeInheritance (fun _ => .ok base) files) app = some (.ok merged) ∧
      merged.exports = ["base.proto", "app.proto"] ∧ merged.dependencies.lookup "log" = some "2.0" ∧
      merged.acl = some "allow" := by
  obtain ⟨files, outcome, run, merges, -⟩ :=
    (inheritance_correct_iff_ends (fun _ => .ok base) app).mpr (.parent rfl fun | _, rfl, _ => .root rfl)
  obtain ⟨merged, rfl, nearest⟩ := merges [base] (.parent rfl rfl rfl (.root rfl))
  exact ⟨files, merged, run, nearest.exports, nearest.dependencies "log", nearest.acl⟩

/-- A manifest that names `path` as its parent. -/
def inheriting (path : Option String) : ManifestRawConfig Unit := ⟨1, path, none, (), [], ∅, none, ∅, none, none⟩

theorem self_inheritance_never_ends : ¬∃ files outcome, processInheritance
    (mergeInheritance (fun _ => .ok (inheriting (some "manifest.toml"))) files) (inheriting (some "manifest.toml")) =
      some outcome := by
  rintro ⟨files, outcome, ends⟩
  induction files generalizing outcome with
  | zero => cases ends
  | succ files ih =>
    obtain ⟨parent, ends, -⟩ := Option.map_eq_some_iff.mp ends
    exact ih parent ends

end Actr.Proof.Config
