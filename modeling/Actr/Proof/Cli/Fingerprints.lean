import Actr.Cli.Pipelines
import Actr.Library.Checks

/-! # The fingerprints behind a valid report -/

namespace Actr.Proof.Cli

open Actr.Cli Library

section Discovery

variable (discovery : String → Except String ServiceInfo) (specs : List DependencySpec)

/-- The service behind the lookup key of the dependency publishes the expected fingerprint. -/
def Published (spec : DependencySpec) : Prop :=
  ∀ expected ∈ spec.fingerprint, expected ≠ "" →
    ∃ info, discovery spec.dependencyLookupKey = .ok info ∧ info.fingerprint = expected

/-- The fingerprint of the first answer that matches the dependency by any of its keys, or else the expected one. -/
def seen (spec : DependencySpec) : String :=
  match (specs.filterMap fun other => (discovery other.dependencyLookupKey).toOption).find?
    (ServiceInfo.isMatching spec) with
  | some info => info.fingerprint
  | none => spec.fingerprint.getD ""

/-- Nothing is seen, and the lookup key finds no service, or one with another fingerprint than expected. -/
def Refused (spec : DependencySpec) : Prop :=
  seen discovery specs spec = "" ∧ ∀ info, discovery spec.dependencyLookupKey = .ok info →
    ∃ expected ∈ spec.fingerprint, expected ≠ "" ∧ expected ≠ info.fingerprint

def Conflicting (a b : ResolvedDependency) : Prop :=
  (a.spec.aliasName = b.spec.aliasName ∧ (a.spec.name ≠ b.spec.name ∨ a.fingerprint ≠ b.fingerprint)) ∨
    (a.spec.name = b.spec.name ∧ a.fingerprint ≠ "" ∧ b.fingerprint ≠ "" ∧ a.fingerprint ≠ b.fingerprint)

/-- What a valid report asks of the answers. -/
def Passes : Prop :=
  (∀ spec ∈ specs, ¬ Refused discovery specs spec) ∧
    specs.Pairwise fun a b => ¬ Conflicting ⟨a, seen discovery specs a⟩ ⟨b, seen discovery specs b⟩

end Discovery

variable {pipeline : ValidationPipeline} {specs : List DependencySpec}

theorem validateFingerprint_iff (spec : DependencySpec) :
    (pipeline.validateFingerprint ⟨spec, seen pipeline.getServiceDetails specs spec⟩).isValid = true ↔
      ¬ Refused pipeline.getServiceDetails specs spec := by
  rw [ValidationPipeline.validateFingerprint, Refused]
  by_cases compared : seen pipeline.getServiceDetails specs spec = ""
  · cases answer : pipeline.getServiceDetails spec.dependencyLookupKey with
    | error => simp [compared]
    | ok info =>
      cases given : spec.fingerprint with
      | none => simp [compared]
      | some expected =>
        by_cases same : expected = info.fingerprint
        all_goals simp [compared, verifyFingerprint, computeServiceFingerprint, same]
  · simp [compared]

theorem conflict_iff {a b : ResolvedDependency} : conflict a b = none ↔ ¬ Conflicting a b := by
  unfold conflict Conflicting
  grind

theorem checkConflicts_iff {resolved : List ResolvedDependency} :
    checkConflicts resolved = [] ↔ resolved.Pairwise fun a b => ¬ Conflicting a b := by
  induction resolved with
  | nil => simp [checkConflicts]
  | cons dep rest ih => simp [checkConflicts, ih, conflict_iff]

theorem passes_iff : Passes pipeline.getServiceDetails specs ↔
    ((specs.map (resolveDependency (pipeline.serviceDetails specs))).map pipeline.validateFingerprint).all
        (·.isValid) = true ∧
      (checkConflicts (specs.map (resolveDependency (pipeline.serviceDetails specs)))).isEmpty = true := by
  have resolved : resolveDependency (pipeline.serviceDetails specs) =
    fun spec => ⟨spec, seen pipeline.getServiceDetails specs spec⟩ := rfl
  simp only [resolved, List.isEmpty_iff, checkConflicts_iff, List.pairwise_map, List.all_map, List.all_eq_true,
    Function.comp, validateFingerprint_iff, Passes]

theorem passes_of_valid {dependencies : List Dependency} {report : ValidationReport}
    (loaded : pipeline.loadConfig = .ok dependencies) (run : pipeline.validateProject = .ok report)
    (valid : report.isValid = true) : Passes pipeline.getServiceDetails (dependencies.map resolveSpec) := by
  simp only [ValidationPipeline.validateProject, loaded, Checks.bind_eq_ok] at run
  obtain ⟨config, -, run⟩ := run
  split at run
  · obtain ⟨_, same, run⟩ := Checks.bind_eq_ok.mp run
    obtain ⟨network, -, run⟩ := Checks.bind_eq_ok.mp run
    cases same
    cases run
    simp only [Bool.and_eq_true] at valid
    exact passes_iff.mpr ⟨valid.1.2, valid.2⟩
  · cases run
    exact absurd valid Bool.false_ne_true

/-- A project whose services all answer and can be reached. -/
def obliging (dependencies : List Dependency) (discovery : String → Except String ServiceInfo) :
    ValidationPipeline where
  validateConfig := .ok ⟨true, [], []⟩
  loadConfig := .ok dependencies
  getServiceDetails := discovery
  checkServiceAvailability _ := .ok true
  batchCheck _ := .ok []

theorem obliging_valid {dependencies : List Dependency} {discovery : String → Except String ServiceInfo}
    (passes : Passes discovery (dependencies.map resolveSpec)) :
    ∃ report, (obliging dependencies discovery).validateProject = .ok report ∧ report.isValid = true := by
  obtain ⟨fingerprints, conflicts⟩ := (@passes_iff (obliging dependencies discovery) _).mp passes
  refine ⟨_, rfl, ?_⟩
  rw [fingerprints, conflicts]
  simp [ValidationPipeline.validateDependency, obliging]

def mismatched : Dependency := ⟨"a", none, some ⟨"echo", "A"⟩⟩

def mismatching : ValidationPipeline := obliging [mismatched] fun key => .ok ⟨key, "B", ⟨"m", "e", "1"⟩⟩

end Actr.Proof.Cli
