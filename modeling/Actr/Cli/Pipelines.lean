import Actr.Protocol.ActrId

/-! # Validation of a project and its dependencies -/

namespace Actr.Cli

open Protocol

structure ServiceRef where
  name : String
  fingerprint : String

structure Dependency where
  aliasName : String
  actrType : Option ActrType
  service : Option ServiceRef

structure DependencySpec where
  aliasName : String
  name : String
  actrType : Option ActrType
  fingerprint : Option String

structure ResolvedDependency where
  spec : DependencySpec
  fingerprint : String

structure ServiceInfo where
  name : String
  fingerprint : String
  actrType : ActrType

structure Fingerprint where
  algorithm : String
  value : String
  deriving DecidableEq

structure ConfigValidation where
  isValid : Bool
  errors : List String
  warnings : List String

structure DependencyValidation where
  dependency : String
  isAvailable : Bool
  error : Option String

structure Connectivity where
  isReachable : Bool
  error : Option String

structure NetworkValidation where
  isReachable : Bool
  error : Option String
  isApplicable : Bool

structure FingerprintValidation where
  dependency : String
  expected : Fingerprint
  actual : Option Fingerprint
  isValid : Bool
  error : Option String

inductive ConflictType where
  | versionConflict
  | fingerprintMismatch

structure ConflictReport where
  dependencyA : String
  dependencyB : String
  conflictType : ConflictType
  description : String

structure ValidationReport where
  isValid : Bool
  configValidation : ConfigValidation
  dependencyValidation : List DependencyValidation
  networkValidation : List NetworkValidation
  fingerprintValidation : List FingerprintValidation
  conflicts : List ConflictReport

/-- The components of the pipeline, as they answer during one run. -/
structure ValidationPipeline where
  validateConfig : Except String ConfigValidation
  loadConfig : Except String (List Dependency)
  getServiceDetails : String → Except String ServiceInfo
  checkServiceAvailability : String → Except String Bool
  batchCheck : List String → Except String (List Connectivity)

def DependencySpec.dependencyLookupKey (spec : DependencySpec) : String :=
  (spec.actrType.map ActrType.toStringRepr).getD spec.name

def resolveSpec (dependency : Dependency) : DependencySpec where
  aliasName := dependency.aliasName
  name := (dependency.service.map ServiceRef.name).getD dependency.aliasName
  actrType := dependency.actrType
  fingerprint := dependency.service.map ServiceRef.fingerprint

def ServiceInfo.isMatching (spec : DependencySpec) (info : ServiceInfo) : Bool :=
  info.name = spec.name || info.actrType.toStringRepr = spec.name || spec.actrType = some info.actrType

def resolveDependency (details : List ServiceInfo) (spec : DependencySpec) : ResolvedDependency where
  spec := spec
  fingerprint :=
    match details.find? (ServiceInfo.isMatching spec) with
    | some info => info.fingerprint
    | none => spec.fingerprint.getD ""

def conflict (a b : ResolvedDependency) : Option ConflictReport :=
  if a.spec.aliasName = b.spec.aliasName ∧ (a.spec.name ≠ b.spec.name ∨ a.fingerprint ≠ b.fingerprint) then
    some ⟨a.spec.aliasName, b.spec.aliasName, .versionConflict,
      "Dependency alias '" ++ a.spec.aliasName ++ "' is duplicated with different targets"⟩
  else if a.spec.name ≠ b.spec.name then none
  else if a.fingerprint ≠ "" ∧ b.fingerprint ≠ "" ∧ a.fingerprint ≠ b.fingerprint then
    some ⟨a.spec.name ++ " (" ++ a.spec.aliasName ++ ")", b.spec.name ++ " (" ++ b.spec.aliasName ++ ")",
      .fingerprintMismatch, "Dependency " ++ a.spec.name ++ " has conflicting fingerprints"⟩
  else none

def checkConflicts : List ResolvedDependency → List ConflictReport
  | [] => []
  | dep :: rest => rest.filterMap (conflict dep) ++ checkConflicts rest

def computeServiceFingerprint (service : ServiceInfo) : Fingerprint :=
  ⟨"sha256", service.fingerprint⟩

def verifyFingerprint (expected actual : Fingerprint) : Bool :=
  expected.algorithm = actual.algorithm && expected.value = actual.value

namespace ValidationPipeline

variable (pipeline : ValidationPipeline)

def serviceDetails (specs : List DependencySpec) : List ServiceInfo :=
  specs.filterMap fun spec => (pipeline.getServiceDetails spec.dependencyLookupKey).toOption

-- A key has one answer during a run, so the cache of the answers does not show.
def validateDependency (spec : DependencySpec) : DependencyValidation :=
  match pipeline.checkServiceAvailability spec.dependencyLookupKey with
  | .ok true => ⟨spec.aliasName, true, none⟩
  | .ok false =>
    ⟨spec.aliasName, false, some ("Service '" ++ spec.dependencyLookupKey ++ "' not found in registry")⟩
  | .error error => ⟨spec.aliasName, false, some error⟩

def networkValidation (result : Connectivity) : NetworkValidation :=
  if result.error.any (·.startsWith "Address resolution failed: Invalid address format") then
    ⟨result.isReachable, some "Network check skipped: no endpoint address available", false⟩
  else ⟨result.isReachable, result.error, true⟩

def validateNetworkConnectivity (deps : List ResolvedDependency) : Except String (List NetworkValidation) := do
  return (← pipeline.batchCheck (deps.map (·.spec.name))).map networkValidation

def validateFingerprint (dep : ResolvedDependency) : FingerprintValidation :=
  let expected : Fingerprint := ⟨"sha256", dep.spec.fingerprint.getD ""⟩
  if dep.fingerprint = "" then
    match pipeline.getServiceDetails dep.spec.dependencyLookupKey with
    | .ok info =>
      let computed := computeServiceFingerprint info
      ⟨dep.spec.aliasName, expected, some computed, expected.value = "" || verifyFingerprint expected computed, none⟩
    | .error error => ⟨dep.spec.aliasName, expected, none, false, some error⟩
  else ⟨dep.spec.aliasName, expected, none, true, none⟩

def validateProject : Except String ValidationReport := do
  let configValidation ← pipeline.validateConfig
  if configValidation.isValid then
    let specs := (← pipeline.loadConfig).map resolveSpec
    let resolved := specs.map (resolveDependency (pipeline.serviceDetails specs))
    let conflicts := checkConflicts resolved
    let dependencyValidation := specs.map pipeline.validateDependency
    let networkValidation ← pipeline.validateNetworkConnectivity resolved
    let fingerprintValidation := resolved.map pipeline.validateFingerprint
    let isValid := configValidation.isValid && dependencyValidation.all (·.isAvailable) &&
      networkValidation.all (fun result => !result.isApplicable || result.isReachable) &&
      fingerprintValidation.all (·.isValid) && conflicts.isEmpty
    return ⟨isValid, configValidation, dependencyValidation, networkValidation, fingerprintValidation, conflicts⟩
  else return ⟨false, configValidation, [], [], [], []⟩

end ValidationPipeline

end Actr.Cli
