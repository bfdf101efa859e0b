import Mathlib.Data.List.AList

/-!
# Inheritance of manifests

`merge_inheritance` and the first step of `parse_manifest`. What is only taken over as a whole is of any type, and
reading the file at a path joined to `base_dir` is given.
-/

namespace Actr.Config

structure ManifestRawConfig (Value : Type) where
  edition : UInt32
  inherit : Option String
  configDir : Option String
  package : Value
  exports : List String
  dependencies : AList fun _ : String => Value
  acl : Option Value
  scripts : AList fun _ : String => String
  binary : Option Value
  build : Option Value

inductive ConfigError where
  | editionMismatch (parent child : UInt32)
  | fromFile (message : String)
  deriving DecidableEq, Repr

variable {Value : Type}

/-- The merged manifest, of a parent that has been merged with its own. -/
def ManifestRawConfig.merge (child parent : ManifestRawConfig Value) : ManifestRawConfig Value where
  edition := child.edition
  inherit := none
  configDir := child.configDir
  package := child.package
  exports := parent.exports ++ child.exports
  -- `extend` writes the child's entries over the parent's
  dependencies := child.dependencies ∪ parent.dependencies
  acl := child.acl.or parent.acl
  scripts := child.scripts ∪ parent.scripts
  binary := child.binary.or parent.binary
  build := child.build.or parent.build

abbrev Inherited (Value : Type) := Option (Except ConfigError (ManifestRawConfig Value))

def processInheritance (mergeInheritance : ManifestRawConfig Value → String → Inherited Value)
    (raw : ManifestRawConfig Value) : Inherited Value :=
  match raw.inherit with
  | some parentPath => mergeInheritance { raw with inherit := none } parentPath
  | none => some (.ok raw)

/-- With the number of files that may still be read, and `none` when they are not enough. -/
def mergeInheritance (fromFile : String → Except ConfigError (ManifestRawConfig Value)) :
    Nat → ManifestRawConfig Value → String → Inherited Value
  | 0, _, _ => none
  | files + 1, child, parentPath =>
    match fromFile parentPath with
    | .error err => some (.error err)
    | .ok parent =>
      if parent.edition ≠ child.edition then some (.error (.editionMismatch parent.edition child.edition))
      else (processInheritance (mergeInheritance fromFile files) parent).map fun merged => merged.map child.merge

end Actr.Config
