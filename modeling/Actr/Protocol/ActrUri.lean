import Actr.Library.Checks
import Actr.Library.Text
import Mathlib.Algebra.Order.Ring.Nat

/-! # Actor URIs -/

namespace Actr.Protocol
open Library.Checks Library.Text

inductive ActrUriError where
  | invalidScheme (scheme : String)
  | missingAuthority
  | missingVersion
  | invalidAuthorityFormat (authority : String)
  | invalidRealmId (realm : String)
  deriving DecidableEq

structure ActrUri where
  realm : UInt32
  manufacturer : String
  name : String
  version : String
  deriving DecidableEq

namespace ActrUri

def start : String := "actr://"

def display (uri : ActrUri) : String :=
  start ++ toString uri.realm.toNat ++ ":" ++ uri.manufacturer ++ "+" ++ uri.name ++ "@" ++ uri.version

def fromStr (s : String) : Except ActrUriError ActrUri := do
  let withoutScheme ← okOr (s.toList.dropPrefix? start.toList)
    (.invalidScheme (.ofList (((splitOnce ':' s.toList).map Prod.fst).getD s.toList)))
  require (withoutScheme ≠ []) .missingAuthority
  let (authority, version) ← okOr (rsplitOnce '@' withoutScheme) .missingVersion
  let (realmStr, typePart) ← okOr (splitOnce ':' authority) (.invalidAuthorityFormat (.ofList authority))
  let realm ← (parseUnsigned (2 ^ 32) realmStr).mapError fun _ => .invalidRealmId (.ofList realmStr)
  let (manufacturer, name) ← okOr (splitOnce '+' typePart) (.invalidAuthorityFormat (.ofList authority))
  pure ⟨.ofNat realm, .ofList manufacturer, .ofList name, .ofList version⟩

end ActrUri

structure ActrUriBuilder where
  realm : Option UInt32
  manufacturer : Option String
  name : Option String
  version : String

def ActrUriBuilder.build (builder : ActrUriBuilder) : Except ActrUriError ActrUri := do
  let realm ← okOr builder.realm .missingAuthority
  let manufacturer ← okOr builder.manufacturer (.invalidAuthorityFormat "missing manufacturer")
  let name ← okOr builder.name (.invalidAuthorityFormat "missing name")
  require (builder.version ≠ "") (.invalidAuthorityFormat "missing version")
  pure ⟨realm, manufacturer, name, builder.version⟩

end Actr.Protocol
