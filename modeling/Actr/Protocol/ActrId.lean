import Mathlib.Data.List.Basic

/-! # Actor identities -/

namespace Actr.Protocol

structure ActrType where
  manufacturer : String
  name : String
  version : String
  deriving DecidableEq, Repr

def ActrType.toStringRepr (type : ActrType) : String :=
  type.manufacturer ++ ":" ++ type.name ++ ":" ++ type.version

structure Realm where
  realmId : Nat
  deriving DecidableEq, Repr

structure ActrId where
  realm : Realm
  serialNumber : Nat
  type : ActrType
  deriving DecidableEq, Repr

-- The serial number in lower-case hexadecimal, the realm in decimal.
def ActrId.toStringRepr (id : ActrId) : String :=
  String.ofList (Nat.toDigits 16 id.serialNumber) ++ "@" ++ toString id.realm.realmId ++ "/" ++
    id.type.toStringRepr

end Actr.Protocol
