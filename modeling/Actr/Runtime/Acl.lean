import Actr.Protocol.ActrId

/-! # Access control lists -/

namespace Actr.Runtime
open Protocol

inductive SourceRealm where
  | anyRealm (any : Bool)
  | realmId (id : Nat)
  deriving DecidableEq, Repr

-- `permission` is the raw number of the wire; 1 is `ALLOW`.
structure AclRule where
  permission : Int
  fromType : ActrType
  sourceRealm : Option SourceRealm
  deriving DecidableEq, Repr

structure Acl where
  rules : List AclRule
  deriving DecidableEq, Repr

def matchesRule (caller : ActrId) (rule : AclRule) : Bool :=
  if caller.type ≠ rule.fromType then false
  else
    match rule.sourceRealm with
    | none | some (.anyRealm _) => true
    | some (.realmId id) => caller.realm.realmId == id

def evaluateRules (caller : ActrId) : Bool → List AclRule → Bool
  | anyAllow, [] => anyAllow
  | anyAllow, rule :: rules =>
    if !matchesRule caller rule then evaluateRules caller anyAllow rules
    else if rule.permission ≠ 1 then false
    else evaluateRules caller true rules

def checkAclPermission (callerId : Option ActrId) (_targetId : ActrId) (acl : Option Acl) : Except String Bool :=
  match callerId with
  | none => .ok true
  | some caller =>
    match acl with
    | none => .ok true
    | some acl => if acl.rules.isEmpty then .ok false else .ok (evaluateRules caller false acl.rules)

end Actr.Runtime
