import Actr.Actrix.Platform.ActorAcl
import Actr.Runtime.Acl

/-!
# Storing the access rules of a registration

After a credential is issued, `register_actr` deletes the rows of the registered type and saves the rules of the
request one by one.
-/

namespace Actr.Actrix.Ais
open Protocol Actr.Runtime Platform

def sourceRealmId (realmId : Nat) : Option SourceRealm → Option Nat
  | some (.anyRealm _) => none
  | some (.realmId id) => some id
  | none => some realmId

def actorAcl (actrId : ActrId) (rule : AclRule) : ActorAcl :=
  .newWithSourceRealm actrId.realm.realmId (sourceRealmId actrId.realm.realmId rule.sourceRealm)
    rule.fromType.toStringRepr actrId.type.toStringRepr (rule.permission == 1)

inductive AclPhase where
  | clearing
  | saving (rules : List AclRule)
  | responded
  | crashed
  deriving DecidableEq, Repr

structure AclPersistence where
  table : AclTable
  phase : AclPhase

namespace AclPersistence

def start (table : AclTable) : AclPersistence := ⟨table, .clearing⟩

inductive Action where
  | delete (fails : Bool)
  | save (fails : Bool)
  | respond
  | crash
  deriving DecidableEq, Repr

def step (actrId : ActrId) (acl : Acl) (s : AclPersistence) : Action → Option AclPersistence
  | .delete fails =>
    match s.phase with
    | .clearing =>
      let table :=
        if fails then s.table else s.table.deleteByTarget actrId.realm.realmId actrId.type.toStringRepr
      some ⟨table, .saving acl.rules⟩
    | _ => none
  | .save fails =>
    match s.phase with
    | .saving (rule :: rules) =>
      let table := if fails then s.table else (s.table.save (actorAcl actrId rule)).1
      some ⟨table, .saving rules⟩
    | _ => none
  | .respond =>
    match s.phase with
    | .saving [] => some ⟨s.table, .responded⟩
    | _ => none
  | .crash =>
    match s.phase with
    | .clearing | .saving _ => some ⟨s.table, .crashed⟩
    | _ => none

def Action.fails : Action → Bool
  | .delete fails | .save fails => fails
  | _ => false

end AclPersistence

end Actr.Actrix.Ais
