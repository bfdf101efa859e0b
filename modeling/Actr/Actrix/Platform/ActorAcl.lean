import Mathlib.Data.List.Basic

/-!
# The table of access rules

The table `actoracl` and the statements on it.
-/

namespace Actr.Actrix.Platform

inductive RealmError where
  | databaseError (message : String)
  | validationError (message : String)
  | notFound
  | alreadyExists
  | keyExpired
  | keyNotExist
  | parseError (message : String)
  deriving DecidableEq, Repr

structure AclRow where
  realmId : Nat
  sourceRealmId : Option Nat
  fromType : String
  toType : String
  access : Bool
  deriving DecidableEq, Repr

structure ActorAcl extends AclRow where
  rowid : Option Nat
  deriving DecidableEq, Repr

structure AclTable where
  rows : List (Nat × AclRow)
  nextRowid : Nat
  ordered : rows.Pairwise fun earlier later => earlier.1 < later.1
  issued : ∀ row ∈ rows, row.1 < nextRowid

structure AclQuery where
  sourceRealmId : Nat
  targetRealmId : Nat
  fromType : String
  toType : String
  deriving DecidableEq, Repr

namespace AclTable

def empty : AclTable := ⟨[], 1, .nil, by simp⟩

def insert (table : AclTable) (row : AclRow) : AclTable where
  rows := table.rows ++ [(table.nextRowid, row)]
  nextRowid := table.nextRowid + 1
  ordered := by
    simp only [List.pairwise_append, List.pairwise_singleton, List.mem_singleton, forall_eq, true_and]
    exact ⟨table.ordered, table.issued⟩
  issued := by
    simp only [List.mem_append, List.mem_singleton]
    rintro row (stored | rfl)
    · exact Nat.lt_succ_of_lt (table.issued row stored)
    · exact Nat.lt_succ_self _

def replaceRow (rowid : Nat) (row : AclRow) (stored : Nat × AclRow) : Nat × AclRow :=
  (stored.1, if stored.1 = rowid then row else stored.2)

def update (table : AclTable) (rowid : Nat) (row : AclRow) : AclTable where
  rows := table.rows.map (replaceRow rowid row)
  nextRowid := table.nextRowid
  ordered := by
    rw [List.pairwise_map]
    exact table.ordered
  issued := by
    simp only [List.mem_map]
    rintro _ ⟨stored, member, rfl⟩
    exact table.issued stored member

def deleteByTarget (table : AclTable) (realmId : Nat) (toType : String) : AclTable where
  rows := table.rows.filter fun row => ¬ (row.2.realmId = realmId ∧ row.2.toType = toType)
  nextRowid := table.nextRowid
  ordered := table.ordered.filter _
  issued := fun row member => table.issued row (List.mem_of_mem_filter member)

def save (table : AclTable) (acl : ActorAcl) : AclTable × ActorAcl :=
  match acl.rowid with
  | some rowid => (table.update rowid acl.toAclRow, acl)
  | none => (table.insert acl.toAclRow, { acl with rowid := some table.nextRowid })

end AclTable

-- `NULL` equals no realm, so a row without a source realm is never selected.
def AclRow.selected (query : AclQuery) (row : AclRow) : Bool :=
  row.realmId = query.targetRealmId ∧ row.sourceRealmId = some query.sourceRealmId ∧
    row.fromType = query.fromType ∧ row.toType = query.toType

namespace ActorAcl

def newWithSourceRealm (realmId : Nat) (sourceRealmId : Option Nat) (fromType toType : String) (access : Bool) :
    ActorAcl :=
  { realmId, sourceRealmId, fromType, toType, access, rowid := none }

def fromRow (row : Nat × AclRow) : ActorAcl := { row.2 with rowid := some row.1 }

def getByTypes (database : Except RealmError AclTable) (query : AclQuery) : Except RealmError (Option ActorAcl) :=
  database.map fun table => (table.rows.filter fun row => row.2.selected query).getLast?.map fromRow

def canDiscover (database : Except RealmError AclTable) (query : AclQuery) : Except RealmError Bool :=
  match getByTypes database query with
  | .error error => .error error
  | .ok (some acl) => .ok acl.access
  | .ok none => .ok false

end ActorAcl

end Actr.Actrix.Platform
