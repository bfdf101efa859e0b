import Actr.Actrix.Platform.Realm
import Mathlib.Algebra.Ring.Nat

/-!
# Creation of a realm

The table `realm` with the statements of `Realm::create`, `save` and `delete`, and `create_local_realm_internal`. The
error of a statement that fails is given; such a statement changes nothing.
-/

namespace Actr.Actrix.Platform

structure StoredRealm where
  id : Nat
  createdAt : Int64
  row : RealmRow
  deriving DecidableEq, Repr

-- `seq` is the entry of the table in `sqlite_sequence`.
structure RealmStore where
  rows : List StoredRealm
  seq : Nat
  deriving DecidableEq, Repr

namespace RealmStore

def nextId (s : RealmStore) : Nat := s.rows.foldr (fun stored top => max stored.id top) s.seq + 1

def create (s : RealmStore) (name secretHash : String) (now : Int64) (failure : Option String) :
    Except String (RealmStore × Nat × Realm) :=
  match failure with
  | some err => .error err
  | none =>
    let rowid := s.nextId
    let row : RealmRow := ⟨name, "Active", 1, none, none, secretHash, none, none⟩
    -- `last_insert_rowid() as u32`
    .ok (⟨s.rows ++ [⟨rowid, now, row⟩], rowid⟩, rowid % 2 ^ 32, ⟨name, .active, true, none, none, secretHash, none⟩)

def save (s : RealmStore) (id : Nat) (realm : Realm) (now : Int64) (failure : Option String) :
    Except String RealmStore :=
  match failure with
  | some err => .error err
  | none =>
    let rows := s.rows.map fun stored =>
      if stored.id = id then { stored with row := realm.toRow now } else stored
    .ok { s with rows }

def delete (s : RealmStore) (id : Nat) : RealmStore :=
  { s with rows := s.rows.filter fun stored => stored.id ≠ id }

end RealmStore

def parseRealmStatus (value : String) : Except String RealmStatus :=
  match RealmStatus.fromStr value with
  | some status => .ok status
  | none => .error ("Invalid realm status '" ++ value ++ "' (expected Active, Inactive, Suspended)")

structure CreateRealmRequest where
  name : String
  enabled : Bool
  expiresAt : UInt64
  status : Option String
  deriving DecidableEq, Repr

structure CreateRealmResponse where
  success : Bool
  errorMessage : Option String
  realm : Option (Nat × Realm)
  deriving DecidableEq, Repr

/-- The optional fields of the request. -/
def CreateRealmRequest.apply (req : CreateRealmRequest) (realm : Realm) : Except String Realm :=
  let realm := { realm with enabled := req.enabled }
  let realm := if req.expiresAt > 0 then { realm with expiresAt := some req.expiresAt } else realm
  match req.status with
  | some status => (parseRealmStatus status).map fun status => { realm with status }
  | none => .ok realm

def createLocalRealmInternal (sha256 : List UInt8 → Vector UInt8 32) (s : RealmStore) (req : CreateRealmRequest)
    (exposePlainSecret : Bool) (bytes : Vector UInt8 24) (now later : Int64) (createFailure saveFailure : Option String) :
    RealmStore × CreateRealmResponse × Option String :=
  let plainSecret := generateRealmSecret bytes
  let secretHash := hashRealmSecret sha256 plainSecret
  match s.create req.name secretHash now createFailure with
  | .error err => (s, ⟨false, some ("Failed to create realm: " ++ err), none⟩, none)
  | .ok (s, id, realm) =>
    match req.apply realm with
    | .error err => (s, ⟨false, some err, none⟩, none)
    | .ok realm =>
      match s.save id realm later saveFailure with
      | .error err => (s.delete id, ⟨false, some ("Failed to save realm settings: " ++ err), none⟩, none)
      | .ok s =>
        let realm := { realm with updatedAt := some later.toUInt64 }
        (s, ⟨true, none, some (id, realm)⟩, if exposePlainSecret then some plainSecret else none)

end Actr.Actrix.Platform
