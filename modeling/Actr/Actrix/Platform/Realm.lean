import Actr.Actrix.Platform.Credential
import Actr.Library.Machine
import Actr.Library.Text

/-!
# Updates of a realm

The row of one realm in the table `realm`, with `rotate_realm_secret`, `verify_realm_secret` and `soft_delete`.
-/

namespace Actr.Actrix.Platform
open Library

def RealmStatus.fromStr : String → Option RealmStatus
  | "Active" => some .active
  | "Inactive" => some .inactive
  | "Suspended" => some .suspended
  | _ => none

structure Realm where
  name : String
  status : RealmStatus
  enabled : Bool
  expiresAt : Option UInt64
  updatedAt : Option UInt64
  secretCurrent : String
  secretPrevious : Option (String × UInt64)
  deriving DecidableEq, Repr

structure RealmRow where
  name : String
  status : String
  enabled : Int32
  expiresAt : Option Int64
  updatedAt : Option Int64
  secretCurrent : String
  secretPreviousHash : Option String
  secretPreviousValidUntil : Option Int64
  deriving DecidableEq, Repr

def Realm.fromRow (row : RealmRow) : Realm where
  name := row.name
  status := (RealmStatus.fromStr row.status).getD .active
  enabled := row.enabled ≠ 0
  expiresAt := row.expiresAt.map Int64.toUInt64
  updatedAt := row.updatedAt.map Int64.toUInt64
  secretCurrent := row.secretCurrent
  secretPrevious :=
    match row.secretPreviousHash, row.secretPreviousValidUntil with
    | some hash, some validUntil => if hash ≠ "" then some (hash, validUntil.toUInt64) else none
    | _, _ => none

def Realm.toRow (realm : Realm) (now : Int64) : RealmRow where
  name := realm.name
  status := realm.status.display
  enabled := if realm.enabled then 1 else 0
  expiresAt := realm.expiresAt.map UInt64.toInt64
  updatedAt := some now
  secretCurrent := realm.secretCurrent
  secretPreviousHash := realm.secretPrevious.map Prod.fst
  secretPreviousValidUntil := realm.secretPrevious.map fun previous => previous.2.toInt64

inductive RealmSecretCheck where
  | notConfigured
  | validCurrent
  | validPrevious
  | missingRequired
  | invalid
  deriving DecidableEq, Repr

def defaultRealmSecretPreviousGraceSecs : UInt64 := 4 * 3600

def saturatingAdd (a b : UInt64) : UInt64 := if a + b < a then -1 else a + b

def generateRealmSecret (bytes : Vector UInt8 24) : String := "rs_" ++ Text.urlSafeNoPad bytes.toList

section Secrets

variable (sha256 : List UInt8 → Vector UInt8 32)

def hashRealmSecret (secret : String) : String := Text.hexEncode (sha256 (Text.utf8 secret)).toList

def Realm.rotated (realm : Realm) (previousGraceSecs : Option UInt64) (now : UInt64) (newSecret : String) : Realm :=
  let graceSecs := previousGraceSecs.getD defaultRealmSecretPreviousGraceSecs
  let previousValidUntil := saturatingAdd now graceSecs
  { realm with
    secretPrevious := if realm.secretCurrent ≠ "" then some (realm.secretCurrent, previousValidUntil) else none
    secretCurrent := hashRealmSecret sha256 newSecret }

def Realm.softDeleted (realm : Realm) : Realm := { realm with enabled := false, status := .inactive }

def Realm.verifySecret (realm : Realm) (providedSecret : Option String) (now : UInt64) : RealmSecretCheck :=
  if realm.secretCurrent = "" then .notConfigured
  else
    match (providedSecret.map Text.trim).filter (fun provided => provided ≠ "") with
    | none => .missingRequired
    | some provided =>
      let providedHash := hashRealmSecret sha256 provided
      if providedHash = realm.secretCurrent then .validCurrent
      else
        match realm.secretPrevious with
        | some (previousHash, validUntil) =>
          if now ≤ validUntil ∧ providedHash = previousHash then .validPrevious else .invalid
        | none => .invalid

end Secrets

inductive RealmChange where
  | rotation (newSecret : String)
  | softDelete
  deriving DecidableEq, Repr

-- A call that has read the row. `seen` is the number of rotations that had returned then, and `deleted` says that a
-- `soft_delete` had.
structure RealmUpdate where
  change : RealmChange
  realm : Realm
  seen : Nat
  deleted : Bool
  saved : Bool
  deriving DecidableEq, Repr

structure RealmRotation where
  newSecret : String
  seen : Nat
  deriving DecidableEq, Repr

-- `returned` holds the rotations that have returned, in this order, and `deleted` says that a `soft_delete` has.
structure RealmTable where
  row : Option RealmRow
  updates : List RealmUpdate
  returned : List RealmRotation
  deleted : Bool
  deriving DecidableEq, Repr

namespace RealmTable

inductive Action where
  | rotate (previousGraceSecs : Option UInt64) (now : UInt64) (bytes : Vector UInt8 24)
  | softDelete
  | save (call : Nat) (now : Int64)
  | fail (call : Nat)
  | verify (providedSecret : Option String) (now : UInt64)
  deriving DecidableEq

def initial (row : Option RealmRow) : RealmTable := ⟨row, [], [], false⟩

def get (s : RealmTable) : Option Realm := s.row.map Realm.fromRow

def read (s : RealmTable) (change : RealmChange) (edit : Realm → Realm) : RealmTable :=
  match s.get with
  | none => s
  | some realm => { s with updates := s.updates ++ [⟨change, edit realm, s.returned.length, s.deleted, false⟩] }

def save (s : RealmTable) (call : Nat) (now : Int64) : Option RealmTable :=
  match s.updates[call]? with
  | some ⟨change, realm, seen, deleted, false⟩ =>
    let s := { s with
      row := s.row.map fun _ => realm.toRow now
      updates := s.updates.set call ⟨change, realm, seen, deleted, true⟩ }
    match change with
    | .rotation newSecret => some { s with returned := s.returned ++ [⟨newSecret, seen⟩] }
    | .softDelete => some { s with deleted := true }
  | _ => none

def fail (s : RealmTable) (call : Nat) : Option RealmTable :=
  match s.updates[call]? with
  | some ⟨change, realm, seen, deleted, false⟩ =>
    some { s with updates := s.updates.set call ⟨change, realm, seen, deleted, true⟩ }
  | _ => none

def step (sha256 : List UInt8 → Vector UInt8 32) (s : RealmTable) : Action → Option RealmTable
  | .rotate previousGraceSecs now bytes =>
    let newSecret := generateRealmSecret bytes
    some (s.read (.rotation newSecret) fun realm => realm.rotated sha256 previousGraceSecs now newSecret)
  | .softDelete => some (s.read .softDelete Realm.softDeleted)
  | .save call now => s.save call now
  | .fail call => s.fail call
  | .verify _ _ => some s

def verifyRealmSecret (sha256 : List UInt8 → Vector UInt8 32) (s : RealmTable) (providedSecret : Option String)
    (now : UInt64) : Option RealmSecretCheck :=
  s.get.map fun realm => realm.verifySecret sha256 providedSecret now

end RealmTable

end Actr.Actrix.Platform
