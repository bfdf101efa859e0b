import Actr.Actrix.Platform.ActorAcl

/-!
# Realm and credential checks

The rows that the realm table and the key cache answer, the clock, Ed25519 and the decoding of claims are parameters
of the checks.
-/

namespace Actr.Actrix.Platform

def RealmError.display : RealmError → String
  | .databaseError message => "Database error: " ++ message
  | .validationError message => "Validation error: " ++ message
  | .notFound => "Realm not found"
  | .alreadyExists => "Realm already exists"
  | .keyExpired => "Key expired"
  | .keyNotExist => "Key does not exist"
  | .parseError message => "Parse error: " ++ message

inductive RealmStatus where
  | active
  | inactive
  | suspended
  deriving DecidableEq, Repr

def RealmStatus.display : RealmStatus → String
  | .active => "Active"
  | .inactive => "Inactive"
  | .suspended => "Suspended"

structure RealmEntity where
  id : Nat
  status : RealmStatus
  enabled : Bool
  expiresAt : Option UInt64
  deriving DecidableEq, Repr

inductive RealmValidationError where
  | realmUnavailable (realmId : Nat) (reason : String)
  | storeError (realmId : Nat) (message : String)
  deriving DecidableEq, Repr

inductive AidError where
  | invalidFormat
  | expired
  | invalidTimestamp (message : String)
  | base64DecodeError (message : String)
  | invalidSignature (message : String)
  | decodeFailure (message : String)
  | generationFailed (message : String)
  | invalidPrefix
  | emptyId
  | hexDecodeError (message : String)
  | realmError (error : RealmError)
  | manufacturerNotVerified
  | packageRevoked
  deriving DecidableEq, Repr

def AidError.display : AidError → String
  | .invalidFormat => "Invalid credential format"
  | .expired => "Token has expired"
  | .invalidTimestamp message => "Invalid timestamp: " ++ message
  | .base64DecodeError message => "Base64 decode error: " ++ message
  | .invalidSignature message => "Invalid signature: " ++ message
  | .decodeFailure message => "Proto decode failure: " ++ message
  | .generationFailed message => "Token generation failed: " ++ message
  | .invalidPrefix => "Invalid credential prefix, expected 'ar-'"
  | .emptyId => "Empty credential ID"
  | .hexDecodeError message => "Hex decode error: " ++ message
  | .realmError error => "Realm error: " ++ error.display
  | .manufacturerNotVerified => "manufacturer not verified or not registered"
  | .packageRevoked => "actor package has been revoked"

structure AIdCredential where
  keyId : Nat
  claims : List UInt8
  signature : List UInt8
  deriving DecidableEq, Repr

structure IdentityClaims where
  realmId : Nat
  actorId : String
  expiresAt : UInt64
  deriving DecidableEq, Repr

structure Checks where
  getRealm : Nat → Except RealmError (Option RealmEntity)
  getCachedKey : Nat → Except AidError (Option (List UInt8))
  verifySignature (verifyingKey message signature : List UInt8) : Except String Unit
  decodeClaims : List UInt8 → Except String IdentityClaims
  now : UInt64

def RealmEntity.isExpired (realm : RealmEntity) (now : UInt64) : Bool :=
  match realm.expiresAt with
  | some expiresAt => expiresAt < now
  | none => false

namespace Checks

def validateRealm (checks : Checks) (realmId : Nat) : Except RealmValidationError RealmEntity :=
  match checks.getRealm realmId with
  | .error error => .error (.storeError realmId ("Failed to query realm: " ++ error.display))
  | .ok none => .error (.realmUnavailable realmId ("Realm " ++ toString realmId ++ " not found"))
  | .ok (some realm) =>
    if realm.isExpired checks.now then
      .error (.realmUnavailable realmId ("Realm " ++ toString realmId ++ " has expired"))
    else if realm.status ≠ .active then
      .error (.realmUnavailable realmId ("Realm " ++ toString realmId ++
        " is not in Active status (current: " ++ realm.status.display ++ ")"))
    else if ¬ realm.enabled then
      .error (.realmUnavailable realmId ("Realm " ++ toString realmId ++ " is disabled"))
    else .ok realm

def verify (checks : Checks) (credential : AIdCredential) (verifyingKey : List UInt8) :
    Except AidError IdentityClaims :=
  if credential.signature.length ≠ 64 then
    .error (.invalidSignature ("signature 长度无效：期望 64 bytes，实际 " ++
      toString credential.signature.length ++ " bytes"))
  else
    match checks.verifySignature verifyingKey credential.claims credential.signature with
    | .error error => .error (.invalidSignature ("Ed25519 签名验证失败：" ++ error))
    | .ok () =>
      match checks.decodeClaims credential.claims with
      | .error error => .error (.decodeFailure ("IdentityClaims proto 解码失败：" ++ error))
      | .ok claims => if claims.expiresAt ≤ checks.now then .error .expired else .ok claims

-- The second component is the tolerance period, which Ed25519 credentials do not have.
def check (checks : Checks) (credential : AIdCredential) (realmId : Nat) : Except AidError (IdentityClaims × Bool) :=
  match checks.getCachedKey credential.keyId with
  | .error error => .error error
  | .ok none => .error .invalidFormat
  | .ok (some verifyingKey) =>
    match checks.verify credential verifyingKey with
    | .error error => .error error
    | .ok claims => if claims.realmId ≠ realmId then .error .invalidFormat else .ok (claims, false)

end Checks

def mapValidationError : RealmValidationError → Nat × String
  | .realmUnavailable _ reason => (403, reason)
  | .storeError _ message => (500, message)

end Actr.Actrix.Platform
