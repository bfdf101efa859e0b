import Actr.Library.Text

/-!
# Manufacturers, their keys and their packages

The rows of the tables `mfr`, `mfr_key_history`, `mfr_package` and `mfr_publish_nonce`, and the queries on them. A
query for one row answers the first that matches.
-/

namespace Actr.Actrix.Mfr
open Library.Text

inductive MfrError where
  | database (message : String)
  | notFound
  | keyRevoked (keyId : String)
  | alreadyExists (message : String)
  | reservedName (name : String)
  | invalidName (name : String)
  | invalidStatus (message : String)
  | verificationFailed (message : String)
  | challengeNotFound
  | invalidSignature
  | packageAlreadyPublished
  | gitHub (message : String)
  | crypto (message : String)
  | unauthorized
  | certificateExpired
  | invalidRequest (message : String)
  deriving DecidableEq, Repr

def MfrError.display : MfrError → String
  | .database message => "database error: " ++ message
  | .notFound => "not found"
  | .keyRevoked keyId => "key revoked: " ++ keyId
  | .alreadyExists message => "already exists: " ++ message
  | .reservedName name => "reserved name: " ++ name
  | .invalidName name => "invalid name: " ++ name
  | .invalidStatus message => "invalid status for this operation: " ++ message
  | .verificationFailed message => "verification failed: " ++ message
  | .challengeNotFound => "challenge expired or not found"
  | .invalidSignature => "invalid signature"
  | .packageAlreadyPublished => "package already published, revoke first"
  | .gitHub message => "github api error: " ++ message
  | .crypto message => "crypto error: " ++ message
  | .unauthorized => "unauthorized"
  | .certificateExpired => "certificate expired: signing key has expired, please renew"
  | .invalidRequest message => "invalid request: " ++ message

structure Crypto where
  sha256 : List UInt8 → List UInt8
  base64Decode : String → Except String (List UInt8)
  base64Encode : List UInt8 → String
  verifyingKeyFromBytes : List UInt8 → Except String Unit
  verify (verifyingKey message signature : List UInt8) : Bool

namespace Crypto

def computeKeyId (crypto : Crypto) (publicKeyBytes : List UInt8) : String :=
  "mfr-" ++ String.ofList ((hexDigits (crypto.sha256 publicKeyBytes)).take 16)

def computeKeyIdFromB64 (crypto : Crypto) (publicKeyB64 : String) : Except MfrError String :=
  match crypto.base64Decode publicKeyB64 with
  | .error error => .error (.crypto ("invalid public key base64: " ++ error))
  | .ok bytes => .ok (crypto.computeKeyId bytes)

def verifySignature (crypto : Crypto) (message : List UInt8) (signatureB64 publicKeyB64 : String) :
    Except MfrError Bool :=
  match crypto.base64Decode publicKeyB64 with
  | .error error => .error (.crypto ("invalid public key encoding: " ++ error))
  | .ok pubkeyBytes =>
    if pubkeyBytes.length ≠ 32 then .error (.crypto "public key must be 32 bytes")
    else
      match crypto.verifyingKeyFromBytes pubkeyBytes with
      | .error error => .error (.crypto ("invalid public key: " ++ error))
      | .ok () =>
        match crypto.base64Decode signatureB64 with
        | .error error => .error (.crypto ("invalid signature encoding: " ++ error))
        | .ok sigBytes =>
          if sigBytes.length ≠ 64 then .error (.crypto "signature must be 64 bytes")
          else .ok (crypto.verify pubkeyBytes message sigBytes)

def validatePublicKey (crypto : Crypto) (publicKeyB64 : String) : Except MfrError Unit :=
  match crypto.base64Decode publicKeyB64 with
  | .error error => .error (.crypto ("invalid public key encoding: " ++ error))
  | .ok pubkeyBytes =>
    if pubkeyBytes.length ≠ 32 then .error (.crypto "public key must be 32 bytes")
    else
      match crypto.verifyingKeyFromBytes pubkeyBytes with
      | .error error => .error (.crypto ("invalid Ed25519 public key: " ++ error))
      | .ok () => .ok ()

end Crypto

inductive MfrStatus where
  | pending
  | active
  | suspended
  | revoked
  deriving DecidableEq, Repr

def MfrStatus.display : MfrStatus → String
  | .pending => "pending"
  | .active => "active"
  | .suspended => "suspended"
  | .revoked => "revoked"

structure Manufacturer where
  id : Nat
  name : String
  publicKey : String
  keyId : String
  status : MfrStatus
  createdAt : Int
  updatedAt : Option Int
  verifiedAt : Option Int
  keyExpiresAt : Option Int
  deriving DecidableEq, Repr

inductive KeyHistoryStatus where
  | retired
  | revoked
  deriving DecidableEq, Repr

structure MfrKeyHistory where
  id : Nat
  mfrId : Nat
  keyId : String
  publicKey : String
  status : KeyHistoryStatus
  createdAt : Int
  retiredAt : Int
  deriving DecidableEq, Repr

inductive PkgStatus where
  | active
  | revoked
  deriving DecidableEq, Repr

structure ActrPackage where
  id : Nat
  mfrId : Nat
  manufacturer : String
  name : String
  version : String
  typeStr : String
  target : String
  manifest : String
  signature : String
  protoFiles : Option String
  status : PkgStatus
  publishedAt : Int
  revokedAt : Option Int
  deriving DecidableEq, Repr

structure MfrTables where
  mfr : List Manufacturer
  keyHistory : List MfrKeyHistory
  packages : List ActrPackage
  deriving DecidableEq, Repr

namespace MfrTables

def getByName (tables : MfrTables) (name : String) : Option Manufacturer := tables.mfr.find? fun row => row.name = name

def getByKeyId (tables : MfrTables) (mfrId : Nat) (keyId : String) : Except MfrError (Option MfrKeyHistory) :=
  match tables.keyHistory.find? fun row => row.mfrId = mfrId ∧ row.keyId = keyId with
  | some entry => if entry.status = .revoked then .error (.keyRevoked keyId) else .ok (some entry)
  | none => .ok none

def getByTypeAndTarget (tables : MfrTables) (typeStr target : String) : Option ActrPackage :=
  tables.packages.find? fun row => row.typeStr = typeStr ∧ row.target = target ∧ row.status = .active

end MfrTables

structure MfrCertificate where
  keyId : String
  mfrName : String
  mfrPubkey : String
  issuedAt : Int
  expiresAt : Int
  deriving DecidableEq, Repr

structure MfrPublicInfo where
  id : Nat
  keyId : String
  name : String
  publicKey : String
  certificate : MfrCertificate
  deriving DecidableEq, Repr

namespace MfrTables

def resolveByName (tables : MfrTables) (name : String) : Except MfrError MfrPublicInfo :=
  match tables.getByName name with
  | none => .error .notFound
  | some mfr =>
    if mfr.status ≠ .active then .error (.invalidStatus ("MFR '" ++ name ++ "' is not active"))
    else
      match mfr.keyExpiresAt with
      | none => .error .certificateExpired
      | some expiresAt =>
        .ok ⟨mfr.id, mfr.keyId, mfr.name, mfr.publicKey,
          ⟨mfr.keyId, mfr.name, mfr.publicKey, mfr.verifiedAt.getD mfr.createdAt, expiresAt⟩⟩

-- The part of `resolve_key_by_id` for a key that is not the current one of the row read before.
def resolveHistorical (tables : MfrTables) (mfr : Manufacturer) (keyId : String) : Except MfrError MfrPublicInfo :=
  match tables.getByKeyId mfr.id keyId with
  | .error error => .error error
  | .ok none => .error .notFound
  | .ok (some history) =>
    .ok ⟨mfr.id, history.keyId, mfr.name, history.publicKey,
      ⟨history.keyId, mfr.name, history.publicKey, history.createdAt, history.retiredAt⟩⟩

def resolveKeyById (tables : MfrTables) (name keyId : String) : Except MfrError MfrPublicInfo :=
  match tables.getByName name with
  | none => .error .notFound
  | some mfr => if mfr.keyId = keyId then tables.resolveByName name else tables.resolveHistorical mfr keyId

end MfrTables

end Actr.Actrix.Mfr
