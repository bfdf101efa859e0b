import Mathlib.Algebra.Ring.Nat
import Mathlib.Data.List.Basic

/-!
# The key service

The keys of the signer and its requests `generate_signing_key` and `sign`, with the SQLite backend.
-/

namespace Actr.Actrix.Signer

structure Ed25519 where
  verifyingKey (signingKey : List UInt8) : List UInt8
  sign (signingKey message : List UInt8) : List UInt8

structure KeyRecord where
  rowid : Nat
  publicKey : List UInt8
  secretKey : List UInt8
  createdAt : Int64
  expiresAt : Int64
  deriving DecidableEq

structure KeyStore where
  keyTtl : UInt64
  toleranceSeconds : UInt64
  keys : List KeyRecord
  lastRowid : Nat

structure GenerateSigningKeyResponse where
  keyId : Nat
  verifyingKey : List UInt8
  expiresAt : UInt64
  toleranceSeconds : UInt64
  deriving DecidableEq

namespace KeyStore

def new (keyTtl toleranceSeconds : UInt64) : KeyStore := ⟨keyTtl, toleranceSeconds, [], 0⟩

def newKey (store : KeyStore) (ed25519 : Ed25519) (signingKey : List UInt8) (now : UInt64) : KeyRecord where
  rowid := store.lastRowid + 1
  publicKey := ed25519.verifyingKey signingKey
  secretKey := signingKey
  createdAt := now.toInt64
  expiresAt := if store.keyTtl = 0 then 0 else now.toInt64 + store.keyTtl.toInt64

def generateAndStoreKey (store : KeyStore) (ed25519 : Ed25519) (signingKey : List UInt8) (now : UInt64) :
    (Nat × List UInt8) × KeyStore :=
  let key := store.newKey ed25519 signingKey now
  ((key.rowid % 2 ^ 32, key.publicKey), { store with keys := store.keys ++ [key], lastRowid := key.rowid })

def getKeyRecord (store : KeyStore) (keyId : Nat) : Option KeyRecord := store.keys.find? fun key => key.rowid = keyId

def generateSigningKey (store : KeyStore) (ed25519 : Ed25519) (signingKey : List UInt8) (now : UInt64) :
    Except String GenerateSigningKeyResponse × KeyStore :=
  let (keyPair, store) := store.generateAndStoreKey ed25519 signingKey now
  match store.getKeyRecord keyPair.1 with
  | some record => (.ok ⟨keyPair.1, keyPair.2, record.expiresAt.toUInt64, store.toleranceSeconds⟩, store)
  | none => (.error "Failed to get key record after creation", store)

def sign (store : KeyStore) (ed25519 : Ed25519) (keyId : Nat) (message : List UInt8) (now : UInt64) :
    Except String (List UInt8) :=
  match store.getKeyRecord keyId with
  | none => .error ("Key not found: " ++ toString keyId)
  | some record =>
    if 0 < record.expiresAt.toUInt64 ∧ record.expiresAt.toUInt64 + store.toleranceSeconds < now then
      .error ("Key " ++ toString keyId ++ " has expired")
    else .ok (ed25519.sign record.secretKey message)

def cleanupExpiredKeys (store : KeyStore) (now : UInt64) : KeyStore :=
  { store with
    keys := store.keys.filter fun key =>
      ¬ (0 < key.expiresAt ∧ key.expiresAt < now.toInt64 - store.toleranceSeconds.toInt64) }

end KeyStore

end Actr.Actrix.Signer
