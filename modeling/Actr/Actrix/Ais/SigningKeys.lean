import Actr.Actrix.Platform.Credential
import Actr.Actrix.Platform.KeyCache
import Actr.Actrix.Signer.KeyStore
import Actr.Library.Machine

/-!
# Signing keys and the credentials issued with them

The issuer, the key service and the cache that credentials are verified from.
-/

namespace Actr.Actrix.Ais
open Platform Signer

structure CredentialScheme where
  ed25519 : Ed25519
  verify (verifyingKey message signature : List UInt8) : Except String Unit
  encodeClaims : IdentityClaims → List UInt8
  decodeClaims : List UInt8 → Except String IdentityClaims

structure KeyRecord where
  keyId : Nat
  verifyingKey : List UInt8
  expiresAt : UInt64
  toleranceSeconds : UInt64
  deriving DecidableEq

structure IssuedCredential where
  credential : AIdCredential
  claims : IdentityClaims
  deriving DecidableEq

structure Authority where
  tokenTtlSecs : UInt64
  clock : UInt64
  signer : KeyStore
  keyCache : Option KeyRecord
  currentKey : Option KeyRecord
  verifyingKeys : KeyCache
  fetched : List KeyRecord
  loaded : List KeyRecord
  saved : List KeyRecord
  persisted : List KeyRecord
  issued : List IssuedCredential

namespace Authority

def init (keyTtl toleranceSeconds tokenTtlSecs clock : UInt64) : Authority where
  tokenTtlSecs := tokenTtlSecs
  clock := clock
  signer := .new keyTtl toleranceSeconds
  keyCache := none
  currentKey := none
  verifyingKeys := .empty
  fetched := []
  loaded := []
  saved := []
  persisted := []
  issued := []

inductive Action where
  | pass (time : UInt64)
  | generateSigningKey (signingKey : List UInt8)
  | cacheKey (record : KeyRecord)
  | updateCurrentKey (record : KeyRecord)
  | persistKey (record : KeyRecord)
  | restart
  | loadKeyFromRecord
  | issueCredential (realmId : Nat) (actorId : String) (now : UInt64)
  | getCachedKey (keyId : Nat)
  | cleanupSigner
  deriving DecidableEq

def generateSigningKey (scheme : CredentialScheme) (s : Authority) (signingKey : List UInt8) : Option Authority :=
  match s.signer.generateSigningKey scheme.ed25519 signingKey s.clock with
  | (.ok response, signer) =>
    some { s with
      signer
      fetched := s.fetched ++ [⟨response.keyId, response.verifyingKey, response.expiresAt,
        response.toleranceSeconds⟩] }
  | (.error _, signer) => some { s with signer }

def isExpiredBeyondTolerance (record : KeyRecord) (now : UInt64) : Bool :=
  record.expiresAt + record.toleranceSeconds < now

-- `ensure_key_loaded` when the issuer has just started and a current key is stored.
def loadKeyFromRecord (s : Authority) : Option Authority :=
  match s.keyCache, s.currentKey with
  | none, some record =>
    if isExpiredBeyondTolerance record s.clock then none
    else some { s with keyCache := some record, saved := s.saved ++ [record] }
  | _, _ => none

-- The expiry is computed from a time that was read before the signature was asked for.
def issueCredential (scheme : CredentialScheme) (s : Authority) (realmId : Nat) (actorId : String) (now : UInt64) :
    Option Authority :=
  match s.keyCache with
  | none => none
  | some key =>
    let claims : IdentityClaims := ⟨realmId, actorId, now + s.tokenTtlSecs⟩
    let claimsBytes := scheme.encodeClaims claims
    match s.signer.sign scheme.ed25519 key.keyId claimsBytes s.clock with
    | .error _ => none
    | .ok signature => some { s with issued := s.issued ++ [⟨⟨key.keyId, claimsBytes, signature⟩, claims⟩] }

def step (scheme : CredentialScheme) (s : Authority) : Action → Option Authority
  | .pass time => if s.clock ≤ time then some { s with clock := time } else none
  | .generateSigningKey signingKey => generateSigningKey scheme s signingKey
  | .cacheKey record =>
    if record ∈ s.fetched then
      some { s with
        keyCache := some record
        fetched := s.fetched.erase record
        loaded := s.loaded ++ [record] }
    else none
  | .updateCurrentKey record =>
    if record ∈ s.loaded then
      some { s with
        currentKey := some record
        loaded := s.loaded.erase record
        saved := s.saved ++ [record] }
    else none
  | .persistKey record =>
    if record ∈ s.saved then
      some { s with
        verifyingKeys := s.verifyingKeys.cacheKey record.keyId record.verifyingKey record.expiresAt s.clock
        saved := s.saved.erase record
        persisted := s.persisted ++ [record] }
    else none
  | .restart => some { s with keyCache := none, fetched := [], loaded := [], saved := [] }
  | .loadKeyFromRecord => s.loadKeyFromRecord
  | .issueCredential realmId actorId now =>
    if now ≤ s.clock then issueCredential scheme s realmId actorId now else none
  | .getCachedKey keyId => some { s with verifyingKeys := (s.verifyingKeys.getCachedKey keyId s.clock).2 }
  | .cleanupSigner => some { s with signer := s.signer.cleanupExpiredKeys s.clock }

/-- The checks of `AIdCredentialValidator` at a time, on the cache as it is. -/
def checksAt (scheme : CredentialScheme) (s : Authority) (now : UInt64) : Checks where
  getRealm _ := .ok none
  getCachedKey keyId := .ok ((s.verifyingKeys.getCachedKey keyId now).1.map Prod.fst)
  verifySignature := scheme.verify
  decodeClaims := scheme.decodeClaims
  now := now

end Authority

end Actr.Actrix.Ais
