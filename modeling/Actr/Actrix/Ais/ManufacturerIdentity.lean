import Actr.Actrix.Mfr.Model
import Actr.Actrix.Platform.Credential
import Actr.Library.Checks
import Actr.Library.Machine
import Actr.Library.Toml
import Actr.Protocol.ManufacturerAuth
import Mathlib.Algebra.Ring.Nat

/-!
# Verifying the manufacturer of a package

`verify_mfr_identity` admits a package that is published with the manifest of the request, and otherwise one whose
manifest and registration payload are signed by a key of its manufacturer.
-/

namespace Actr.Actrix.Ais
open Protocol Actrix.Mfr Actrix.Platform Library Checks

structure RegisterRequest where
  realm : Protocol.Realm
  actrType : ActrType
  target : Option String
  manifestRaw : Option (List UInt8)
  mfrSignature : Option (List UInt8)
  manufacturerAuthSignature : Option (List UInt8)
  manufacturerAuthSignedAt : Option UInt64
  manufacturerAuthNonce : Option (List UInt8)
  deriving DecidableEq, Repr

structure ManufacturerProof where
  mfrSignature : List UInt8
  manufacturerAuthSignature : List UInt8
  manufacturerAuthSignedAt : UInt64
  manufacturerAuthNonce : List UInt8
  deriving DecidableEq, Repr

def RegisterRequest.manufacturerProof (request : RegisterRequest) : Option ManufacturerProof := do
  return ⟨← request.mfrSignature, ← request.manufacturerAuthSignature, ← request.manufacturerAuthSignedAt,
    ← request.manufacturerAuthNonce⟩

structure Verifier where
  crypto : Mfr.Crypto
  parseToml : String → Except String Toml.Value

inductive Admission where
  | published
  | unpublished (signingKeyId : String) (manufacturerAuthNonce : List UInt8)
  deriving DecidableEq, Repr

def manufacturerSignedAtMaxAgeSecs : Nat := 5 * 60

def manufacturerSignedAtFutureSkewSecs : Nat := 60

def manufacturerNonceTtlSecs : Nat := 10 * 60

def verifyManufacturerAuthSignedAt (signedAt now : UInt64) : Except AidError Unit :=
  if min (now.toNat + manufacturerSignedAtFutureSkewSecs) (2 ^ 64 - 1) < signedAt.toNat then
    .error (.invalidTimestamp "manufacturer_auth_signed_at is too far in the future")
  else if manufacturerSignedAtMaxAgeSecs < now.toNat - signedAt.toNat then .error .expired
  else .ok ()

namespace Verifier

variable (verifier : Verifier)

def parseManifest (manifest : List UInt8) : Except AidError Toml.Value :=
  match String.fromUTF8? ⟨manifest.toArray⟩ with
  | none => .error .invalidFormat
  | some text =>
    match verifier.parseToml text with
    | .error _ => .error .invalidFormat
    | .ok value => .ok value

def resolveSigningKey (tables : MfrTables) (manufacturer signingKeyId : String) : Except AidError MfrPublicInfo :=
  (tables.resolveKeyById manufacturer signingKeyId).mapError fun error =>
    match error with
    | .keyRevoked _ => .manufacturerNotVerified
    | error => .generationFailed ("MFR lookup failed: " ++ error.display)

def verifySignature (what : String) (message signature : List UInt8) (publicKey : String) : Except AidError Unit := do
  let valid ← (verifier.crypto.verifySignature message (verifier.crypto.base64Encode signature) publicKey).mapError
    fun error => AidError.generationFailed (what ++ " verification error: " ++ error.display)
  require (valid = true) .manufacturerNotVerified

def registerPayload (request : RegisterRequest) (target : String) (manifest : List UInt8) (proof : ManufacturerProof) :
    String :=
  buildManufacturerRegisterPayload
    { realmId := request.realm.realmId
      actrType := request.actrType
      target
      manifestSha256Hex := Text.hexEncode (verifier.crypto.sha256 manifest)
      manufacturerAuthSignedAt := proof.manufacturerAuthSignedAt
      manufacturerAuthNonce := proof.manufacturerAuthNonce }

def verifyUnpublished (tables : MfrTables) (request : RegisterRequest) (target : String) (manifest : List UInt8)
    (now : UInt64) : Except AidError Admission := do
  let proof ← okOr request.manufacturerProof .manufacturerNotVerified
  require (proof.manufacturerAuthNonce.length = 16 ∨ proof.manufacturerAuthNonce.length = 32) .invalidFormat
  verifyManufacturerAuthSignedAt proof.manufacturerAuthSignedAt now
  let manifestToml ← verifier.parseManifest manifest
  let signingKeyId ← okOr (manifestToml.getStr "signing_key_id") .invalidFormat
  let mfrInfo ← resolveSigningKey tables request.actrType.manufacturer signingKeyId
  verifier.verifySignature "Signature" manifest proof.mfrSignature mfrInfo.publicKey
  require ((manifestToml.getStr "manufacturer").getD "" = request.actrType.manufacturer ∧
    (manifestToml.getStr "name").getD "" = request.actrType.name ∧
    (manifestToml.getStr "version").getD "" = request.actrType.version) .manufacturerNotVerified
  let manifestTarget ← okOr ((manifestToml.get "binary").bind (·.getStr "target")) .invalidFormat
  require (target = manifestTarget) .manufacturerNotVerified
  verifier.verifySignature "Manufacturer signature"
    (Text.utf8 (verifier.registerPayload request manifestTarget manifest proof))
    proof.manufacturerAuthSignature mfrInfo.publicKey
  return .unpublished signingKeyId proof.manufacturerAuthNonce

-- Everything of `verify_mfr_identity` before the nonce is consumed.
def admitPackage (tables : MfrTables) (request : RegisterRequest) (now : UInt64) : Except AidError Admission := do
  require (request.actrType.version ≠ "") .invalidFormat
  let target ← okOr (request.target.filter (· ≠ "")) .invalidFormat
  let manifest ← okOr (request.manifestRaw.filter (· ≠ [])) .invalidFormat
  match tables.getByTypeAndTarget request.actrType.toStringRepr target with
  | some pkg =>
    -- A published package is not tried as an unpublished one.
    require (verifier.crypto.sha256 manifest = verifier.crypto.sha256 (Text.utf8 pkg.manifest))
      .manufacturerNotVerified
    return .published
  | none => verifier.verifyUnpublished tables request target manifest now

end Verifier

structure ManufacturerAuthNonce where
  manufacturer : String
  keyId : String
  nonce : List UInt8
  createdAt : Nat
  expiresAt : Nat
  deriving DecidableEq, Repr

def maxInt64 : Nat := 2 ^ 63 - 1

def consumeManufacturerAuthNonce (nonces : List ManufacturerAuthNonce) (manufacturer signingKeyId : String)
    (manufacturerAuthNonce : List UInt8) (now : UInt64) : Except AidError Unit × List ManufacturerAuthNonce :=
  if maxInt64 < now.toNat then (.error (.invalidTimestamp "current time exceeds i64"), nonces)
  else
    let nonces := nonces.filter fun row => ¬ row.expiresAt < now.toNat
    if nonces.any fun row =>
        row.manufacturer = manufacturer ∧ row.keyId = signingKeyId ∧ row.nonce = manufacturerAuthNonce then
      (.error .manufacturerNotVerified, nonces)
    else
      (.ok (), nonces ++ [⟨manufacturer, signingKeyId, manufacturerAuthNonce, now.toNat,
        min (now.toNat + manufacturerNonceTtlSecs) maxInt64⟩])

def Verifier.verifyMfrIdentity (verifier : Verifier) (tables : MfrTables) (nonces : List ManufacturerAuthNonce)
    (request : RegisterRequest) (now : UInt64) : Except AidError Unit × List ManufacturerAuthNonce :=
  match verifier.admitPackage tables request now with
  | .error error => (.error error, nonces)
  | .ok .published => (.ok (), nonces)
  | .ok (.unpublished signingKeyId nonce) =>
    consumeManufacturerAuthNonce nonces request.actrType.manufacturer signingKeyId nonce now

structure Registrations where
  clock : UInt64
  nonces : List ManufacturerAuthNonce
  accepted : List (RegisterRequest × UInt64)
  deriving DecidableEq, Repr

namespace Registrations

structure Action where
  tables : MfrTables
  request : RegisterRequest
  now : UInt64

def unpublished (verifier : Verifier) (action : Action) : Bool :=
  match verifier.admitPackage action.tables action.request action.now with
  | .ok (.unpublished _ _) => true
  | _ => false

def step (verifier : Verifier) (s : Registrations) (action : Action) : Option Registrations :=
  if s.clock ≤ action.now then
    match verifier.verifyMfrIdentity action.tables s.nonces action.request action.now with
    | (.ok (), nonces) =>
      some ⟨action.now, nonces,
        if unpublished verifier action then s.accepted ++ [(action.request, action.now)] else s.accepted⟩
    | (.error _, nonces) => some ⟨action.now, nonces, s.accepted⟩
  else none

end Registrations

end Actr.Actrix.Ais
