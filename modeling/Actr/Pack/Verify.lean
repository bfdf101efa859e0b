import Actr.Pack.Package

/-!
# Verifying a package

The payload entries of a manifest are counted and measured by what they declare, and then hashed under one budget for
what they hold.
-/

namespace Actr.Pack
open Library.Checks

def maxSignatureBytes : Nat := 64

def maxManifestBytes : Nat := 1024 * 1024

def defaultMaxVerifiedEntryBytes : Nat := 64 * 1024 * 1024

def defaultMaxVerifiedEntries : Nat := 1024

structure PackageVerificationLimits where
  maxEntryBytes : Nat
  maxTotalBytes : Nat
  maxEntries : Nat
  deriving DecidableEq, Repr

def PackageVerificationLimits.fromMaxComponentBytes (maxComponentBytes : Nat) : PackageVerificationLimits :=
  ⟨maxComponentBytes, maxComponentBytes, defaultMaxVerifiedEntries⟩

def defaultLimits : PackageVerificationLimits := .fromMaxComponentBytes defaultMaxVerifiedEntryBytes

structure VerifiedPackage where
  manifest : PackageManifest
  manifestRaw : List UInt8
  sigRaw : List UInt8
  deriving DecidableEq, Repr

def isHexDigit (char : Char) : Bool :=
  char.isDigit || (decide ('a' ≤ char) && decide (char ≤ 'f')) || (decide ('A' ≤ char) && decide (char ≤ 'F'))

def validateSha256 (field value : String) : Except PackError Unit :=
  require (value.utf8ByteSize = 64 ∧ value.toList.all isHexDigit)
    (.manifestParseError (field ++ " must be a 64-character SHA-256 hex string"))

def validateAll (field : String) : List String → Except PackError Unit
  | [] => .ok ()
  | hash :: rest => do
      validateSha256 field hash
      validateAll field rest

def validateManifestIntegrityFields (manifest : PackageManifest) : Except PackError Unit := do
  require (manifest.signatureAlgorithm = "ed25519") (.manifestParseError "signature_algorithm must be `ed25519`")
  validateSha256 "binary.hash" manifest.binary.hash
  validateAll "resources[].hash" (manifest.resources.map fun entry => entry.hash)
  validateAll "proto_files[].hash" (manifest.protoFiles.map fun entry => entry.hash)
  validateAll "lock_file.hash" (manifest.lockFile.toList.map fun entry => entry.hash)

structure SignedEntry where
  path : String
  hash : String
  mismatch : PackError
  deriving DecidableEq, Repr

def PackageManifest.signedEntries (manifest : PackageManifest) : List SignedEntry :=
  ⟨manifest.binary.path, manifest.binary.hash, .binaryHashMismatch manifest.binary.path⟩ ::
    ((manifest.resources.map fun entry => ⟨entry.path, entry.hash, .resourceHashMismatch entry.path⟩) ++
    (manifest.protoFiles.map fun entry => ⟨entry.path, entry.hash, .protoHashMismatch entry.path⟩) ++
    (manifest.lockFile.toList.map fun entry => ⟨entry.path, entry.hash, .lockFileHashMismatch entry.path⟩))

structure PayloadPreflight where
  entries : Nat
  totalBytes : Nat
  deriving DecidableEq, Repr

def PayloadPreflight.check (preflight : PayloadPreflight) (limits : PackageVerificationLimits) (archive : ZipArchive)
    (name : String) : Except PackError PayloadPreflight := do
  let entries := preflight.entries + 1
  require (entries ≤ usizeMax) (.invalidPackage "signed payload entry count overflows usize")
  require (entries ≤ limits.maxEntries) (.invalidPackage
    ("signed payload has " ++ toString entries ++ " entries, exceeds limit " ++ toString limits.maxEntries))
  let entry ← (archive name).mapError fun error => requiredEntry (.binaryNotFound name) (.zipError error)
  require (entry.size ≤ limits.maxEntryBytes) (.invalidPackage ("ZIP entry `" ++ name ++ "` declares " ++
    toString entry.size ++ " bytes, exceeds limit " ++ toString limits.maxEntryBytes))
  let totalBytes := preflight.totalBytes + entry.size
  require (totalBytes ≤ usizeMax) (.invalidPackage "signed payload size overflows usize")
  require (totalBytes ≤ limits.maxTotalBytes) (.invalidPackage ("signed payload declares " ++ toString totalBytes ++
    " cumulative bytes at `" ++ name ++ "`, exceeds limit " ++ toString limits.maxTotalBytes))
  return ⟨entries, totalBytes⟩

def checkEntries (limits : PackageVerificationLimits) (archive : ZipArchive) :
    PayloadPreflight → List SignedEntry → Except PackError PayloadPreflight
  | preflight, [] => .ok preflight
  | preflight, entry :: rest => do
      let preflight ← preflight.check limits archive entry.path
      checkEntries limits archive preflight rest

namespace Formats

variable (formats : Formats)

def payloadHash (limits : PackageVerificationLimits) (consumed : Nat) (archive : ZipArchive) (name : String) :
    Except PackError (String × Nat) := do
  let remaining := limits.maxTotalBytes - consumed
  let allowed := min limits.maxEntryBytes remaining
  let (hash, bytes) ← (formats.sha256ZipEntryBounded archive name allowed).mapError
    (requiredEntry (.binaryNotFound name))
  require (consumed + bytes ≤ usizeMax) (.invalidPackage "signed payload size overflows usize")
  return (hash, consumed + bytes)

def verifyEntries (limits : PackageVerificationLimits) (archive : ZipArchive) :
    Nat → List SignedEntry → Except PackError Unit
  | _, [] => .ok ()
  | consumed, entry :: rest => do
      let (computed, consumed) ← formats.payloadHash limits consumed archive entry.path
      require (computed = entry.hash) entry.mismatch
      verifyEntries limits archive consumed rest

def verifyWithLimits (actrBytes pubkey : List UInt8) (limits : PackageVerificationLimits) :
    Except PackError VerifiedPackage := do
  let archive ← (formats.openZip actrBytes).mapError PackError.zipError
  let sigRaw ← (readZipEntryBounded archive "manifest.sig" maxSignatureBytes).mapError (requiredEntry .signatureNotFound)
  require (sigRaw.length = 64) (.signatureVerificationFailed
    ("manifest.sig must be exactly 64 bytes, got " ++ toString sigRaw.length))
  let manifestBytes ← (readZipEntryBounded archive "manifest.toml" maxManifestBytes).mapError
    (requiredEntry .manifestNotFound)
  (formats.verifyStrict pubkey manifestBytes sigRaw).mapError fun error =>
    PackError.signatureVerificationFailed ("Ed25519 verification failed: " ++ error)
  let manifest ← formats.parseManifest manifestBytes
  validateManifestIntegrityFields manifest
  let _ ← checkEntries limits archive ⟨0, 0⟩ manifest.signedEntries
  formats.verifyEntries limits archive 0 manifest.signedEntries
  return ⟨manifest, manifestBytes, sigRaw⟩

def verify (actrBytes pubkey : List UInt8) : Except PackError VerifiedPackage :=
  formats.verifyWithLimits actrBytes pubkey defaultLimits

end Formats

end Actr.Pack
