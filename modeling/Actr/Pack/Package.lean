import Actr.Library.Checks
import Actr.Library.Text
import Mathlib.Algebra.Ring.Nat

/-!
# Packages

The manifest of a package, the entries of its ZIP archive and the two ways of reading an entry under a limit.
-/

namespace Actr.Pack
open Library Checks

inductive ZipError where
  | fileNotFound
  | other (message : String)
  deriving DecidableEq, Repr

inductive PackError where
  | invalidPackage (message : String)
  | manifestNotFound
  | manifestParseError (message : String)
  | signatureNotFound
  | binaryNotFound (path : String)
  | binaryHashMismatch (path : String)
  | resourceHashMismatch (path : String)
  | protoHashMismatch (path : String)
  | lockFileHashMismatch (path : String)
  | signatureVerificationFailed (message : String)
  | ioError (message : String)
  | zipError (error : ZipError)
  deriving DecidableEq, Repr

inductive BinaryKind where
  | coreModule
  | component
  | nativeCdylib
  deriving DecidableEq, Repr

structure BinaryEntry where
  path : String
  target : String
  hash : String
  size : Option Nat
  kind : Option BinaryKind
  deriving DecidableEq, Repr

structure ResourceEntry where
  path : String
  hash : String
  deriving DecidableEq, Repr

structure ProtoFileEntry where
  name : String
  path : String
  hash : String
  deriving DecidableEq, Repr

structure LockFileEntry where
  path : String
  hash : String
  deriving DecidableEq, Repr

structure ManifestMetadata where
  description : Option String
  license : Option String
  deriving DecidableEq, Repr

structure PackageManifest where
  manufacturer : String
  name : String
  version : String
  binary : BinaryEntry
  signatureAlgorithm : String
  signingKeyId : Option String
  resources : List ResourceEntry
  protoFiles : List ProtoFileEntry
  lockFile : Option LockFileEntry
  metadata : ManifestMetadata
  deriving DecidableEq, Repr

def usizeMax : Nat := 2 ^ 64 - 1

-- `pieces` are what the reads of the entry return, until one returns nothing or fails with `fault`.
structure ZipEntry where
  size : Nat
  pieces : List (List UInt8)
  fault : Option String
  counted : pieces.flatten.length ≤ usizeMax

def ZipEntry.bytes (entry : ZipEntry) : List UInt8 := entry.pieces.flatten

abbrev ZipArchive := String → Except ZipError ZipEntry

structure Formats where
  openZip : List UInt8 → Except ZipError ZipArchive
  writeZip : List (String × List UInt8) → Except PackError (List UInt8)
  fromToml : String → Except String PackageManifest
  toToml : PackageManifest → Except String String
  utf8Error : List UInt8 → String
  sha256 : List UInt8 → List UInt8
  sign (signingKey message : List UInt8) : List UInt8
  verifyingKey (signingKey : List UInt8) : List UInt8
  verifyStrict (verifyingKey message signature : List UInt8) : Except String Unit

def takePieces : Nat → List (List UInt8) → List (List UInt8)
  | _, [] => []
  | 0, _ => []
  | limit, piece :: rest => piece.take limit :: takePieces (limit - piece.length) rest

def readLimit (maxBytes : Nat) : Nat := min (maxBytes + 1) usizeMax

def ZipEntry.finish (entry : ZipEntry) (limit : Nat) : Except PackError Unit :=
  match entry.fault with
  | none => .ok ()
  | some fault => if entry.bytes.length < limit then .error (.ioError fault) else .ok ()

def byName (archive : ZipArchive) (name : String) (maxBytes : Nat) : Except PackError ZipEntry := do
  let entry ← (archive name).mapError PackError.zipError
  require (entry.size ≤ maxBytes) (.invalidPackage
    ("ZIP entry `" ++ name ++ "` declares " ++ toString entry.size ++ " bytes, exceeds limit " ++ toString maxBytes))
  return entry

def exceedsLimit (name : String) (maxBytes : Nat) : PackError :=
  .invalidPackage ("ZIP entry `" ++ name ++ "` exceeds decompressed limit " ++ toString maxBytes)

def readZipEntryBounded (archive : ZipArchive) (name : String) (maxBytes : Nat) : Except PackError (List UInt8) := do
  let entry ← byName archive name maxBytes
  let buf := (takePieces (readLimit maxBytes) entry.pieces).flatten
  entry.finish (readLimit maxBytes)
  require (buf.length ≤ maxBytes) (exceedsLimit name maxBytes)
  return buf

def hashPieces (name : String) (maxBytes : Nat) :
    Nat → List UInt8 → List (List UInt8) → Except PackError (List UInt8 × Nat)
  | total, hashed, [] => .ok (hashed, total)
  | total, hashed, piece :: rest =>
    if usizeMax < total + piece.length then
      .error (.invalidPackage ("ZIP entry `" ++ name ++ "` decompressed size overflows usize"))
    else if maxBytes < total + piece.length then .error (exceedsLimit name maxBytes)
    else hashPieces name maxBytes (total + piece.length) (hashed ++ piece) rest

def Formats.sha256Hex (formats : Formats) (data : List UInt8) : String := Text.hexEncode (formats.sha256 data)

def Formats.sha256ZipEntryBounded (formats : Formats) (archive : ZipArchive) (name : String) (maxBytes : Nat) :
    Except PackError (String × Nat) := do
  let entry ← byName archive name maxBytes
  let (hashed, total) ← hashPieces name maxBytes 0 [] (takePieces (readLimit maxBytes) entry.pieces)
  entry.finish (readLimit maxBytes)
  return (formats.sha256Hex hashed, total)

def requiredEntry (missing : PackError) : PackError → PackError
  | .zipError .fileNotFound => missing
  | other => other

def Formats.parseManifest (formats : Formats) (manifestBytes : List UInt8) : Except PackError PackageManifest := do
  let manifestStr ← okOr (Text.fromUtf8 manifestBytes)
    (.manifestParseError ("manifest is not valid UTF-8: " ++ formats.utf8Error manifestBytes))
  (formats.fromToml manifestStr).mapError PackError.manifestParseError

end Actr.Pack
