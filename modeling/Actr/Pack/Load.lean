import Actr.Pack.Verify

/-! # Loading the parts of a package -/

namespace Actr.Pack
open Library Checks

namespace Formats

variable (formats : Formats)

def readManifest (actrBytes : List UInt8) : Except PackError PackageManifest := do
  let archive ← (formats.openZip actrBytes).mapError PackError.zipError
  let manifestBytes ← (readZipEntryBounded archive "manifest.toml" maxManifestBytes).mapError
    (requiredEntry .manifestNotFound)
  formats.parseManifest manifestBytes

def loadBinaryBounded (actrBytes : List UInt8) (maxBinaryBytes : Nat) : Except PackError (List UInt8) := do
  let archive ← (formats.openZip actrBytes).mapError PackError.zipError
  let manifestBytes ← (readZipEntryBounded archive "manifest.toml" maxManifestBytes).mapError
    (requiredEntry .manifestNotFound)
  let manifest ← formats.parseManifest manifestBytes
  (readZipEntryBounded archive manifest.binary.path maxBinaryBytes).mapError
    (requiredEntry (.binaryNotFound manifest.binary.path))

def loadBinary (actrBytes : List UInt8) : Except PackError (List UInt8) :=
  formats.loadBinaryBounded actrBytes defaultMaxVerifiedEntryBytes

def readLockFileBounded (actrBytes : List UInt8) (path : String) (maxBytes : Nat) :
    Except PackError (Option (List UInt8)) := do
  let archive ← (formats.openZip actrBytes).mapError PackError.zipError
  match readZipEntryBounded archive path maxBytes with
  | .ok bytes => return some bytes
  | .error (.zipError .fileNotFound) => return none
  | .error error => .error error

def readLockFile (actrBytes : List UInt8) : Except PackError (Option (List UInt8)) := do
  let manifest ← formats.readManifest actrBytes
  match manifest.lockFile with
  | none => return none
  | some lockFile => formats.readLockFileBounded actrBytes lockFile.path defaultMaxVerifiedEntryBytes

def isGlueJs (name : String) : Bool :=
  name.startsWith "resources/" && name.endsWith ".js" && !name.endsWith "actor.sw.js"

def readGlueJsBounded (actrBytes : List UInt8) (manifest : PackageManifest) (maxBytes : Nat) :
    Except PackError (Option String) :=
  match (manifest.resources.map fun resource => resource.path).find? isGlueJs with
  | none => .ok none
  | some name => do
      let archive ← (formats.openZip actrBytes).mapError PackError.zipError
      let content ← readZipEntryBounded archive name maxBytes
      let text ← okOr (Text.fromUtf8 content)
        (.invalidPackage ("read `" ++ name ++ "` as UTF-8: " ++ formats.utf8Error content))
      return some text

def readProtos (archive : ZipArchive) (maxTotalBytes : Nat) :
    Nat → List ProtoFileEntry → Except PackError (List (String × List UInt8))
  | _, [] => .ok []
  | total, proto :: rest => do
      let remaining := maxTotalBytes - total
      let content ← (readZipEntryBounded archive proto.path remaining).mapError (requiredEntry (.binaryNotFound proto.path))
      require (total + content.length ≤ usizeMax) (.invalidPackage "proto payload size overflows usize")
      let others ← readProtos archive maxTotalBytes (total + content.length) rest
      return (proto.name, content) :: others

def readProtoFilesBounded (actrBytes : List UInt8) (manifest : PackageManifest) (maxTotalBytes : Nat) :
    Except PackError (List (String × List UInt8)) := do
  require (manifest.protoFiles.length ≤ defaultMaxVerifiedEntries) (.invalidPackage ("manifest declares " ++
    toString manifest.protoFiles.length ++ " proto files, exceeds limit " ++ toString defaultMaxVerifiedEntries))
  let archive ← (formats.openZip actrBytes).mapError PackError.zipError
  readProtos archive maxTotalBytes 0 manifest.protoFiles

def readProtoFiles (actrBytes : List UInt8) : Except PackError (List (String × List UInt8)) := do
  let manifest ← formats.readManifest actrBytes
  formats.readProtoFilesBounded actrBytes manifest defaultMaxVerifiedEntryBytes

end Formats

end Actr.Pack
