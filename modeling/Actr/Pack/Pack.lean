import Actr.Pack.Load

/-! # Packing -/

namespace Actr.Pack
open Library

structure PackOptions where
  manifest : PackageManifest
  binaryBytes : List UInt8
  resources : List (String × List UInt8)
  protoFiles : List (String × List UInt8)
  signingKey : List UInt8
  lockFile : Option (List UInt8)
  deriving DecidableEq, Repr

namespace Formats

variable (formats : Formats)

-- A template with as many resources as are given keeps its paths and takes the hashes in their order.
def packResources (opts : PackOptions) : List ResourceEntry :=
  if opts.manifest.resources.length ≠ opts.resources.length then
    opts.resources.map fun (path, bytes) => ⟨path, formats.sha256Hex bytes⟩
  else
    opts.manifest.resources.zipWith (fun entry (_, bytes) => { entry with hash := formats.sha256Hex bytes }) opts.resources

def packManifest (opts : PackOptions) : PackageManifest :=
  { opts.manifest with
    binary := { opts.manifest.binary with
      hash := formats.sha256Hex opts.binaryBytes
      size := some opts.binaryBytes.length }
    resources := formats.packResources opts
    protoFiles := opts.protoFiles.map fun (name, content) => ⟨name, "proto/" ++ name, formats.sha256Hex content⟩
    lockFile := opts.lockFile.map fun bytes => ⟨"manifest.lock.toml", formats.sha256Hex bytes⟩ }

def packFiles (opts : PackOptions) (manifestBytes sigBytes : List UInt8) : List (String × List UInt8) :=
  [("manifest.toml", manifestBytes), ("manifest.sig", sigBytes)] ++
    (opts.lockFile.toList.map fun bytes => ("manifest.lock.toml", bytes)) ++
    [(opts.manifest.binary.path, opts.binaryBytes)] ++ opts.resources ++
    (opts.protoFiles.map fun (name, content) => ("proto/" ++ name, content))

def pack (opts : PackOptions) : Except PackError (List UInt8) := do
  let manifestToml ← (formats.toToml (formats.packManifest opts)).mapError PackError.manifestParseError
  let manifestBytes := Text.utf8 manifestToml
  formats.writeZip (packFiles opts manifestBytes (formats.sign opts.signingKey manifestBytes))

end Formats

end Actr.Pack
