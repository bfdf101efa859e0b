import Actr.Proof.Pack.Reading

/-! # What a verified package holds -/

namespace Actr.Proof.Pack
open Actr.Pack Library Checks

variable {formats : Formats} {archive : ZipArchive} {limits : PackageVerificationLimits} {name hash : String}
  {consumed consumed' : Nat} {entries : List SignedEntry} {signed : SignedEntry} {preflight result : PayloadPreflight}
  {actrBytes pubkey bytes : List UInt8} {v : VerifiedPackage} {maxBytes total : Nat}
variable {files : List (String × List UInt8)}

def heldBytes (archive : ZipArchive) (path : String) : Nat :=
  match archive path with
  | .ok entry => entry.bytes.length
  | .error _ => 0

def HoldsSigned (formats : Formats) (archive : ZipArchive) (maxEntryBytes : Nat) (signed : SignedEntry) : Prop :=
  ∃ entry, archive signed.path = .ok entry ∧ formats.sha256Hex entry.bytes = signed.hash ∧
    entry.bytes.length ≤ maxEntryBytes

theorem payloadHash_eq_ok (computed : formats.payloadHash limits consumed archive name = .ok (hash, consumed')) :
    ∃ entry, archive name = .ok entry ∧ hash = formats.sha256Hex entry.bytes ∧
      consumed' = consumed + entry.bytes.length ∧ entry.bytes.length ≤ limits.maxEntryBytes ∧
      entry.bytes.length ≤ limits.maxTotalBytes - consumed := by
  unfold Formats.payloadHash at computed
  simp only [bind_eq_ok, mapError_eq_ok, require_eq_ok, pure_eq_ok, Prod.exists, Prod.mk.injEq] at computed
  obtain ⟨found, length, read, -, -, rfl, rfl⟩ := computed
  obtain ⟨entry, listed, rfl, rfl, allowed⟩ := sha256ZipEntryBounded_eq_ok read
  exact ⟨entry, listed, rfl, rfl, (Nat.le_min.mp allowed).1, (Nat.le_min.mp allowed).2⟩

theorem verifyEntries_eq_ok (within : consumed ≤ limits.maxTotalBytes) {done : Unit}
    (verified : formats.verifyEntries limits archive consumed entries = .ok done) :
    (∀ signed ∈ entries, HoldsSigned formats archive limits.maxEntryBytes signed) ∧
      consumed + (entries.map fun signed => heldBytes archive signed.path).sum ≤ limits.maxTotalBytes := by
  induction entries generalizing consumed with
  | nil => exact ⟨nofun, by simpa using within⟩
  | cons first rest ih =>
    unfold Formats.verifyEntries at verified
    simp only [bind_eq_ok, require_eq_ok, Prod.exists] at verified
    obtain ⟨computed, consumed', hashed, -, same, verified⟩ := verified
    obtain ⟨entry, listed, rfl, rfl, small, remaining⟩ := payloadHash_eq_ok hashed
    have held : heldBytes archive first.path = entry.bytes.length := by simp [heldBytes, listed]
    obtain ⟨others, sum⟩ := ih (by omega) verified
    constructor
    · intro signed member
      rcases List.mem_cons.mp member with rfl | later
      · exact ⟨entry, listed, same, small⟩
      · exact others signed later
    · rw [List.map_cons, List.sum_cons, held]
      omega

theorem check_eq_ok (checked : preflight.check limits archive name = .ok result) :
    result.entries = preflight.entries + 1 ∧ result.entries ≤ limits.maxEntries := by
  unfold PayloadPreflight.check at checked
  simp only [bind_eq_ok, require_eq_ok, pure_eq_ok] at checked
  obtain ⟨-, -, -, few, _, -, -, -, -, -, -, -, rfl⟩ := checked
  exact ⟨rfl, few⟩

theorem checkEntries_eq_ok (checked : checkEntries limits archive preflight entries = .ok result)
    (few : preflight.entries ≤ limits.maxEntries) : preflight.entries + entries.length ≤ limits.maxEntries := by
  induction entries generalizing preflight with
  | nil => exact few
  | cons first rest ih =>
    obtain ⟨next, once, checked⟩ := bind_eq_ok.mp checked
    obtain ⟨count, few⟩ := check_eq_ok once
    have later := ih checked few
    rw [List.length_cons]
    omega

def Stored (formats : Formats) (actrBytes : List UInt8) (path : String) (content : List UInt8) : Prop :=
  ∃ archive entry, formats.openZip actrBytes = .ok archive ∧ archive path = .ok entry ∧ entry.bytes = content

structure Content (formats : Formats) (actrBytes : List UInt8) (path hash : String) (content : List UInt8) : Prop where
  stored : Stored formats actrBytes path content
  hashed : formats.sha256Hex content = hash
  unique : ∀ other, formats.sha256Hex other = hash → other = content

/-- What `verify_with_limits` vouches for, and what the readers then answer. -/
structure Genuine (formats : Formats) (actrBytes pubkey : List UInt8) (limits : PackageVerificationLimits)
    (v : VerifiedPackage) : Prop where
  manifest : Stored formats actrBytes "manifest.toml" v.manifestRaw ∧ formats.parseManifest v.manifestRaw = .ok v.manifest
  signed : formats.verifyStrict pubkey v.manifestRaw v.sigRaw = .ok ()
  contents : ∀ signed ∈ v.manifest.signedEntries, ∃ content,
    Content formats actrBytes signed.path signed.hash content ∧ content.length ≤ limits.maxEntryBytes
  count : v.manifest.signedEntries.length ≤ limits.maxEntries
  total : ∃ archive, formats.openZip actrBytes = .ok archive ∧
    (v.manifest.signedEntries.map fun signed => heldBytes archive signed.path).sum ≤ limits.maxTotalBytes
  binary : ∀ maxBytes bytes, formats.loadBinaryBounded actrBytes maxBytes = .ok bytes →
    Content formats actrBytes v.manifest.binary.path v.manifest.binary.hash bytes
  protos : ∀ maxBytes files, formats.readProtoFilesBounded actrBytes v.manifest maxBytes = .ok files →
    List.Forall₂ (fun proto file => file.1 = proto.name ∧ Content formats actrBytes proto.path proto.hash file.2)
      v.manifest.protoFiles files
  lock : ∀ lock maxBytes bytes, v.manifest.lockFile = some lock →
    formats.readLockFileBounded actrBytes lock.path maxBytes = .ok (some bytes) →
    Content formats actrBytes lock.path lock.hash bytes
  glue : ∀ maxBytes text, formats.readGlueJsBounded actrBytes v.manifest maxBytes = .ok (some text) →
    ∃ resource ∈ v.manifest.resources, Content formats actrBytes resource.path resource.hash (Text.utf8 text)

section

variable (collisionFree : Function.Injective formats.sha256)
include collisionFree

theorem sha256Hex_injective : Function.Injective formats.sha256Hex := by
  intro first second same
  exact collisionFree (Text.hexEncode_injective same)

theorem content_of_read (opened : formats.openZip actrBytes = .ok archive)
    (held : ∀ signed ∈ entries, HoldsSigned formats archive limits.maxEntryBytes signed) (member : signed ∈ entries)
    (read : readZipEntryBounded archive signed.path maxBytes = .ok bytes) :
    Content formats actrBytes signed.path signed.hash bytes := by
  obtain ⟨entry, listed, rfl, -⟩ := readZipEntryBounded_eq_ok read
  obtain ⟨entry', listed', hashed, -⟩ := held signed member
  cases listed.symm.trans listed'
  constructor
  case stored => exact ⟨archive, entry, opened, listed, rfl⟩
  case hashed => exact hashed
  case unique =>
    intro other same
    exact sha256Hex_injective collisionFree (same.trans hashed.symm)

theorem readProtos_contents (opened : formats.openZip actrBytes = .ok archive)
    (held : ∀ signed ∈ entries, HoldsSigned formats archive limits.maxEntryBytes signed)
    {protos : List ProtoFileEntry}
    (listed : ∀ proto ∈ protos, ⟨proto.path, proto.hash, .protoHashMismatch proto.path⟩ ∈ entries)
    (read : Formats.readProtos archive maxBytes total protos = .ok files) :
    List.Forall₂ (fun proto file => file.1 = proto.name ∧ Content formats actrBytes proto.path proto.hash file.2)
      protos files := by
  induction protos generalizing total files with
  | nil =>
    cases read
    exact .nil
  | cons proto rest ih =>
    unfold Formats.readProtos at read
    simp only [bind_eq_ok, mapError_eq_ok, require_eq_ok, pure_eq_ok] at read
    obtain ⟨content, first, -, -, others, read, rfl⟩ := read
    have own := content_of_read collisionFree opened held (listed proto List.mem_cons_self) first
    exact .cons ⟨rfl, own⟩ (ih (fun other member => listed other (List.mem_cons_of_mem _ member)) read)

end

section Readers

variable {manifest : PackageManifest} (collisionFree : Function.Injective formats.sha256)
  (opened : formats.openZip actrBytes = .ok archive)
  (held : ∀ signed ∈ manifest.signedEntries, HoldsSigned formats archive limits.maxEntryBytes signed)
include collisionFree opened held

theorem loadBinary_content {manifestRaw : List UInt8}
    (read : readZipEntryBounded archive "manifest.toml" maxManifestBytes = .ok manifestRaw)
    (parsed : formats.parseManifest manifestRaw = .ok manifest)
    (loaded : formats.loadBinaryBounded actrBytes maxBytes = .ok bytes) :
    Content formats actrBytes manifest.binary.path manifest.binary.hash bytes := by
  unfold Formats.loadBinaryBounded at loaded
  simp only [bind_eq_ok, mapError_eq_ok] at loaded
  obtain ⟨archive', opened', manifestBytes, read', manifest', parsed', loaded⟩ := loaded
  cases opened.symm.trans opened'
  cases read.symm.trans read'
  cases parsed.symm.trans parsed'
  have listed : ⟨manifest.binary.path, manifest.binary.hash, .binaryHashMismatch manifest.binary.path⟩ ∈
      manifest.signedEntries := List.mem_cons_self
  exact content_of_read collisionFree opened held listed loaded

theorem readProtoFiles_contents (loaded : formats.readProtoFilesBounded actrBytes manifest maxBytes = .ok files) :
    List.Forall₂ (fun proto file => file.1 = proto.name ∧ Content formats actrBytes proto.path proto.hash file.2)
      manifest.protoFiles files := by
  unfold Formats.readProtoFilesBounded at loaded
  simp only [bind_eq_ok, mapError_eq_ok, require_eq_ok] at loaded
  obtain ⟨-, -, archive', opened', loaded⟩ := loaded
  cases opened.symm.trans opened'
  apply readProtos_contents collisionFree opened held _ loaded
  intro proto member
  simp only [PackageManifest.signedEntries, List.mem_cons, List.mem_append, List.mem_map]
  exact .inr (.inl (.inr ⟨proto, member, rfl⟩))

theorem readLockFile_content {lock : LockFileEntry} (listed : manifest.lockFile = some lock)
    (loaded : formats.readLockFileBounded actrBytes lock.path maxBytes = .ok (some bytes)) :
    Content formats actrBytes lock.path lock.hash bytes := by
  unfold Formats.readLockFileBounded at loaded
  simp only [bind_eq_ok, mapError_eq_ok] at loaded
  obtain ⟨archive', opened', loaded⟩ := loaded
  cases opened.symm.trans opened'
  have member : ⟨lock.path, lock.hash, .lockFileHashMismatch lock.path⟩ ∈ manifest.signedEntries := by
    simp [PackageManifest.signedEntries, listed]
  split at loaded
  case h_1 content found =>
    cases loaded
    exact content_of_read collisionFree opened held member found
  case h_2 | h_3 => cases loaded

theorem readGlueJs_content {text : String}
    (loaded : formats.readGlueJsBounded actrBytes manifest maxBytes = .ok (some text)) :
    ∃ resource ∈ manifest.resources, Content formats actrBytes resource.path resource.hash (Text.utf8 text) := by
  unfold Formats.readGlueJsBounded at loaded
  split at loaded
  case h_1 => cases loaded
  case h_2 name chosen =>
    simp only [bind_eq_ok, mapError_eq_ok, okOr_eq_ok, pure_eq_ok] at loaded
    obtain ⟨archive', opened', content, found, decoded, text', same⟩ := loaded
    cases opened.symm.trans opened'
    cases same
    obtain ⟨resource, member, rfl⟩ := List.mem_map.mp (List.mem_of_find?_eq_some chosen)
    have listed : ⟨resource.path, resource.hash, .resourceHashMismatch resource.path⟩ ∈ manifest.signedEntries := by
      simp only [PackageManifest.signedEntries, List.mem_cons, List.mem_append, List.mem_map]
      exact .inr (.inl (.inl ⟨resource, member, rfl⟩))
    rw [Text.utf8_of_fromUtf8 text']
    exact ⟨resource, member, content_of_read collisionFree opened held listed found⟩

end Readers

theorem verifyWithLimits_eq_ok (verified : formats.verifyWithLimits actrBytes pubkey limits = .ok v) :
    ∃ archive, formats.openZip actrBytes = .ok archive ∧
      readZipEntryBounded archive "manifest.toml" maxManifestBytes = .ok v.manifestRaw ∧
      formats.verifyStrict pubkey v.manifestRaw v.sigRaw = .ok () ∧
      formats.parseManifest v.manifestRaw = .ok v.manifest ∧ v.manifest.signedEntries.length ≤ limits.maxEntries ∧
      (∀ signed ∈ v.manifest.signedEntries, HoldsSigned formats archive limits.maxEntryBytes signed) ∧
      (v.manifest.signedEntries.map fun signed => heldBytes archive signed.path).sum ≤ limits.maxTotalBytes := by
  unfold Formats.verifyWithLimits at verified
  simp only [bind_eq_ok, mapError_eq_ok, require_eq_ok, pure_eq_ok] at verified
  obtain ⟨archive, opened, sigRaw, -, -, -, manifestBytes, read, _, signature, manifest, parsed, _, -, preflight, checked,
    _, hashed, rfl⟩ := verified
  obtain ⟨held, total⟩ := verifyEntries_eq_ok (Nat.zero_le _) hashed
  have count := checkEntries_eq_ok checked (Nat.zero_le _)
  rw [Nat.zero_add] at count total
  exact ⟨archive, opened, read, signature, parsed, count, held, total⟩

theorem verified_contents_are_signed (collisionFree : Function.Injective formats.sha256)
    (verified : formats.verifyWithLimits actrBytes pubkey limits = .ok v) :
    Genuine formats actrBytes pubkey limits v := by
  obtain ⟨archive, opened, read, signature, parsed, count, held, total⟩ := verifyWithLimits_eq_ok verified
  constructor
  case manifest =>
    obtain ⟨entry, listed, same, -⟩ := readZipEntryBounded_eq_ok read
    exact ⟨⟨archive, entry, opened, listed, same⟩, parsed⟩
  case signed => exact signature
  case contents =>
    intro signed member
    obtain ⟨entry, listed, hashed, small⟩ := held signed member
    refine ⟨entry.bytes, ⟨⟨archive, entry, opened, listed, rfl⟩, hashed, ?_⟩, small⟩
    intro other same
    exact sha256Hex_injective collisionFree (same.trans hashed.symm)
  case count => exact count
  case total => exact ⟨archive, opened, total⟩
  case binary => exact fun maxBytes bytes => loadBinary_content collisionFree opened held read parsed
  case protos => exact fun maxBytes files => readProtoFiles_contents collisionFree opened held
  case lock => exact fun lock maxBytes bytes => readLockFile_content collisionFree opened held
  case glue => exact fun maxBytes text => readGlueJs_content collisionFree opened held

section Example

def wasmBytes : List UInt8 := List.replicate 32 1

def glueBytes : List UInt8 := List.replicate 32 106

def smallManifest : PackageManifest :=
  { manufacturer := "acme"
    name := "echo"
    version := "1.0"
    binary := ⟨"bin/actor.wasm", "wasm32", Text.hexEncode wasmBytes, some 32, none⟩
    signatureAlgorithm := "ed25519"
    signingKeyId := none
    resources := [⟨"resources/glue.js", Text.hexEncode glueBytes⟩]
    protoFiles := []
    lockFile := none
    metadata := ⟨none, none⟩ }

def smallArchive : ZipArchive
  | "manifest.sig" => .ok ⟨64, [List.replicate 64 9], none, by decide⟩
  | "manifest.toml" => .ok ⟨3, [Text.utf8 "toml"], none, by decide⟩
  | "bin/actor.wasm" => .ok ⟨5, [List.replicate 20 1, List.replicate 12 1], none, by decide⟩
  | "resources/glue.js" => .ok ⟨32, [glueBytes], none, by decide⟩
  | _ => .error .fileNotFound

def smallFormats : Formats where
  openZip _ := .ok smallArchive
  writeZip _ := .error (.ioError "read only")
  fromToml _ := .ok smallManifest
  toToml _ := .ok "toml"
  utf8Error _ := ""
  sha256 := id
  sign _ _ := List.replicate 64 9
  verifyingKey := id
  verifyStrict _ _ _ := .ok ()

theorem small_package_is_genuine : Function.Injective smallFormats.sha256 ∧
      smallFormats.verifyWithLimits [] [] ⟨32, 64, 2⟩ = .ok ⟨smallManifest, Text.utf8 "toml", List.replicate 64 9⟩ ∧
      Genuine smallFormats [] [] ⟨32, 64, 2⟩ ⟨smallManifest, Text.utf8 "toml", List.replicate 64 9⟩ := by
  have collisionFree : Function.Injective smallFormats.sha256 := fun _ _ same => same
  have verified : smallFormats.verifyWithLimits [] [] ⟨32, 64, 2⟩ =
      .ok ⟨smallManifest, Text.utf8 "toml", List.replicate 64 9⟩ := by decide +kernel
  exact ⟨collisionFree, verified, verified_contents_are_signed collisionFree verified⟩

end Example

end Actr.Proof.Pack
