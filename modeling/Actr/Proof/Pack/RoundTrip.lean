import Actr.Pack.Pack
import Actr.Proof.Pack.Verify
import Mathlib.Data.List.Nodup
import Mathlib.Data.List.Perm.Subperm

/-! # Packing and verifying -/

namespace Actr.Proof.Pack
open Actr.Pack Library Checks

variable {formats : Formats} {archive : ZipArchive} {limits : PackageVerificationLimits} {entries : List SignedEntry}
  {preflight : PayloadPreflight} {consumed total : Nat} {opts : PackOptions} {bytes data : List UInt8} {name : String}

structure Lawful (formats : Formats) : Prop where
  zip : ∀ files bytes, formats.writeZip files = .ok bytes → (files.map Prod.fst).Nodup ∧
    ∃ archive, formats.openZip bytes = .ok archive ∧ ∀ file ∈ files, ∃ entry, archive file.1 = .ok entry ∧
      entry.size = file.2.length ∧ entry.bytes = file.2 ∧ entry.fault = none
  toml : ∀ manifest text, formats.toToml manifest = .ok text → formats.fromToml text = .ok manifest
  signature : ∀ key message, formats.verifyStrict (formats.verifyingKey key) message (formats.sign key message) = .ok () ∧
    (formats.sign key message).length = 64
  digest : ∀ data, (formats.sha256 data).length = 32

def Faithful (formats : Formats) (archive : ZipArchive) (signed : SignedEntry) : Prop :=
  ∃ entry, archive signed.path = .ok entry ∧ entry.size = entry.bytes.length ∧ entry.fault = none ∧
    formats.sha256Hex entry.bytes = signed.hash

theorem heldBytes_of_ok {entry : ZipEntry} (listed : archive name = .ok entry) :
    heldBytes archive name = entry.bytes.length := by
  simp [heldBytes, listed]

theorem check_of_fits {entry : ZipEntry} (listed : archive name = .ok entry) (size : entry.size = entry.bytes.length)
    (few : preflight.entries + 1 ≤ limits.maxEntries) (countable : limits.maxEntries ≤ usizeMax)
    (small : entry.bytes.length ≤ limits.maxEntryBytes)
    (within : preflight.totalBytes + entry.bytes.length ≤ limits.maxTotalBytes)
    (measurable : limits.maxTotalBytes ≤ usizeMax) :
    preflight.check limits archive name = .ok ⟨preflight.entries + 1, preflight.totalBytes + entry.bytes.length⟩ := by
  unfold PayloadPreflight.check
  dsimp only
  rw [require_of (Nat.le_trans few countable), ok_bind, require_of few, ok_bind, listed]
  rw [mapError_ok, ok_bind, size, require_of small, ok_bind, require_of (Nat.le_trans within measurable), ok_bind, require_of within, ok_bind]
  rfl

theorem checkEntries_of_faithful (faithful : ∀ signed ∈ entries, Faithful formats archive signed)
    (few : preflight.entries + entries.length ≤ limits.maxEntries) (countable : limits.maxEntries ≤ usizeMax)
    (within : preflight.totalBytes + (entries.map fun signed => heldBytes archive signed.path).sum ≤
      limits.maxTotalBytes)
    (single : limits.maxTotalBytes ≤ limits.maxEntryBytes) (measurable : limits.maxTotalBytes ≤ usizeMax) :
    ∃ result, checkEntries limits archive preflight entries = .ok result := by
  induction entries generalizing preflight with
  | nil => exact ⟨preflight, rfl⟩
  | cons first rest ih =>
    obtain ⟨entry, listed, size, -, -⟩ := faithful first List.mem_cons_self
    rw [List.map_cons, List.sum_cons, heldBytes_of_ok listed] at within
    rw [List.length_cons] at few
    unfold checkEntries
    rw [check_of_fits listed size (by omega) countable (by omega) (by omega) measurable, ok_bind]
    apply ih (fun signed member => faithful signed (List.mem_cons_of_mem _ member))
    · dsimp only
      omega
    · dsimp only
      omega

theorem verifyEntries_of_faithful (faithful : ∀ signed ∈ entries, Faithful formats archive signed)
    (within : consumed + (entries.map fun signed => heldBytes archive signed.path).sum ≤ limits.maxTotalBytes)
    (single : limits.maxTotalBytes ≤ limits.maxEntryBytes) (measurable : limits.maxTotalBytes ≤ usizeMax) :
    formats.verifyEntries limits archive consumed entries = .ok () := by
  induction entries generalizing consumed with
  | nil => rfl
  | cons first rest ih =>
    obtain ⟨entry, listed, size, sound, hashed⟩ := faithful first List.mem_cons_self
    rw [List.map_cons, List.sum_cons, heldBytes_of_ok listed] at within
    have allowed : entry.bytes.length ≤ min limits.maxEntryBytes (limits.maxTotalBytes - consumed) := by omega
    have read : formats.sha256ZipEntryBounded archive first.path _ = _ :=
      sha256ZipEntryBounded_of_fits listed (size ▸ allowed) sound allowed
    have payload : formats.payloadHash limits consumed archive first.path =
        .ok (first.hash, consumed + entry.bytes.length) := by
      unfold Formats.payloadHash
      dsimp only
      rw [read, mapError_ok, ok_bind]
      rw [require_of (show consumed + entry.bytes.length ≤ usizeMax by omega), ok_bind, hashed]
      rfl
    unfold Formats.verifyEntries
    rw [payload, ok_bind]
    dsimp only
    rw [require_of rfl, ok_bind]
    exact ih (fun signed member => faithful signed (List.mem_cons_of_mem _ member)) (by omega)

theorem validateSha256_sha256Hex {field : String} (lawful : Lawful formats) :
    validateSha256 field (formats.sha256Hex data) = .ok () := by
  apply require_of
  constructor
  · rw [Formats.sha256Hex, Text.utf8ByteSize_hexEncode, lawful.digest]
  · rw [List.all_eq_true, Formats.sha256Hex]
    exact fun char => Text.of_mem_hexEncode (P := (isHexDigit · = true)) (by decide)

theorem validateAll_of_hashes {field : String} (lawful : Lawful formats) {hashes : List String}
    (computed : ∀ hash ∈ hashes, ∃ data, hash = formats.sha256Hex data) : validateAll field hashes = .ok () := by
  induction hashes with
  | nil => rfl
  | cons hash rest ih =>
    obtain ⟨data, rfl⟩ := computed hash List.mem_cons_self
    unfold validateAll
    rw [validateSha256_sha256Hex lawful, ok_bind]
    exact ih fun other member => computed other (List.mem_cons_of_mem _ member)

def givenResources (formats : Formats) (opts : PackOptions) : List (String × String) :=
  opts.resources.map fun given => (given.1, formats.sha256Hex given.2)

/-- A template with as many resources as are given has, with the hashes put to its paths, the given ones. -/
def ResourcesAgree (formats : Formats) (opts : PackOptions) : Prop :=
  opts.manifest.resources.length = opts.resources.length →
    (opts.manifest.resources.zipWith (fun entry given => (entry.path, formats.sha256Hex given.2)) opts.resources).Perm
      (givenResources formats opts)

theorem resourcesAgree_iff : ResourcesAgree formats opts ↔
      ((formats.packResources opts).map fun entry => (entry.path, entry.hash)).Perm (givenResources formats opts) := by
  unfold ResourcesAgree Formats.packResources
  by_cases same : opts.manifest.resources.length = opts.resources.length
  · rw [if_neg (not_not_intro same), List.map_zipWith]
    exact ⟨fun agree => agree same, fun agree _ => agree⟩
  · rw [if_pos same, List.map_map]
    exact iff_of_true (fun contrary => absurd contrary same) (List.Perm.refl _)

theorem given_of_listed {entry : ResourceEntry} (agree : ResourcesAgree formats opts)
    (listed : entry ∈ formats.packResources opts) :
    ∃ given ∈ opts.resources, given.1 = entry.path ∧ formats.sha256Hex given.2 = entry.hash := by
  have pair := (resourcesAgree_iff.mp agree).subset (List.mem_map.mpr ⟨entry, listed, rfl⟩)
  obtain ⟨given, member, same⟩ := List.mem_map.mp pair
  exact ⟨given, member, Prod.mk.inj same⟩

theorem packResources_length : (formats.packResources opts).length = opts.resources.length := by
  unfold Formats.packResources
  split
  · rw [List.length_map]
  · next same =>
    rw [List.length_zipWith]
    omega

structure WithinLimits (opts : PackOptions) : Prop where
  count : 1 + opts.resources.length + opts.protoFiles.length + opts.lockFile.toList.length ≤ defaultMaxVerifiedEntries
  total : opts.binaryBytes.length + (opts.resources.map fun given => given.2.length).sum +
    (opts.protoFiles.map fun given => given.2.length).sum + (opts.lockFile.toList.map fun bytes => bytes.length).sum ≤
      defaultMaxVerifiedEntryBytes

def ManifestFits (formats : Formats) (opts : PackOptions) : Prop :=
  ∀ text, formats.toToml (formats.packManifest opts) = .ok text → (Text.utf8 text).length ≤ maxManifestBytes

structure RoundTrips (formats : Formats) (opts : PackOptions) (bytes : List UInt8) (v : VerifiedPackage) : Prop where
  verified : formats.verify bytes (formats.verifyingKey opts.signingKey) = .ok v
  manufacturer : v.manifest.manufacturer = opts.manifest.manufacturer
  name : v.manifest.name = opts.manifest.name
  version : v.manifest.version = opts.manifest.version
  target : v.manifest.binary.target = opts.manifest.binary.target
  binary : formats.loadBinary bytes = .ok opts.binaryBytes
  protoFiles : formats.readProtoFiles bytes = .ok opts.protoFiles
  lockFile : formats.readLockFile bytes = .ok opts.lockFile
  resources : ∀ given ∈ opts.resources, ∃ entry ∈ v.manifest.resources,
    entry.path = given.1 ∧ entry.hash = formats.sha256Hex given.2

structure Packed (formats : Formats) (opts : PackOptions) (bytes : List UInt8) (archive : ZipArchive) (text : String) :
    Prop where
  written : formats.toToml (formats.packManifest opts) = .ok text
  parsed : formats.parseManifest (Text.utf8 text) = .ok (formats.packManifest opts)
  opened : formats.openZip bytes = .ok archive
  distinct : ((Formats.packFiles opts (Text.utf8 text) (formats.sign opts.signingKey (Text.utf8 text))).map
    Prod.fst).Nodup
  stored : ∀ file ∈ Formats.packFiles opts (Text.utf8 text) (formats.sign opts.signingKey (Text.utf8 text)),
    ∃ entry, archive file.1 = .ok entry ∧ entry.size = file.2.length ∧ entry.bytes = file.2 ∧ entry.fault = none

theorem packed_of_pack (lawful : Lawful formats) (packed : formats.pack opts = .ok bytes) :
    ∃ archive text, Packed formats opts bytes archive text := by
  unfold Formats.pack at packed
  simp only [bind_eq_ok, mapError_eq_ok] at packed
  obtain ⟨text, written, files⟩ := packed
  obtain ⟨distinct, archive, opened, stored⟩ := lawful.zip _ _ files
  refine ⟨archive, text, written, ?_, opened, distinct, stored⟩
  unfold Formats.parseManifest
  rw [Text.fromUtf8_utf8]
  change Except.mapError _ (formats.fromToml text) = _
  rw [lawful.toml _ _ written]
  rfl

section Archive

variable {text : String} {file : String × List UInt8} {v : VerifiedPackage}

section

variable (packed : Packed formats opts bytes archive text)
  (member : file ∈ Formats.packFiles opts (Text.utf8 text) (formats.sign opts.signingKey (Text.utf8 text)))
include packed member

theorem Packed.read {maxBytes : Nat} (fits : file.2.length ≤ maxBytes) :
    readZipEntryBounded archive file.1 maxBytes = .ok file.2 := by
  obtain ⟨entry, listed, size, content, sound⟩ := packed.stored file member
  have read : readZipEntryBounded archive file.1 maxBytes = .ok entry.bytes :=
    readZipEntryBounded_of_fits listed (size ▸ fits) sound (content ▸ fits)
  rw [read, content]

theorem Packed.held : heldBytes archive file.1 = file.2.length := by
  obtain ⟨entry, listed, -, content, -⟩ := packed.stored file member
  rw [heldBytes_of_ok listed, content]

theorem Packed.faithful (mismatch : PackError) :
    Faithful formats archive ⟨file.1, formats.sha256Hex file.2, mismatch⟩ := by
  obtain ⟨entry, listed, size, content, sound⟩ := packed.stored file member
  exact ⟨entry, listed, by rw [size, content], sound, by rw [content]⟩

end

variable {manifestBytes sigBytes : List UInt8}

theorem mem_packFiles_manifest : ("manifest.toml", manifestBytes) ∈ Formats.packFiles opts manifestBytes sigBytes := by
  simp [Formats.packFiles]

theorem mem_packFiles_signature : ("manifest.sig", sigBytes) ∈ Formats.packFiles opts manifestBytes sigBytes := by
  simp [Formats.packFiles]

theorem mem_packFiles_lock {lock : List UInt8} (given : opts.lockFile = some lock) :
    ("manifest.lock.toml", lock) ∈ Formats.packFiles opts manifestBytes sigBytes := by
  simp [Formats.packFiles, given]

theorem mem_packFiles_binary :
    (opts.manifest.binary.path, opts.binaryBytes) ∈ Formats.packFiles opts manifestBytes sigBytes := by
  simp [Formats.packFiles]

theorem mem_packFiles_resource (given : file ∈ opts.resources) :
    file ∈ Formats.packFiles opts manifestBytes sigBytes := by
  simp [Formats.packFiles, given]

theorem mem_packFiles_proto (given : file ∈ opts.protoFiles) :
    ("proto/" ++ file.1, file.2) ∈ Formats.packFiles opts manifestBytes sigBytes := by
  exact List.mem_append_right _ (List.mem_map.mpr ⟨file, given, rfl⟩)

theorem resources_sublist : opts.resources.Sublist (Formats.packFiles opts manifestBytes sigBytes) := by
  exact (List.sublist_append_right _ _).trans (List.sublist_append_left _ _)

section

variable (packed : Packed formats opts bytes archive text)
include packed

theorem Packed.readManifest (fits : ManifestFits formats opts) :
    formats.readManifest bytes = .ok (formats.packManifest opts) := by
  have read := packed.read mem_packFiles_manifest (fits text packed.written)
  unfold Formats.readManifest
  rw [packed.opened, mapError_ok, ok_bind, read, mapError_ok, ok_bind]
  exact packed.parsed

theorem Packed.loadBinary (within : WithinLimits opts) (fits : ManifestFits formats opts) :
    formats.loadBinary bytes = .ok opts.binaryBytes := by
  have manifest := packed.read mem_packFiles_manifest (fits text packed.written)
  have small : opts.binaryBytes.length ≤ defaultMaxVerifiedEntryBytes := by
    have := within.total
    omega
  have binary := packed.read mem_packFiles_binary small
  unfold Formats.loadBinary Formats.loadBinaryBounded
  rw [packed.opened, mapError_ok, ok_bind, manifest, mapError_ok, ok_bind, packed.parsed, ok_bind]
  change Except.mapError _ (readZipEntryBounded archive opts.manifest.binary.path _) = _
  rw [binary]
  rfl

theorem Packed.readLockFile (within : WithinLimits opts) (fits : ManifestFits formats opts) :
    formats.readLockFile bytes = .ok opts.lockFile := by
  unfold Formats.readLockFile
  rw [packed.readManifest fits, ok_bind]
  cases given : opts.lockFile with
  | none => simp [Formats.packManifest, given, pure, Except.pure]
  | some lock =>
    have small : lock.length ≤ defaultMaxVerifiedEntryBytes := by
      have total := within.total
      rw [given] at total
      simp only [Option.toList_some, List.map_cons, List.map_nil, List.sum_cons, List.sum_nil] at total
      omega
    have read := packed.read (mem_packFiles_lock given) small
    simp only [Formats.packManifest, given, Option.map_some, Formats.readLockFileBounded, packed.opened,
      mapError_ok, ok_bind, read]
    rfl

theorem Packed.readProtos {files : List (String × List UInt8)} (listed : ∀ file ∈ files, file ∈ opts.protoFiles)
    {maxBytes : Nat} (within : total + (files.map fun file => file.2.length).sum ≤ maxBytes)
    (measurable : maxBytes ≤ usizeMax) :
    Formats.readProtos archive maxBytes total
      (files.map fun (name, content) => ⟨name, "proto/" ++ name, formats.sha256Hex content⟩) = .ok files := by
  induction files generalizing total with
  | nil => rfl
  | cons file rest ih =>
    rw [List.map_cons, List.sum_cons] at within
    have small : file.2.length ≤ maxBytes - total := by omega
    have read := packed.read (mem_packFiles_proto (listed file List.mem_cons_self)) small
    have sizes : total + file.2.length + (rest.map fun file => file.2.length).sum ≤ maxBytes := by omega
    have later := ih (fun other member => listed other (List.mem_cons_of_mem _ member)) sizes
    rw [List.map_cons]
    unfold Formats.readProtos
    dsimp only
    rw [read, mapError_ok, ok_bind]
    rw [require_of (show total + file.2.length ≤ usizeMax by omega), ok_bind, later]
    rfl

theorem Packed.readProtoFiles (within : WithinLimits opts) (fits : ManifestFits formats opts) :
    formats.readProtoFiles bytes = .ok opts.protoFiles := by
  have few : (formats.packManifest opts).protoFiles.length ≤ defaultMaxVerifiedEntries := by
    have count := within.count
    simp only [Formats.packManifest, List.length_map]
    omega
  have sizes : 0 + (opts.protoFiles.map fun file => file.2.length).sum ≤ defaultMaxVerifiedEntryBytes := by
    have total := within.total
    omega
  have read := packed.readProtos (fun _ member => member) sizes (by decide)
  unfold Formats.readProtoFiles
  rw [packed.readManifest fits, ok_bind]
  unfold Formats.readProtoFilesBounded
  rw [require_of few, ok_bind, packed.opened, mapError_ok, ok_bind]
  exact read

theorem Packed.signed_faithful (agree : ResourcesAgree formats opts) :
    ∀ signed ∈ (formats.packManifest opts).signedEntries, Faithful formats archive signed := by
  intro signed member
  simp only [PackageManifest.signedEntries, List.mem_cons, List.mem_append, List.mem_map] at member
  rcases member with rfl | (⟨entry, listed, rfl⟩ | ⟨entry, listed, rfl⟩) | ⟨entry, listed, rfl⟩
  · exact packed.faithful mem_packFiles_binary _
  · obtain ⟨given, member, path, hash⟩ := given_of_listed agree listed
    have faithful := packed.faithful (mem_packFiles_resource member) (.resourceHashMismatch entry.path)
    rw [path, hash] at faithful
    exact faithful
  · obtain ⟨given, member, rfl⟩ := List.mem_map.mp listed
    exact packed.faithful (mem_packFiles_proto member) _
  · obtain ⟨lock, given, rfl⟩ := Option.map_eq_some_iff.mp (Option.mem_toList.mp listed)
    exact packed.faithful (mem_packFiles_lock given) _

theorem Packed.signed_total (agree : ResourcesAgree formats opts) :
    ((formats.packManifest opts).signedEntries.map fun signed => heldBytes archive signed.path).sum =
      opts.binaryBytes.length + ((opts.resources.map fun given => given.2.length).sum +
        (opts.protoFiles.map fun given => given.2.length).sum +
        (opts.lockFile.toList.map fun bytes => bytes.length).sum) := by
  have resources : ((formats.packResources opts).map fun entry => heldBytes archive entry.path).sum =
      (opts.resources.map fun given => given.2.length).sum := by
    have permuted := ((resourcesAgree_iff.mp agree).map fun pair => heldBytes archive pair.1).sum_nat
    rw [List.map_map, givenResources, List.map_map] at permuted
    refine permuted.trans (congrArg List.sum (List.map_congr_left ?_))
    intro given member
    exact packed.held (mem_packFiles_resource member)
  have protos : (opts.protoFiles.map fun given => heldBytes archive ("proto/" ++ given.1)) =
      opts.protoFiles.map fun given => given.2.length := by
    apply List.map_congr_left
    intro given member
    exact packed.held (mem_packFiles_proto member)
  have lock : (opts.lockFile.toList.map fun _ => heldBytes archive "manifest.lock.toml") =
      opts.lockFile.toList.map fun bytes => bytes.length := by
    apply List.map_congr_left
    intro bytes member
    exact packed.held (mem_packFiles_lock (Option.mem_toList.mp member))
  have binary := packed.held mem_packFiles_binary
  rw [← resources, ← protos, ← lock, ← binary]
  simp only [PackageManifest.signedEntries, Formats.packManifest, List.map_cons, List.map_append, List.map_map,
    List.sum_cons, List.sum_append, Option.toList_map]
  rfl

end

theorem Packed.integrity (lawful : Lawful formats) (algorithm : opts.manifest.signatureAlgorithm = "ed25519")
    (agree : ResourcesAgree formats opts) : validateManifestIntegrityFields (formats.packManifest opts) = .ok () := by
  unfold validateManifestIntegrityFields
  rw [require_of (show (formats.packManifest opts).signatureAlgorithm = "ed25519" from algorithm), ok_bind]
  have binary : validateSha256 "binary.hash" (formats.packManifest opts).binary.hash = .ok () :=
    validateSha256_sha256Hex lawful
  rw [binary, ok_bind, validateAll_of_hashes lawful, ok_bind, validateAll_of_hashes lawful, ok_bind,
    validateAll_of_hashes lawful]
  · intro hash member
    obtain ⟨entry, listed, rfl⟩ := List.mem_map.mp member
    obtain ⟨lock, -, rfl⟩ := Option.map_eq_some_iff.mp (Option.mem_toList.mp listed)
    exact ⟨lock, rfl⟩
  · intro hash member
    obtain ⟨entry, listed, rfl⟩ := List.mem_map.mp member
    obtain ⟨given, -, rfl⟩ := List.mem_map.mp listed
    exact ⟨given.2, rfl⟩
  · intro hash member
    obtain ⟨entry, listed, rfl⟩ := List.mem_map.mp member
    obtain ⟨given, -, -, hash⟩ := given_of_listed agree listed
    exact ⟨given.2, hash.symm⟩

theorem Packed.verify (lawful : Lawful formats) (packed : Packed formats opts bytes archive text)
    (algorithm : opts.manifest.signatureAlgorithm = "ed25519") (within : WithinLimits opts)
    (fits : ManifestFits formats opts) (agree : ResourcesAgree formats opts) :
    formats.verify bytes (formats.verifyingKey opts.signingKey) =
      .ok ⟨formats.packManifest opts, Text.utf8 text, formats.sign opts.signingKey (Text.utf8 text)⟩ := by
  obtain ⟨signs, length⟩ := lawful.signature opts.signingKey (Text.utf8 text)
  have short : (formats.sign opts.signingKey (Text.utf8 text)).length ≤ maxSignatureBytes := Nat.le_of_eq length
  have signature := packed.read mem_packFiles_signature short
  have manifest := packed.read mem_packFiles_manifest (fits text packed.written)
  have faithful := packed.signed_faithful agree
  have total := packed.signed_total agree
  have count : (formats.packManifest opts).signedEntries.length =
      1 + opts.resources.length + opts.protoFiles.length + opts.lockFile.toList.length := by
    simp only [PackageManifest.signedEntries, Formats.packManifest, List.length_cons, List.length_append,
      List.length_map, packResources_length, Option.toList_map]
    omega
  have sizes := within.total
  have fitting : 0 + ((formats.packManifest opts).signedEntries.map fun signed => heldBytes archive signed.path).sum ≤
      defaultLimits.maxTotalBytes := by
    exact Nat.le_trans (by omega) sizes
  have few : 0 + (formats.packManifest opts).signedEntries.length ≤ defaultLimits.maxEntries := by
    rw [count, Nat.zero_add]
    exact within.count
  obtain ⟨result, checked⟩ : ∃ result, checkEntries defaultLimits archive ⟨0, 0⟩
      (formats.packManifest opts).signedEntries = .ok result :=
    checkEntries_of_faithful faithful few (by decide) fitting (Nat.le_refl _) (by decide)
  have hashed : formats.verifyEntries defaultLimits archive 0 (formats.packManifest opts).signedEntries = .ok () :=
    verifyEntries_of_faithful faithful fitting (Nat.le_refl _) (by decide)
  unfold Formats.verify Formats.verifyWithLimits
  rw [packed.opened, mapError_ok, ok_bind, signature, mapError_ok, ok_bind, require_of length, ok_bind]
  rw [manifest, mapError_ok, ok_bind, signs, mapError_ok, ok_bind, packed.parsed, ok_bind]
  rw [Packed.integrity lawful algorithm agree, ok_bind, checked, ok_bind, hashed, ok_bind]
  rfl

section

variable (packed : Packed formats opts bytes archive text)
  (verified : formats.verify bytes (formats.verifyingKey opts.signingKey) = .ok v)
include packed verified

theorem Packed.readManifest_of_verify :
    v.manifest = formats.packManifest opts ∧ (Text.utf8 text).length ≤ maxManifestBytes := by
  obtain ⟨archive', opened, read, -, parsed, -⟩ := verifyWithLimits_eq_ok verified
  cases packed.opened.symm.trans opened
  obtain ⟨entry, listed, content, fits⟩ := readZipEntryBounded_eq_ok read
  obtain ⟨entry', listed', -, content', -⟩ := packed.stored _ mem_packFiles_manifest
  cases listed.symm.trans listed'
  have stored : Text.utf8 text = v.manifestRaw := content'.symm.trans content
  rw [← stored] at parsed fits
  exact ⟨Except.ok.inj (parsed.symm.trans packed.parsed), fits⟩

theorem Packed.fits_of_verify : ManifestFits formats opts := by
  intro other written
  cases written.symm.trans packed.written
  exact (packed.readManifest_of_verify verified).2

end

theorem Packed.agree_of_roundTrips (packed : Packed formats opts bytes archive text)
    (trips : RoundTrips formats opts bytes v) : ResourcesAgree formats opts := by
  have manifest := (packed.readManifest_of_verify trips.verified).1
  apply resourcesAgree_iff.mpr
  -- The given resources have distinct paths and are all among as many listed ones.
  have paths : (opts.resources.map Prod.fst).Nodup := packed.distinct.sublist (resources_sublist.map Prod.fst)
  have distinct : (givenResources formats opts).Nodup := by
    apply List.Nodup.of_map Prod.fst
    rw [givenResources, List.map_map]
    exact paths
  have included : givenResources formats opts ⊆
      (formats.packResources opts).map fun entry => (entry.path, entry.hash) := by
    intro pair member
    obtain ⟨given, supplied, rfl⟩ := List.mem_map.mp member
    obtain ⟨entry, listed, path, hash⟩ := trips.resources given supplied
    rw [manifest] at listed
    exact List.mem_map.mpr ⟨entry, listed, by rw [path, hash]⟩
  have lengths : ((formats.packResources opts).map fun entry => (entry.path, entry.hash)).length ≤
      (givenResources formats opts).length := by
    apply Nat.le_of_eq
    rw [List.length_map, packResources_length, givenResources, List.length_map]
  exact ((List.subperm_of_subset distinct included).perm_of_length_le lengths).symm

end Archive

theorem pack_round_trips_iff (lawful : Lawful formats) (algorithm : opts.manifest.signatureAlgorithm = "ed25519")
    (within : WithinLimits opts) (packed : formats.pack opts = .ok bytes) :
    (∃ v, RoundTrips formats opts bytes v) ↔ ResourcesAgree formats opts ∧ ManifestFits formats opts := by
  obtain ⟨archive, text, packed⟩ := packed_of_pack lawful packed
  constructor
  · rintro ⟨v, trips⟩
    exact ⟨packed.agree_of_roundTrips trips, packed.fits_of_verify trips.verified⟩
  · rintro ⟨agree, fits⟩
    refine ⟨_, packed.verify lawful algorithm within fits agree, rfl, rfl, rfl, rfl, packed.loadBinary within fits,
      packed.readProtoFiles within fits, packed.readLockFile within fits, ?_⟩
    intro given supplied
    have pair := (resourcesAgree_iff.mp agree).symm.subset (List.mem_map.mpr ⟨given, supplied, rfl⟩)
    obtain ⟨entry, listed, same⟩ := List.mem_map.mp pair
    exact ⟨entry, listed, (Prod.mk.inj same).1, (Prod.mk.inj same).2⟩

section Example

def paddedHash (data : List UInt8) : List UInt8 := (data ++ List.replicate 32 0).take 32

def hashing : Formats where
  openZip _ := .error .fileNotFound
  writeZip _ := .error (.ioError "read only")
  fromToml _ := .error "no manifest"
  toToml _ := .error "no manifest"
  utf8Error _ := ""
  sha256 := paddedHash
  sign _ _ := List.replicate 64 9
  verifyingKey := id
  verifyStrict _ _ _ := .ok ()

def storedFiles (opts : PackOptions) : List (String × List UInt8) :=
  Formats.packFiles opts (Text.utf8 "toml") (List.replicate 64 9)

def storedArchive (files : List (String × List UInt8)) : ZipArchive := fun name =>
  match files.find? fun file => file.1 = name with
  | none => .error .fileNotFound
  | some file =>
    if counted : [file.2].flatten.length ≤ usizeMax then .ok ⟨file.2.length, [file.2], none, counted⟩
    else .error (.other "too large")

def storing (opts : PackOptions) : Formats :=
  { hashing with
    openZip := fun _ => .ok (storedArchive (storedFiles opts))
    writeZip := fun files => if files = storedFiles opts then .ok [] else .error (.ioError "other files")
    fromToml := fun _ => .ok (hashing.packManifest opts)
    toToml := fun manifest => if manifest = hashing.packManifest opts then .ok "toml" else .error "other manifest" }

theorem toToml_storing : (storing opts).toToml ((storing opts).packManifest opts) = .ok "toml" := if_pos rfl

theorem storing_pack : (storing opts).pack opts = .ok [] := by
  unfold Formats.pack
  rw [toToml_storing]
  exact if_pos rfl

theorem storing_manifestFits : ManifestFits (storing opts) opts := by
  intro text written
  cases written.symm.trans toToml_storing
  decide

theorem storing_lawful (distinct : ((storedFiles opts).map Prod.fst).Nodup)
    (small : ∀ file ∈ storedFiles opts, file.2.length ≤ usizeMax) : Lawful (storing opts) := by
  constructor
  case zip =>
    intro files bytes written
    have same : files = storedFiles opts := by
      by_contra other
      cases (if_neg other).symm.trans written
    subst same
    refine ⟨distinct, _, rfl, ?_⟩
    intro file member
    have found : (storedFiles opts).find? (fun other => other.1 = file.1) = some file := by
      obtain ⟨other, found⟩ : ∃ other, (storedFiles opts).find? (fun other => other.1 = file.1) = some other := by
        rw [← Option.isSome_iff_exists, List.find?_isSome]
        exact ⟨file, member, by simp⟩
      have named := List.find?_some found
      rw [found, List.inj_on_of_nodup_map distinct (List.mem_of_find?_eq_some found) member (by simpa using named)]
    have counted : [file.2].flatten.length ≤ usizeMax := by simpa using small file member
    refine ⟨⟨file.2.length, [file.2], none, counted⟩, ?_, rfl, ?_, rfl⟩
    · unfold storedArchive
      rw [found]
      exact dif_pos counted
    · simp [ZipEntry.bytes]
  case toml =>
    intro manifest text written
    have same : manifest = hashing.packManifest opts := by
      by_contra other
      cases (if_neg other).symm.trans written
    rw [same]
    rfl
  case signature => exact fun _ _ => ⟨rfl, rfl⟩
  case digest =>
    intro data
    change (paddedHash data).length = 32
    simp [paddedHash]

def echoOptions (resources : List (String × List UInt8)) : PackOptions :=
  { manifest := { smallManifest with resources := [⟨"resources/a.txt", ""⟩, ⟨"resources/b.txt", ""⟩] }
    binaryBytes := wasmBytes
    resources
    protoFiles := [("echo.proto", [7, 8])]
    signingKey := [5]
    lockFile := some [6] }

def inOrder : PackOptions := echoOptions [("resources/a.txt", [1]), ("resources/b.txt", [2])]

def swapped : PackOptions := echoOptions [("resources/b.txt", [2]), ("resources/a.txt", [1])]

theorem ordered_resources_round_trip :
    Lawful (storing inOrder) ∧ WithinLimits inOrder ∧ (storing inOrder).pack inOrder = .ok [] ∧
      ∃ v, RoundTrips (storing inOrder) inOrder [] v := by
  have lawful : Lawful (storing inOrder) := storing_lawful (by decide +kernel) (by decide +kernel)
  have within : WithinLimits inOrder := ⟨by decide +kernel, by decide +kernel⟩
  have agree : ResourcesAgree (storing inOrder) inOrder := fun _ => List.Perm.refl _
  exact ⟨lawful, within, storing_pack,
    (pack_round_trips_iff lawful rfl within storing_pack).mpr ⟨agree, storing_manifestFits⟩⟩

theorem swapped_resources_fail :
    Lawful (storing swapped) ∧ swapped.manifest.signatureAlgorithm = "ed25519" ∧ WithinLimits swapped ∧
      ManifestFits (storing swapped) swapped ∧ (storing swapped).pack swapped = .ok [] ∧
      (storing swapped).verify [] ((storing swapped).verifyingKey swapped.signingKey) =
        .error (.resourceHashMismatch "resources/a.txt") ∧ ¬ ∃ v, RoundTrips (storing swapped) swapped [] v := by
  have failed : (storing swapped).verify [] ((storing swapped).verifyingKey swapped.signingKey) =
      .error (.resourceHashMismatch "resources/a.txt") := by decide +kernel
  refine ⟨storing_lawful (by decide +kernel) (by decide +kernel), rfl, ⟨by decide +kernel, by decide +kernel⟩,
    storing_manifestFits, storing_pack, failed, ?_⟩
  rintro ⟨v, trips⟩
  cases failed.symm.trans trips.verified

end Example

end Actr.Proof.Pack
