import Actr.Actrix.Ais.ManufacturerIdentity

/-! # What an accepted package registration rests on -/

namespace Actr.Proof.Ais
open Actr.Protocol Actrix.Mfr Actrix.Ais Library Checks

variable {verifier : Verifier} {tables : MfrTables} {request : RegisterRequest} {target signingKeyId : String}
  {manifest message signature : List UInt8} {now : UInt64} {admission : Admission}
  {nonces : List ManufacturerAuthNonce} {mfr : Manufacturer} {publicKey name : String}

def KeyOf (tables : MfrTables) (mfr : Manufacturer) (keyId publicKey : String) : Prop :=
  (mfr.keyId = keyId ∧ mfr.publicKey = publicKey) ∨
    ∃ row ∈ tables.keyHistory, row.mfrId = mfr.id ∧ row.keyId = keyId ∧ row.publicKey = publicKey

def KeyRevoked (tables : MfrTables) (mfr : Manufacturer) (keyId : String) : Prop :=
  ∃ row ∈ tables.keyHistory, row.mfrId = mfr.id ∧ row.keyId = keyId ∧ row.status = .revoked

def HasPackage (tables : MfrTables) (request : RegisterRequest) (target : String) (status : PkgStatus) : Prop :=
  ∃ row ∈ tables.packages, row.typeStr = request.actrType.toStringRepr ∧ row.target = target ∧ row.status = status

def Signs (verifier : Verifier) (publicKey : String) (message signature : List UInt8) : Prop :=
  verifier.crypto.verifySignature message (verifier.crypto.base64Encode signature) publicKey = .ok true

def NamesKey (verifier : Verifier) (manifest : List UInt8) (keyId : String) : Prop :=
  ∃ manifestToml, verifier.parseManifest manifest = .ok manifestToml ∧
    manifestToml.getStr "signing_key_id" = some keyId

def Resolves (tables : MfrTables) (mfr : Manufacturer) (keyId publicKey : String) : Prop :=
  (mfr.keyId = keyId ∧ mfr.status = .active ∧ mfr.keyExpiresAt.isSome ∧ mfr.publicKey = publicKey) ∨
    (mfr.keyId ≠ keyId ∧ ∃ row, tables.keyHistory.find? (fun row => row.mfrId = mfr.id ∧ row.keyId = keyId) = some row ∧
      row.status ≠ .revoked ∧ row.publicKey = publicKey)

structure Presents (request : RegisterRequest) (target : String) (manifest : List UInt8) : Prop where
  version : request.actrType.version ≠ ""
  targeted : request.target = some target
  attached : request.manifestRaw = some manifest
  nonempty : target ≠ "" ∧ manifest ≠ []

structure Proven (verifier : Verifier) (request : RegisterRequest) (target : String) (manifest : List UInt8)
    (now : UInt64) (proof : ManufacturerProof) (manifestToml : Toml.Value) (signingKeyId publicKey : String) : Prop where
  attached : request.manufacturerProof = some proof
  nonceLength : proof.manufacturerAuthNonce.length = 16 ∨ proof.manufacturerAuthNonce.length = 32
  signedAt : verifyManufacturerAuthSignedAt proof.manufacturerAuthSignedAt now = .ok ()
  parsed : verifier.parseManifest manifest = .ok manifestToml
  named : manifestToml.getStr "signing_key_id" = some signingKeyId
  manifestSigned : Signs verifier publicKey manifest proof.mfrSignature
  manufacturer : (manifestToml.getStr "manufacturer").getD "" = request.actrType.manufacturer
  name : (manifestToml.getStr "name").getD "" = request.actrType.name
  version : (manifestToml.getStr "version").getD "" = request.actrType.version
  targeted : (manifestToml.get "binary").bind (·.getStr "target") = some target
  payloadSigned : Signs verifier publicKey
    (Text.utf8 (verifier.registerPayload request target manifest proof)) proof.manufacturerAuthSignature

theorem verifySignature_eq_ok {what : String} {done : Unit} :
    verifier.verifySignature what message signature publicKey = .ok done ↔
      Signs verifier publicKey message signature := by
  unfold Verifier.verifySignature Signs
  simp only [bind_eq_ok, mapError_eq_ok, require_eq_ok, exists_eq_right]

theorem getByTypeAndTarget_eq_some {pkg : ActrPackage}
    (found : tables.getByTypeAndTarget request.actrType.toStringRepr target = some pkg) :
    pkg ∈ tables.packages ∧ pkg.typeStr = request.actrType.toStringRepr ∧ pkg.target = target ∧
      pkg.status = .active := by
  have matched := List.find?_some found
  simp only [decide_eq_true_eq] at matched
  exact ⟨List.mem_of_find?_eq_some found, matched⟩

theorem hasPackage_active_iff : HasPackage tables request target .active ↔
      tables.getByTypeAndTarget request.actrType.toStringRepr target ≠ none := by
  simp [HasPackage, MfrTables.getByTypeAndTarget]

theorem resolveKeyById_eq_ok :
    (∃ info, tables.resolveKeyById name signingKeyId = .ok info ∧ info.publicKey = publicKey) ↔
      ∃ mfr, tables.getByName name = some mfr ∧ Resolves tables mfr signingKeyId publicKey := by
  unfold MfrTables.resolveKeyById MfrTables.resolveByName MfrTables.resolveHistorical MfrTables.getByKeyId Resolves
  cases found : tables.getByName name with
  | none => simp
  | some mfr =>
    by_cases same : mfr.keyId = signingKeyId
    · by_cases active : mfr.status = .active
      · cases certified : mfr.keyExpiresAt with
        | none | some => simp [same, active, certified]
      · simp [same, active]
    · cases listed : tables.keyHistory.find? fun row => row.mfrId = mfr.id ∧ row.keyId = signingKeyId with
      | none => simp [same, listed, -Bool.decide_and]
      | some row =>
        by_cases kept : row.status = .revoked
        all_goals simp [same, listed, kept, -Bool.decide_and]

theorem keyOf_of_resolves (resolves : Resolves tables mfr signingKeyId publicKey) :
    KeyOf tables mfr signingKeyId publicKey := by
  rcases resolves with ⟨same, -, -, key⟩ | ⟨-, row, listed, -, key⟩
  · exact .inl ⟨same, key⟩
  · have matched := List.find?_some listed
    simp only [decide_eq_true_eq] at matched
    exact .inr ⟨row, List.mem_of_find?_eq_some listed, matched.1, matched.2, key⟩

theorem verifyUnpublished_eq_ok : verifier.verifyUnpublished tables request target manifest now = .ok admission ↔
    ∃ proof manifestToml signingKeyId publicKey mfr, tables.getByName request.actrType.manufacturer = some mfr ∧
      Resolves tables mfr signingKeyId publicKey ∧
      Proven verifier request target manifest now proof manifestToml signingKeyId publicKey ∧
      admission = .unpublished signingKeyId proof.manufacturerAuthNonce := by
  unfold Verifier.verifyUnpublished
  simp only [bind_eq_ok, okOr_eq_ok, require_eq_ok, verifySignature_eq_ok, pure_eq_ok, Verifier.resolveSigningKey,
    mapError_eq_ok]
  constructor
  · rintro ⟨proof, listed, -, nonceLength, _, signedAt, manifestToml, parsed, signingKeyId, named, info, resolved, -,
      manifestSigned, -, ⟨manufacturer, name, version⟩, manifestTarget, target, -, rfl, -, payloadSigned, rfl⟩
    obtain ⟨mfr, found, resolves⟩ := resolveKeyById_eq_ok.mp ⟨info, resolved, rfl⟩
    exact ⟨proof, manifestToml, signingKeyId, info.publicKey, mfr, found, resolves, ⟨listed, nonceLength, signedAt,
      parsed, named, manifestSigned, manufacturer, name, version, target, payloadSigned⟩, rfl⟩
  · rintro ⟨proof, manifestToml, signingKeyId, _, mfr, found, resolves, proven, rfl⟩
    obtain ⟨info, resolved, rfl⟩ := resolveKeyById_eq_ok.mpr ⟨mfr, found, resolves⟩
    exact ⟨proof, proven.attached, (), proven.nonceLength, (), proven.signedAt, manifestToml, proven.parsed,
      signingKeyId, proven.named, info, resolved, (), proven.manifestSigned, (),
      ⟨proven.manufacturer, proven.name, proven.version⟩, target, proven.targeted, (), rfl, (), proven.payloadSigned,
      rfl⟩

theorem admitPackage_eq_ok : verifier.admitPackage tables request now = .ok admission ↔
    ∃ target manifest, Presents request target manifest ∧
      ((∃ pkg, tables.getByTypeAndTarget request.actrType.toStringRepr target = some pkg ∧
          verifier.crypto.sha256 manifest = verifier.crypto.sha256 (Text.utf8 pkg.manifest) ∧
          admission = .published) ∨
        tables.getByTypeAndTarget request.actrType.toStringRepr target = none ∧
          verifier.verifyUnpublished tables request target manifest now = .ok admission) := by
  unfold Verifier.admitPackage
  simp only [bind_eq_ok, okOr_eq_ok, require_eq_ok, Option.filter_eq_some_iff, decide_eq_true_eq]
  constructor
  · rintro ⟨-, version, target, ⟨targeted, named⟩, manifest, ⟨attached, written⟩, admitted⟩
    refine ⟨target, manifest, ⟨version, targeted, attached, named, written⟩, ?_⟩
    split at admitted
    · next pkg found =>
      simp only [bind_eq_ok, require_eq_ok, pure_eq_ok] at admitted
      obtain ⟨-, same, rfl⟩ := admitted
      exact .inl ⟨pkg, found, same, rfl⟩
    · next absent => exact .inr ⟨absent, admitted⟩
  · rintro ⟨target, manifest, ⟨version, targeted, attached, named, written⟩, outcome⟩
    refine ⟨(), version, target, ⟨targeted, named⟩, manifest, ⟨attached, written⟩, ?_⟩
    rcases outcome with ⟨pkg, found, same, rfl⟩ | ⟨absent, verified⟩
    · simp [found, require_of same, pure, Except.pure]
    · simpa only [absent] using verified

/-- Nothing stands between the admission of an unpublished package and its acceptance. -/
def Unused (nonces : List ManufacturerAuthNonce) (manufacturer : String) (now : UInt64) : Admission → Prop
  | .published => True
  | .unpublished keyId nonce => now.toNat ≤ maxInt64 ∧
      ∀ row ∈ nonces, now.toNat ≤ row.expiresAt →
        ¬ (row.manufacturer = manufacturer ∧ row.keyId = keyId ∧ row.nonce = nonce)

theorem accepted_iff : (verifier.verifyMfrIdentity tables nonces request now).1 = .ok () ↔
    ∃ admission, verifier.admitPackage tables request now = .ok admission ∧
      Unused nonces request.actrType.manufacturer now admission := by
  unfold Verifier.verifyMfrIdentity
  split
  · next refused => simp [refused]
  · next admitted => simp [admitted, Unused]
  · next admitted =>
    simp only [admitted, Except.ok.injEq, exists_eq_left', Unused, consumeManufacturerAuthNonce]
    grind

theorem namesKey_unique {first second : String} (named : NamesKey verifier manifest first)
    (named' : NamesKey verifier manifest second) : first = second := by
  obtain ⟨value, parsed, found⟩ := named
  obtain ⟨value', parsed', found'⟩ := named'
  cases parsed.symm.trans parsed'
  exact Option.some.inj (found.symm.trans found')

def RespectsRevocation (verifier : Verifier) (tables : MfrTables) (request : RegisterRequest) : Prop :=
  ∃ mfr target manifest, tables.getByName request.actrType.manufacturer = some mfr ∧ mfr.status = .active ∧
    request.target = some target ∧ request.manifestRaw = some manifest ∧
    (HasPackage tables request target .revoked → HasPackage tables request target .active) ∧
    ((∃ row ∈ tables.packages, row.typeStr = request.actrType.toStringRepr ∧ row.target = target ∧
        row.status = .active ∧ Text.utf8 row.manifest = manifest) ∨
      ∃ proof keyId publicKey, request.manufacturerProof = some proof ∧ NamesKey verifier manifest keyId ∧
        KeyOf tables mfr keyId publicKey ∧ ¬ KeyRevoked tables mfr keyId ∧
        Signs verifier publicKey manifest proof.mfrSignature ∧
        Signs verifier publicKey (Text.utf8 (verifier.registerPayload request target manifest proof))
          proof.manufacturerAuthSignature)

structure Unpublished (verifier : Verifier) (tables : MfrTables) (nonces : List ManufacturerAuthNonce)
    (request : RegisterRequest) (now : UInt64) (target : String) (manifest : List UInt8) (mfr : Manufacturer)
    (signingKeyId : String) : Prop where
  presents : Presents request target manifest
  absent : ¬ HasPackage tables request target .active
  found : tables.getByName request.actrType.manufacturer = some mfr
  proven : ∃ proof manifestToml publicKey, Resolves tables mfr signingKeyId publicKey ∧
    Proven verifier request target manifest now proof manifestToml signingKeyId publicKey ∧
    Unused nonces request.actrType.manufacturer now (.unpublished signingKeyId proof.manufacturerAuthNonce)

/-- The filters that are missing, each on the path that misses it. -/
inductive Leak (verifier : Verifier) (tables : MfrTables) (nonces : List ManufacturerAuthNonce)
    (request : RegisterRequest) (now : UInt64) : Prop
  | unreadManufacturer {target : String} {manifest : List UInt8} {pkg : ActrPackage}
      (presents : Presents request target manifest)
      (published : tables.getByTypeAndTarget request.actrType.toStringRepr target = some pkg)
      (same : manifest = Text.utf8 pkg.manifest)
      (inactive : ∀ mfr, tables.getByName request.actrType.manufacturer = some mfr → mfr.status ≠ .active)
  | revokedPackage {target : String} {manifest : List UInt8} {mfr : Manufacturer} {keyId : String}
      (unpublished : Unpublished verifier tables nonces request now target manifest mfr keyId)
      (revoked : HasPackage tables request target .revoked)
  | historicalKey {target : String} {manifest : List UInt8} {mfr : Manufacturer} {keyId : String}
      (unpublished : Unpublished verifier tables nonces request now target manifest mfr keyId)
      (historical : mfr.keyId ≠ keyId) (inactive : mfr.status ≠ .active)
  | unreadHistory {target : String} {manifest : List UInt8} {mfr : Manufacturer} {keyId : String}
      (unpublished : Unpublished verifier tables nonces request now target manifest mfr keyId)
      (revoked : KeyRevoked tables mfr keyId)

theorem accepted_of_unpublished
    (unpublished : Unpublished verifier tables nonces request now target manifest mfr signingKeyId) :
    (verifier.verifyMfrIdentity tables nonces request now).1 = .ok () := by
  obtain ⟨presents, absent, found, proof, manifestToml, publicKey, resolves, proven, unused⟩ := unpublished
  rw [hasPackage_active_iff, not_not] at absent
  exact accepted_iff.mpr ⟨_, admitPackage_eq_ok.mpr ⟨target, manifest, presents, .inr ⟨absent,
    verifyUnpublished_eq_ok.mpr ⟨proof, manifestToml, signingKeyId, publicKey, mfr, found, resolves, proven, rfl⟩⟩⟩,
    unused⟩

/-- What respecting revocation asks of a package that is not published. -/
theorem respects_unpublished (unpublished : Unpublished verifier tables nonces request now target manifest mfr signingKeyId)
    (respects : RespectsRevocation verifier tables request) :
    mfr.status = .active ∧ ¬ HasPackage tables request target .revoked ∧ ¬ KeyRevoked tables mfr signingKeyId := by
  obtain ⟨presents, absent, found, _, manifestToml, _, -, proven, -⟩ := unpublished
  obtain ⟨mfr', target', manifest', found', active, targeted, attached, revoked, rest⟩ := respects
  cases presents.targeted.symm.trans targeted
  cases presents.attached.symm.trans attached
  cases found.symm.trans found'
  refine ⟨active, mt revoked absent, ?_⟩
  rcases rest with ⟨row, listed, type, rowTarget, status, -⟩ | ⟨_, keyId, publicKey, -, named, -, unrevoked, -⟩
  · exact absurd ⟨row, listed, type, rowTarget, status⟩ absent
  · cases namesKey_unique ⟨manifestToml, proven.parsed, proven.named⟩ named
    exact unrevoked

theorem leak_accepted (leak : Leak verifier tables nonces request now) :
    (verifier.verifyMfrIdentity tables nonces request now).1 = .ok () ∧
      ¬ RespectsRevocation verifier tables request := by
  cases leak with
  | unreadManufacturer presents published same inactive =>
    refine ⟨accepted_iff.mpr ⟨.published, admitPackage_eq_ok.mpr ⟨_, _, presents, .inl ⟨_, published, ?_, rfl⟩⟩,
      trivial⟩, ?_⟩
    · rw [same]
    · rintro ⟨mfr, -, -, found, active, -⟩
      exact inactive mfr found active
  | revokedPackage unpublished revoked =>
    exact ⟨accepted_of_unpublished unpublished, fun respects => (respects_unpublished unpublished respects).2.1 revoked⟩
  | historicalKey unpublished _ inactive =>
    exact ⟨accepted_of_unpublished unpublished, fun respects => inactive (respects_unpublished unpublished respects).1⟩
  | unreadHistory unpublished revoked =>
    exact ⟨accepted_of_unpublished unpublished, fun respects => (respects_unpublished unpublished respects).2.2 revoked⟩

theorem respects_of_unpublished (tight : ¬ Leak verifier tables nonces request now)
    (unpublished : Unpublished verifier tables nonces request now target manifest mfr signingKeyId) :
    RespectsRevocation verifier tables request := by
  have ⟨presents, _, found, proof, manifestToml, publicKey, resolves, proven, _⟩ := unpublished
  have active : mfr.status = .active := by
    rcases resolves with ⟨-, active, -⟩ | ⟨other, -⟩
    · exact active
    · by_contra inactive
      exact tight (.historicalKey unpublished other inactive)
  have unrevoked : ¬ HasPackage tables request target .revoked := fun revoked => tight (.revokedPackage unpublished revoked)
  exact ⟨mfr, target, manifest, found, active, presents.targeted, presents.attached, fun revoked => absurd revoked unrevoked,
    .inr ⟨proof, signingKeyId, publicKey, proven.attached, ⟨manifestToml, proven.parsed, proven.named⟩,
      keyOf_of_resolves resolves, fun revoked => tight (.unreadHistory unpublished revoked), proven.manifestSigned,
      proven.payloadSigned⟩⟩

theorem accepted_respects_revocation_iff (collisionFree : Function.Injective verifier.crypto.sha256) :
    ((verifier.verifyMfrIdentity tables nonces request now).1 = .ok () → RespectsRevocation verifier tables request) ↔
      ¬ Leak verifier tables nonces request now := by
  constructor
  · intro respects leak
    obtain ⟨accepted, violated⟩ := leak_accepted leak
    exact violated (respects accepted)
  · intro tight accepted
    obtain ⟨admission, admitted, unused⟩ := accepted_iff.mp accepted
    obtain ⟨target, manifest, presents, ⟨pkg, published, same, rfl⟩ | ⟨absent, verified⟩⟩ := admitPackage_eq_ok.mp admitted
    · obtain ⟨listed, type, rowTarget, status⟩ := getByTypeAndTarget_eq_some published
      obtain ⟨mfr, found, active⟩ : ∃ mfr, tables.getByName request.actrType.manufacturer = some mfr ∧
          mfr.status = .active := by
        by_contra none
        exact tight (.unreadManufacturer presents published (collisionFree same)
          fun mfr found active => none ⟨mfr, found, active⟩)
      exact ⟨mfr, target, manifest, found, active, presents.targeted, presents.attached,
        fun _ => ⟨pkg, listed, type, rowTarget, status⟩,
        .inl ⟨pkg, listed, type, rowTarget, status, (collisionFree same).symm⟩⟩
    · obtain ⟨proof, manifestToml, keyId, publicKey, mfr, found, resolves, proven, rfl⟩ :=
        verifyUnpublished_eq_ok.mp verified
      refine respects_of_unpublished tight ⟨presents, ?_, found, proof, manifestToml, publicKey, resolves, proven, unused⟩
      rw [hasPackage_active_iff, not_not]
      exact absent

section Runs

def echoManifest : Toml.Value :=
  .table [("signing_key_id", .string "mfr-1"), ("manufacturer", .string "acme"), ("name", .string "echo"),
    ("version", .string "1.0"), ("binary", .table [("target", .string "wasm32")])]

def echoPayload : ManufacturerRegisterPayload :=
  ⟨7, ⟨"acme", "echo", "1.0"⟩, "wasm32", Text.hexEncode (Text.utf8 "manifest"), 1000, List.replicate 16 7⟩

def twoSignatures : Actrix.Mfr.Crypto where
  sha256 := id
  base64Decode text := .ok (text.toList.map fun char => UInt8.ofNat char.toNat)
  base64Encode bytes := String.ofList (bytes.map fun byte => Char.ofNat byte.toNat)
  verifyingKeyFromBytes _ := .ok ()
  verify _ message signature :=
    (signature = List.replicate 64 1 ∧ message = Text.utf8 "manifest") ∨
      (signature = List.replicate 64 2 ∧ message = Text.utf8 (buildManufacturerRegisterPayload echoPayload))

def echoVerifier : Verifier := ⟨twoSignatures, fun _ => .ok echoManifest⟩

def echoRequest : RegisterRequest :=
  ⟨⟨7⟩, ⟨"acme", "echo", "1.0"⟩, some "wasm32", some (Text.utf8 "manifest"), some (List.replicate 64 1),
    some (List.replicate 64 2), some 1000, some (List.replicate 16 7)⟩

def acmeKey : String := String.ofList (List.replicate 32 'k')

def acme (keyId : String) (status : MfrStatus) : Manufacturer :=
  ⟨1, "acme", acmeKey, keyId, status, 0, none, some 10, some 5000⟩

def echoPackage (status : PkgStatus) : ActrPackage :=
  ⟨1, 1, "acme", "echo", "1.0", "acme:echo:1.0", "wasm32", "manifest", "", none, status, 20, none⟩

def suspendedWithPackage : MfrTables := ⟨[acme "mfr-1" .suspended], [], [echoPackage .active]⟩

def suspendedWithOldKey : MfrTables :=
  ⟨[acme "mfr-2" .suspended], [⟨1, 1, "mfr-1", acmeKey, .retired, 0, 15⟩], []⟩

def withRevokedPackage : MfrTables := ⟨[acme "mfr-1" .active], [], [echoPackage .revoked]⟩

def withRevokedKey : MfrTables :=
  ⟨[acme "mfr-1" .active], [⟨1, 1, "mfr-1", acmeKey, .revoked, 0, 15⟩], []⟩

def inOrder : MfrTables := ⟨[acme "mfr-1" .active], [], []⟩

theorem acme_registration_respects_revocation :
    (echoVerifier.verifyMfrIdentity inOrder [] echoRequest 1000).1 = .ok () ∧
      RespectsRevocation echoVerifier inOrder echoRequest := by
  have accepted : (echoVerifier.verifyMfrIdentity inOrder [] echoRequest 1000).1 = .ok () := by decide +kernel
  refine ⟨accepted, (accepted_respects_revocation_iff fun _ _ same => same).mpr ?_ accepted⟩
  intro leak
  cases leak with
  | unreadManufacturer presents published same inactive => exact inactive _ rfl rfl
  | revokedPackage _ revoked => exact nomatch revoked
  | historicalKey unpublished _ inactive =>
    cases unpublished.found
    exact inactive rfl
  | unreadHistory _ revoked => exact nomatch revoked

def AcceptsRevoked (tables : MfrTables) : Prop :=
  (echoVerifier.verifyMfrIdentity tables [] echoRequest 1000).1 = .ok () ∧
    ¬ RespectsRevocation echoVerifier tables echoRequest

theorem revoked_registrations_are_accepted :
    AcceptsRevoked suspendedWithPackage ∧ AcceptsRevoked suspendedWithOldKey ∧ AcceptsRevoked withRevokedPackage ∧
      AcceptsRevoked withRevokedKey := by
  refine ⟨⟨by decide +kernel, ?_⟩, ⟨by decide +kernel, ?_⟩, ⟨by decide +kernel, ?_⟩, ⟨by decide +kernel, ?_⟩⟩
  all_goals rintro ⟨mfr, target, manifest, found, active, targeted, attached, revoked, rest⟩
  all_goals cases found
  · cases active
  · cases active
  · cases targeted
    obtain ⟨row, listed, -, -, status⟩ := revoked ⟨_, List.mem_singleton.mpr rfl, by decide, rfl, rfl⟩
    cases List.mem_singleton.mp listed
    cases status
  · cases attached
    rcases rest with ⟨row, listed, -⟩ | ⟨_, keyId, _, -, named, -, unrevoked, -⟩
    · cases listed
    · cases namesKey_unique named ⟨echoManifest, rfl, rfl⟩
      exact unrevoked ⟨_, List.mem_singleton.mpr rfl, rfl, rfl, rfl⟩

end Runs

end Actr.Proof.Ais
