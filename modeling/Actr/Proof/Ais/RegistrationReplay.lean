import Actr.Library.Slots
import Actr.Proof.Ais.ManufacturerIdentity

/-! # Registration proofs are accepted once -/

namespace Actr.Proof.Ais
open Actr.Protocol Actrix.Mfr Actrix.Platform Actrix.Ais Library Machine Registrations

variable {verifier : Verifier} {s t : Registrations} {action : Action} {actions : List Action}
  {first second : RegisterRequest × UInt64} {proof proof' : ManufacturerProof} {signingKeyId signingKeyId' : String}
  {manufacturer publicKey publicKey' : String} {message message' signature nonce : List UInt8} {now : UInt64}
  {nonces : List ManufacturerAuthNonce} {payload payload' : ManufacturerRegisterPayload}

def signedPayload (verifier : Verifier) (request : RegisterRequest) : Option String := do
  return verifier.registerPayload request (← request.target) (← request.manifestRaw) (← request.manufacturerProof)

def SignatureBinding (crypto : Actrix.Mfr.Crypto) : Prop :=
  ∀ key key' message message' signature, crypto.verify key message signature = true →
    crypto.verify key' message' signature = true → message = message'

theorem payload_inj (manifest : ∃ bytes, payload.manifestSha256Hex = Text.hexEncode bytes)
    (manifest' : ∃ bytes, payload'.manifestSha256Hex = Text.hexEncode bytes)
    (same : buildManufacturerRegisterPayload payload = buildManufacturerRegisterPayload payload') :
    payload.realmId = payload'.realmId ∧ payload.manifestSha256Hex = payload'.manifestSha256Hex ∧
      payload.manufacturerAuthSignedAt = payload'.manufacturerAuthSignedAt ∧
      payload.manufacturerAuthNonce = payload'.manufacturerAuthNonce := by
  obtain ⟨bytes, hash⟩ := manifest
  obtain ⟨bytes', hash'⟩ := manifest'
  obtain ⟨same, nonce⟩ := Text.last_field_inj '=' "\nmanufacturer_auth_nonce".toList (by rfl)
    (Text.notMem_hexEncode rfl) (Text.notMem_hexEncode rfl) same
  obtain ⟨same, signedAt⟩ := Text.last_field_inj '=' "\nmanufacturer_auth_signed_at".toList
    (by rfl) (Text.notMem_toString rfl) (Text.notMem_toString rfl) same
  obtain ⟨same, hashes⟩ := Text.last_field_inj '=' "\nmanifest_sha256".toList (by rfl)
    (hash ▸ Text.notMem_hexEncode rfl) (hash' ▸ Text.notMem_hexEncode rfl) same
  have front : (manufacturerRegisterDomain ++ "\nauth_mode=package" ++ "\nrealm=") ++ toString payload.realmId ++
      "\nactr_type=" ++ (payload.actrType.toStringRepr ++ "\ntarget=" ++ payload.target) =
      (manufacturerRegisterDomain ++ "\nauth_mode=package" ++ "\nrealm=") ++ toString payload'.realmId ++
        "\nactr_type=" ++ (payload'.actrType.toStringRepr ++ "\ntarget=" ++ payload'.target) := by
    simpa only [String.append_assoc] using same
  obtain ⟨realm, -⟩ := Text.first_field_inj '\n' "actr_type=".toList (by rfl)
    (Text.notMem_toString rfl) (Text.notMem_toString rfl) front
  exact ⟨Text.toString_injective realm, hashes, UInt64.toNat_inj.mp (Text.toString_injective signedAt),
    Text.hexEncode_injective nonce⟩

def AdmittedWith (verifier : Verifier) (entry : RegisterRequest × UInt64) (proof : ManufacturerProof)
    (signingKeyId : String) : Prop :=
  ∃ target manifest manifestToml publicKey, entry.1.target = some target ∧ entry.1.manifestRaw = some manifest ∧
    Proven verifier entry.1 target manifest entry.2 proof manifestToml signingKeyId publicKey

theorem verify_of_signs (signs : Signs verifier publicKey message signature) :
    ∃ key decoded, verifier.crypto.base64Decode (verifier.crypto.base64Encode signature) = .ok decoded ∧
      verifier.crypto.verify key message decoded = true := by
  unfold Signs Actrix.Mfr.Crypto.verifySignature at signs
  split at signs
  case h_1 => cases signs
  case h_2 key decodedKey =>
    split at signs
    · cases signs
    · split at signs
      case h_1 => cases signs
      case h_2 =>
        split at signs
        case h_1 => cases signs
        case h_2 decoded decodedSignature =>
          split at signs
          · cases signs
          · exact ⟨key, decoded, decodedSignature, Except.ok.inj signs⟩

theorem message_of_signature (binding : SignatureBinding verifier.crypto)
    (signs : Signs verifier publicKey message signature) (signs' : Signs verifier publicKey' message' signature) :
    message = message' := by
  obtain ⟨key, decoded, decodes, verified⟩ := verify_of_signs signs
  obtain ⟨key', decoded', decodes', verified'⟩ := verify_of_signs signs'
  cases decodes.symm.trans decodes'
  exact binding key key' message message' decoded verified verified'

theorem signedPayload_of_proven {request : RegisterRequest} {target : String} {manifest : List UInt8}
    {manifestToml : Toml.Value} (targeted : request.target = some target)
    (attached : request.manifestRaw = some manifest)
    (proven : Proven verifier request target manifest now proof manifestToml signingKeyId publicKey) :
    signedPayload verifier request = some (verifier.registerPayload request target manifest proof) := by
  simp [signedPayload, targeted, attached, proven.attached]

theorem payload_of_signature (binding : SignatureBinding verifier.crypto)
    (admitted : AdmittedWith verifier first proof signingKeyId)
    (admitted' : AdmittedWith verifier second proof' signingKeyId')
    (same : proof.manufacturerAuthSignature = proof'.manufacturerAuthSignature) :
    signedPayload verifier first.1 = signedPayload verifier second.1 := by
  obtain ⟨target, manifest, manifestToml, _, targeted, attached, proven⟩ := admitted
  obtain ⟨target', manifest', manifestToml', _, targeted', attached', proven'⟩ := admitted'
  rw [signedPayload_of_proven targeted attached proven, signedPayload_of_proven targeted' attached' proven']
  have signed := proven.payloadSigned
  rw [same] at signed
  exact congrArg some (Text.utf8_injective (message_of_signature binding signed proven'.payloadSigned))

theorem request_of_payload (collisionFree : Function.Injective verifier.crypto.sha256)
    (admitted : AdmittedWith verifier first proof signingKeyId)
    (admitted' : AdmittedWith verifier second proof' signingKeyId')
    (same : signedPayload verifier first.1 = signedPayload verifier second.1) :
    first.1.realm = second.1.realm ∧ first.1.actrType = second.1.actrType ∧ first.1.target = second.1.target ∧
      first.1.manifestRaw = second.1.manifestRaw ∧
      proof.manufacturerAuthSignedAt = proof'.manufacturerAuthSignedAt ∧
      proof.manufacturerAuthNonce = proof'.manufacturerAuthNonce ∧ signingKeyId = signingKeyId' := by
  obtain ⟨target, manifest, manifestToml, _, targeted, attached, proven⟩ := admitted
  obtain ⟨target', manifest', manifestToml', _, targeted', attached', proven'⟩ := admitted'
  rw [signedPayload_of_proven targeted attached proven, signedPayload_of_proven targeted' attached' proven',
    Option.some.injEq] at same
  obtain ⟨realm, hash, signedAt, nonce⟩ := payload_inj ⟨_, rfl⟩ ⟨_, rfl⟩ same
  cases collisionFree (Text.hexEncode_injective hash)
  cases proven.parsed.symm.trans proven'.parsed
  cases proven.targeted.symm.trans proven'.targeted
  cases proven.named.symm.trans proven'.named
  have type : first.1.actrType = second.1.actrType := by
    have manufacturer := proven.manufacturer.symm.trans proven'.manufacturer
    have name := proven.name.symm.trans proven'.name
    have version := proven.version.symm.trans proven'.version
    change ActrType.mk _ _ _ = ActrType.mk _ _ _
    rw [manufacturer, name, version]
  refine ⟨?_, type, targeted.trans targeted'.symm, attached.trans attached'.symm, signedAt, nonce, rfl⟩
  exact congrArg Protocol.Realm.mk realm

def live (nonces : List ManufacturerAuthNonce) (now : UInt64) : List ManufacturerAuthNonce :=
  nonces.filter fun row => ¬ row.expiresAt < now.toNat

def HoldsNonce (nonces : List ManufacturerAuthNonce) (manufacturer signingKeyId : String) (nonce : List UInt8) : Prop :=
  ∃ row ∈ nonces, row.manufacturer = manufacturer ∧ row.keyId = signingKeyId ∧ row.nonce = nonce

def stamped (manufacturer signingKeyId : String) (nonce : List UInt8) (now : UInt64) : ManufacturerAuthNonce :=
  ⟨manufacturer, signingKeyId, nonce, now.toNat, min (now.toNat + manufacturerNonceTtlSecs) maxInt64⟩

theorem consume_cases {result : Except AidError Unit × List ManufacturerAuthNonce}
    (consumed : consumeManufacturerAuthNonce nonces manufacturer signingKeyId nonce now = result) :
    ((∃ error, result.1 = .error error) ∧ result.2 = nonces) ∨ now.toNat ≤ maxInt64 ∧
        (((∃ error, result.1 = .error error) ∧ result.2 = live nonces now) ∨
          result.1 = .ok () ∧ ¬ HoldsNonce (live nonces now) manufacturer signingKeyId nonce ∧
            result.2 = live nonces now ++ [stamped manufacturer signingKeyId nonce now]) := by
  subst consumed
  unfold consumeManufacturerAuthNonce
  split
  · exact .inl ⟨⟨_, rfl⟩, rfl⟩
  · next early =>
    refine .inr ⟨Nat.le_of_not_lt early, ?_⟩
    dsimp only
    split
    · exact .inl ⟨⟨_, rfl⟩, rfl⟩
    · next unheld =>
      refine .inr ⟨rfl, ?_, rfl⟩
      rintro ⟨row, listed, matched⟩
      exact unheld (List.any_eq_true.mpr ⟨row, listed, decide_eq_true matched⟩)

theorem registration_cases (taken : step verifier s action = some t) :
    s.clock ≤ action.now ∧ t.clock = action.now ∧
      ((t.accepted = s.accepted ∧
          (t.nonces = s.nonces ∨ action.now.toNat ≤ maxInt64 ∧ t.nonces = live s.nonces action.now)) ∨
        ∃ proof signingKeyId, AdmittedWith verifier (action.request, action.now) proof signingKeyId ∧
          action.now.toNat ≤ maxInt64 ∧
          ¬ HoldsNonce (live s.nonces action.now) action.request.actrType.manufacturer signingKeyId
            proof.manufacturerAuthNonce ∧
          t.nonces = live s.nonces action.now ++
            [stamped action.request.actrType.manufacturer signingKeyId proof.manufacturerAuthNonce action.now] ∧
          t.accepted = s.accepted ++ [(action.request, action.now)]) := by
  obtain ⟨later, taken⟩ := Option.ite_none_right_eq_some.mp taken
  refine ⟨later, ?_⟩
  unfold Verifier.verifyMfrIdentity unpublished at taken
  cases admitted : verifier.admitPackage action.tables action.request action.now with
  | error =>
    simp only [admitted, Option.some.injEq] at taken
    subst taken
    exact ⟨rfl, .inl ⟨rfl, .inl rfl⟩⟩
  | ok admission =>
    cases admission with
    | published =>
      simp only [admitted, Option.some.injEq] at taken
      subst taken
      exact ⟨rfl, .inl ⟨rfl, .inl rfl⟩⟩
    | unpublished signingKeyId nonce =>
      simp only [admitted, if_true] at taken
      cases consumed : consumeManufacturerAuthNonce s.nonces action.request.actrType.manufacturer signingKeyId nonce
          action.now with
      | mk outcome nonces =>
        rw [consumed] at taken
        rcases consume_cases consumed with ⟨⟨error, rfl⟩, rfl⟩ | ⟨early, ⟨⟨error, rfl⟩, rfl⟩ | ⟨rfl, free, rfl⟩⟩
        · cases taken
          exact ⟨rfl, .inl ⟨rfl, .inl rfl⟩⟩
        · cases taken
          exact ⟨rfl, .inl ⟨rfl, .inr ⟨early, rfl⟩⟩⟩
        · cases taken
          obtain ⟨target, manifest, presents, outcome⟩ := admitPackage_eq_ok.mp admitted
          rcases outcome with ⟨_, -, -, contrary⟩ | ⟨-, verified⟩
          · cases contrary
          · obtain ⟨proof, manifestToml, keyId, publicKey, _, -, -, proven, same⟩ := verifyUnpublished_eq_ok.mp verified
            cases same
            exact ⟨rfl, .inr ⟨proof, signingKeyId,
              ⟨target, manifest, manifestToml, publicKey, presents.targeted, presents.attached, proven⟩, early, free,
              rfl, rfl⟩⟩

theorem mem_live {row : ManufacturerAuthNonce} :
    row ∈ live nonces now ↔ row ∈ nonces ∧ now.toNat ≤ row.expiresAt := by
  simp [live]

/-- Every accepted request has its nonce in the table for as long as its proof may be shown again. -/
structure Remembers (verifier : Verifier) (s : Registrations) : Prop where
  kept : ∀ entry ∈ s.accepted, ∃ proof signingKeyId, AdmittedWith verifier entry proof signingKeyId ∧
    (s.clock.toNat ≤ entry.2.toNat + manufacturerNonceTtlSecs →
      stamped entry.1.actrType.manufacturer signingKeyId proof.manufacturerAuthNonce entry.2 ∈ s.nonces)
  distinct : (s.accepted.map fun entry => entry.1.manufacturerAuthSignature).Nodup

theorem stamped_live (listed : stamped manufacturer signingKeyId nonce now ∈ nonces) {later : UInt64}
    (early : later.toNat ≤ maxInt64) (soon : later.toNat ≤ now.toNat + manufacturerNonceTtlSecs) :
    stamped manufacturer signingKeyId nonce now ∈ live nonces later :=
  mem_live.mpr ⟨listed, Nat.le_min.mpr ⟨soon, early⟩⟩

theorem signedAt_window {signedAt : UInt64} (verified : verifyManufacturerAuthSignedAt signedAt now = .ok ()) :
    signedAt.toNat ≤ now.toNat + manufacturerSignedAtFutureSkewSecs ∧
      now.toNat ≤ signedAt.toNat + manufacturerSignedAtMaxAgeSecs := by
  unfold verifyManufacturerAuthSignedAt at verified
  split at verified
  · cases verified
  · split at verified
    · cases verified
    · omega

theorem signedAt_of_admitted (admitted : AdmittedWith verifier first proof signingKeyId) :
    verifyManufacturerAuthSignedAt proof.manufacturerAuthSignedAt first.2 = .ok () := by
  obtain ⟨_, _, _, _, -, -, proven⟩ := admitted
  exact proven.signedAt

theorem signature_of_admitted (admitted : AdmittedWith verifier first proof signingKeyId) :
    first.1.manufacturerAuthSignature = some proof.manufacturerAuthSignature ∧
      first.1.manufacturerAuthSignedAt = some proof.manufacturerAuthSignedAt ∧
      first.1.manufacturerAuthNonce = some proof.manufacturerAuthNonce := by
  obtain ⟨_, _, _, _, -, -, proven⟩ := admitted
  have attached := proven.attached
  simp only [RegisterRequest.manufacturerProof, Option.bind_eq_bind, Option.bind_eq_some_iff, Option.pure_def,
    Option.some.injEq] at attached
  obtain ⟨_, -, _, signature, _, signedAt, _, nonce, rfl⟩ := attached
  exact ⟨signature, signedAt, nonce⟩

section

variable (collisionFree : Function.Injective verifier.crypto.sha256) (binding : SignatureBinding verifier.crypto)
  (remembers : Remembers verifier s)
include collisionFree binding remembers

theorem signature_fresh (later : s.clock.toNat ≤ second.2.toNat)
    (admitted : AdmittedWith verifier second proof signingKeyId) (early : second.2.toNat ≤ maxInt64)
    (free : ¬ HoldsNonce (live s.nonces second.2) second.1.actrType.manufacturer signingKeyId proof.manufacturerAuthNonce)
    (old : first ∈ s.accepted) : first.1.manufacturerAuthSignature ≠ second.1.manufacturerAuthSignature := by
  intro same
  obtain ⟨proof', signingKeyId', admitted', held⟩ := remembers.kept first old
  have signatures : proof'.manufacturerAuthSignature = proof.manufacturerAuthSignature := by
    apply Option.some.inj
    rw [← (signature_of_admitted admitted').1, ← (signature_of_admitted admitted).1]
    exact same
  have payloads := payload_of_signature binding admitted' admitted signatures
  obtain ⟨-, type, -, -, signedAt, nonce, keyId⟩ := request_of_payload collisionFree admitted' admitted payloads
  -- The proof is shown again within six minutes, so its nonce is still there.
  obtain ⟨ahead, -⟩ := signedAt_window (signedAt_of_admitted admitted')
  obtain ⟨-, recent⟩ := signedAt_window (signedAt_of_admitted admitted)
  rw [signedAt] at ahead
  have soon : second.2.toNat ≤ first.2.toNat + manufacturerNonceTtlSecs := by
    simp only [manufacturerSignedAtFutureSkewSecs, manufacturerSignedAtMaxAgeSecs, manufacturerNonceTtlSecs] at *
    omega
  have listed := stamped_live (held (Nat.le_trans later soon)) early soon
  exact free ⟨_, listed, congrArg ActrType.manufacturer type, keyId, nonce⟩

theorem remembers_step (taken : step verifier s action = some t) : Remembers verifier t := by
  obtain ⟨later, clock, outcome⟩ := registration_cases taken
  rcases outcome with ⟨accepted, nonces⟩ | ⟨proof, signingKeyId, admitted, early, free, nonces, accepted⟩
  · constructor
    case kept =>
      intro entry listed
      rw [accepted] at listed
      obtain ⟨proof, signingKeyId, admitted, held⟩ := remembers.kept entry listed
      refine ⟨proof, signingKeyId, admitted, ?_⟩
      intro soon
      rw [clock] at soon
      have held := held (Nat.le_trans later soon)
      rcases nonces with same | ⟨early, cleaned⟩
      · exact same ▸ held
      · exact cleaned ▸ stamped_live held early soon
    case distinct => exact accepted ▸ remembers.distinct
  · constructor
    case kept =>
      intro entry listed
      rw [accepted] at listed
      rw [clock, nonces]
      rcases Slots.mem_snoc listed with old | rfl
      · obtain ⟨proof, signingKeyId, admitted, held⟩ := remembers.kept entry old
        refine ⟨proof, signingKeyId, admitted, ?_⟩
        intro soon
        exact List.mem_append_left _ (stamped_live (held (Nat.le_trans later soon)) early soon)
      · exact ⟨proof, signingKeyId, admitted, fun _ => List.mem_append_right _ (List.mem_singleton.mpr rfl)⟩
    case distinct =>
      rw [accepted, List.map_append]
      refine Slots.nodup_snoc remembers.distinct ?_
      intro listed
      obtain ⟨entry, old, same⟩ := List.mem_map.mp listed
      exact absurd same (signature_fresh collisionFree binding remembers later admitted early free old)

end

theorem registration_proofs_never_replayed (collisionFree : Function.Injective verifier.crypto.sha256)
    (binding : SignatureBinding verifier.crypto) (fresh : s.accepted = [])
    (run : exec (step verifier) s actions = some t) :
    (t.accepted.map fun entry => entry.1.manufacturerAuthSignature).Nodup ∧
      ∀ first ∈ t.accepted, ∀ second ∈ t.accepted, signedPayload verifier first.1 = signedPayload verifier second.1 →
          first.1.realm = second.1.realm ∧ first.1.actrType = second.1.actrType ∧
            first.1.target = second.1.target ∧ first.1.manifestRaw = second.1.manifestRaw ∧
            first.1.manufacturerAuthSignedAt = second.1.manufacturerAuthSignedAt ∧
            first.1.manufacturerAuthNonce = second.1.manufacturerAuthNonce := by
  have initial : Remembers verifier s := by
    constructor
    · rw [fresh]
      exact nofun
    · rw [fresh]
      exact List.nodup_nil
  have remembers : Remembers verifier t :=
    exec_invariant (fun _ _ _ inv taken => remembers_step collisionFree binding inv taken) initial run
  refine ⟨remembers.distinct, ?_⟩
  intro first listed second listed' same
  obtain ⟨proof, signingKeyId, admitted, -⟩ := remembers.kept first listed
  obtain ⟨proof', signingKeyId', admitted', -⟩ := remembers.kept second listed'
  obtain ⟨realm, type, target, manifest, signedAt, nonce, -⟩ := request_of_payload collisionFree admitted admitted' same
  obtain ⟨-, signedAtOf, nonceOf⟩ := signature_of_admitted admitted
  obtain ⟨-, signedAtOf', nonceOf'⟩ := signature_of_admitted admitted'
  rw [signedAtOf, signedAtOf', nonceOf, nonceOf', signedAt, nonce]
  exact ⟨realm, type, target, manifest, rfl, rfl⟩

theorem twoSignatures_binding : SignatureBinding twoSignatures := by
  intro key key' message message' signature verified verified'
  simp only [twoSignatures, decide_eq_true_eq] at verified verified'
  rcases verified with ⟨one, rfl⟩ | ⟨two, rfl⟩
  · rcases verified' with ⟨-, rfl⟩ | ⟨two, -⟩
    · rfl
    · exact absurd (one.symm.trans two) (by decide)
  · rcases verified' with ⟨one, -⟩ | ⟨-, rfl⟩
    · exact absurd (one.symm.trans two) (by decide)
    · rfl

def shownTwice : List Action := [⟨inOrder, echoRequest, 1000⟩, ⟨inOrder, echoRequest, 1200⟩]

def shownOnce : Registrations :=
  ⟨1200, [stamped "acme" "mfr-1" (List.replicate 16 7) 1000], [(echoRequest, 1000)]⟩

theorem echo_registration_accepted_once :
    Function.Injective echoVerifier.crypto.sha256 ∧ SignatureBinding echoVerifier.crypto ∧
      exec (step echoVerifier) ⟨900, [], []⟩ shownTwice = some shownOnce ∧
      (shownOnce.accepted.map fun entry => entry.1.manufacturerAuthSignature).Nodup := by
  have collisionFree : Function.Injective echoVerifier.crypto.sha256 := fun _ _ same => same
  have run : exec (step echoVerifier) ⟨900, [], []⟩ shownTwice = some shownOnce := by decide +kernel
  exact ⟨collisionFree, twoSignatures_binding, run,
    (registration_proofs_never_replayed collisionFree twoSignatures_binding rfl run).1⟩

end Actr.Proof.Ais
