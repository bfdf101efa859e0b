import Actr.Actrix.Ais.SigningKeys
import Actr.Library.Words

/-! # How long a credential can be verified -/

namespace Actr.Proof.Ais
open Actrix.Ais Actrix.Platform Library Machine Maps Authority

variable {signingKey : List UInt8}

section Cache

variable {cache : KeyCache} {row : KeyRow} {keyId other : Nat} {now : UInt64}

def Expired (expiresAt : Int64) (now : UInt64) : Prop := 0 < expiresAt ∧ expiresAt.toUInt64 ≤ now

theorem expired_of_lt {expiresAt : Int64} (positive : 0 < expiresAt) (before : expiresAt < now.toInt64) :
    Expired expiresAt now :=
  ⟨positive, Words.toUInt64_le_of_lt_toInt64 positive before⟩

section

variable (found : cache.rows.lookup keyId = some row) (live : ¬ Expired row.expiresAt now)
include found live

theorem lookup_maybeCleanup : (cache.maybeCleanup now).rows.lookup keyId = some row := by
  unfold KeyCache.maybeCleanup
  split
  · have kept : ¬ (0 < row.expiresAt ∧ row.expiresAt < now.toInt64) := by
      rintro ⟨positive, before⟩
      exact live (expired_of_lt positive before)
    simp only [KeyCache.cleanupExpiredKeys]
    rw [lookup_retain, found, Option.bind_some, if_neg kept]
  · exact found

theorem getCachedKey_live : (cache.getCachedKey keyId now).1 = some (row.pubkey, row.expiresAt.toUInt64) := by
  unfold KeyCache.getCachedKey
  simp only [lookup_maybeCleanup found live]
  unfold Expired at live
  rw [if_neg live]

theorem lookup_getCachedKey : (cache.getCachedKey other now).2.rows.lookup keyId = some row := by
  have kept := lookup_maybeCleanup found live
  unfold KeyCache.getCachedKey
  simp only
  split
  · next seen present =>
    split
    · next expired =>
      have different : keyId ≠ other := by
        rintro rfl
        rw [kept] at present
        cases present
        exact live expired
      rw [AList.lookup_erase_ne different]
      exact kept
    · exact kept
  · exact kept

end

end Cache

structure Lawful (scheme : CredentialScheme) : Prop where
  verifies : ∀ signingKey message,
    scheme.verify (scheme.ed25519.verifyingKey signingKey) message (scheme.ed25519.sign signingKey message) = .ok ()
  length : ∀ signingKey message, (scheme.ed25519.sign signingKey message).length = 64
  decodes : ∀ claims, scheme.decodeClaims (scheme.encodeClaims claims) = .ok claims

section Runs

variable {scheme : CredentialScheme} {s t : Authority} {action : Action} {origin : Nat → Actrix.Signer.KeyRecord}
  {record other : KeyRecord} {key : Actrix.Signer.KeyRecord}

def held (s : Authority) : List KeyRecord :=
  s.fetched ++ s.loaded ++ s.saved ++ s.persisted ++ s.keyCache.toList ++ s.currentKey.toList

structure Genuine (scheme : CredentialScheme) (origin : Nat → Actrix.Signer.KeyRecord) (last : Nat)
    (record : KeyRecord) : Prop where
  known : record.keyId ≤ last
  verifyingKey : record.verifyingKey = scheme.ed25519.verifyingKey (origin record.keyId).secretKey
  expiresAt : record.expiresAt = (origin record.keyId).expiresAt.toUInt64

def Outlives (keyExpiresAt expiresAt : UInt64) : Prop := ¬ 0 < keyExpiresAt.toInt64 ∨ expiresAt ≤ keyExpiresAt

structure Signed (scheme : CredentialScheme) (origin : Nat → Actrix.Signer.KeyRecord) (last : Nat)
    (issued : IssuedCredential) : Prop where
  known : issued.credential.keyId ≤ last
  claims : issued.credential.claims = scheme.encodeClaims issued.claims
  signature : issued.credential.signature =
    scheme.ed25519.sign (origin issued.credential.keyId).secretKey issued.credential.claims
  outlives : Outlives (origin issued.credential.keyId).expiresAt.toUInt64 issued.claims.expiresAt

def Cached (s : Authority) (record : KeyRecord) : Prop :=
  (∃ row, s.verifyingKeys.rows.lookup record.keyId = some row ∧ row.pubkey = record.verifyingKey ∧
    row.expiresAt = record.expiresAt.toInt64) ∨ Expired record.expiresAt.toInt64 s.clock

structure Traced (scheme : CredentialScheme) (s : Authority) (origin : Nat → Actrix.Signer.KeyRecord) : Prop where
  keys : ∀ key ∈ s.signer.keys, key.rowid ≤ s.signer.lastRowid ∧ origin key.rowid = key
  held : ∀ record ∈ held s, Genuine scheme origin s.signer.lastRowid record
  cached : ∀ record ∈ s.persisted, Cached s record
  issued : ∀ issued ∈ s.issued, Signed scheme origin s.signer.lastRowid issued

/-- The number of a new key fits in 32 bits, and a credential is issued with a key that outlives it. -/
def Covered (s : Authority) : Action → Authority → Prop
  | .generateSigningKey _, _ => s.signer.lastRowid + 1 < 2 ^ 32
  | .issueCredential _ _ now, _ =>
    ∀ key, s.keyCache = some key → Outlives key.expiresAt (now + s.tokenTtlSecs)
  | _, _ => True

theorem genuine_unique (first : Genuine scheme origin s.signer.lastRowid record)
    (second : Genuine scheme origin s.signer.lastRowid other) (same : record.keyId = other.keyId) :
    record.verifyingKey = other.verifyingKey ∧ record.expiresAt = other.expiresAt := by
  rw [first.verifyingKey, second.verifyingKey, first.expiresAt, second.expiresAt, same]
  exact ⟨rfl, rfl⟩

theorem cached_persist (traced : Traced scheme s origin) (saved : record ∈ s.saved)
    (listed : other ∈ s.persisted ++ [record]) :
    Cached { s with
      verifyingKeys := s.verifyingKeys.cacheKey record.keyId record.verifyingKey record.expiresAt s.clock
      saved := s.saved.erase record
      persisted := s.persisted ++ [record] } other := by
  by_cases same : other.keyId = record.keyId
  · have here : record ∈ held s := by simp [held, saved]
    have there : other ∈ held s := by
      rcases Slots.mem_snoc listed with old | rfl
      · simp [held, old]
      · exact here
    obtain ⟨verifyingKey, expiresAt⟩ := genuine_unique (traced.held other there) (traced.held record here) same
    left
    simp only [KeyCache.cacheKey]
    rw [same, AList.lookup_insert, verifyingKey, expiresAt]
    exact ⟨_, rfl, rfl, rfl⟩
  · have old : other ∈ s.persisted := by
      rcases Slots.mem_snoc listed with old | rfl
      · exact old
      · exact absurd rfl same
    rcases traced.cached other old with ⟨row, found, facts⟩ | expired
    · left
      simp only [KeyCache.cacheKey]
      rw [AList.lookup_insert_ne same]
      exact ⟨row, found, facts⟩
    · exact .inr expired

theorem cached_lookup {keyId : Nat} (cached : Cached s record) :
    Cached { s with verifyingKeys := (s.verifyingKeys.getCachedKey keyId s.clock).2 } record := by
  rcases cached with ⟨row, found, verifyingKey, expiresAt⟩ | expired
  · by_cases late : Expired row.expiresAt s.clock
    · rw [expiresAt] at late
      exact .inr late
    · exact .inl ⟨row, lookup_getCachedKey found late, verifyingKey, expiresAt⟩
  · exact .inr expired

theorem getKeyRecord_some {store : Actrix.Signer.KeyStore} {keyId : Nat}
    (found : store.getKeyRecord keyId = some key) : key ∈ store.keys ∧ key.rowid = keyId := by
  refine ⟨List.mem_of_find?_eq_some found, ?_⟩
  simpa using List.find?_some found

theorem generate_ok (keys : ∀ key ∈ s.signer.keys, key.rowid ≤ s.signer.lastRowid)
    (small : s.signer.lastRowid + 1 < 2 ^ 32) :
    s.signer.generateSigningKey scheme.ed25519 signingKey s.clock =
      (.ok ⟨s.signer.lastRowid + 1, scheme.ed25519.verifyingKey signingKey,
          (s.signer.newKey scheme.ed25519 signingKey s.clock).expiresAt.toUInt64, s.signer.toleranceSeconds⟩,
        { s.signer with
          keys := s.signer.keys ++ [s.signer.newKey scheme.ed25519 signingKey s.clock]
          lastRowid := s.signer.lastRowid + 1 }) := by
  have number : (s.signer.newKey scheme.ed25519 signingKey s.clock).rowid = s.signer.lastRowid + 1 := rfl
  have fresh : s.signer.keys.find? (fun key => decide (key.rowid = s.signer.lastRowid + 1)) = none := by
    rw [List.find?_eq_none]
    intro key listed
    have bound := keys key listed
    simp
    omega
  unfold Actrix.Signer.KeyStore.generateSigningKey Actrix.Signer.KeyStore.generateAndStoreKey
    Actrix.Signer.KeyStore.getKeyRecord
  simp only [number, Nat.mod_eq_of_lt small, List.find?_append, fresh, List.find?_cons, decide_true, Option.none_or]
  rfl

theorem genuine_update {last : Nat} (genuine : Genuine scheme origin last record) :
    Genuine scheme (Function.update origin (last + 1) key) (last + 1) record := by
  have different : record.keyId ≠ last + 1 := Nat.ne_of_lt (Nat.lt_succ_of_le genuine.known)
  refine ⟨Nat.le_succ_of_le genuine.known, ?_, ?_⟩
  · rw [Function.update_of_ne different]
    exact genuine.verifyingKey
  · rw [Function.update_of_ne different]
    exact genuine.expiresAt

theorem signed_update {last : Nat} {issued : IssuedCredential} (signed : Signed scheme origin last issued) :
    Signed scheme (Function.update origin (last + 1) key) (last + 1) issued := by
  have different : issued.credential.keyId ≠ last + 1 := Nat.ne_of_lt (Nat.lt_succ_of_le signed.known)
  refine ⟨Nat.le_succ_of_le signed.known, signed.claims, ?_, ?_⟩
  · rw [Function.update_of_ne different]
    exact signed.signature
  · rw [Function.update_of_ne different]
    exact signed.outlives

theorem traced_generate (traced : Traced scheme s origin)
    (small : s.signer.lastRowid + 1 < 2 ^ 32) (taken : generateSigningKey scheme s signingKey = some t) :
    ∃ origin, Traced scheme t origin := by
  unfold Authority.generateSigningKey at taken
  rw [generate_ok (fun key listed => (traced.keys key listed).1) small] at taken
  simp only [Option.some.injEq] at taken
  subst taken
  have number : (s.signer.newKey scheme.ed25519 signingKey s.clock).rowid = s.signer.lastRowid + 1 := rfl
  refine ⟨Function.update origin (s.signer.lastRowid + 1) (s.signer.newKey scheme.ed25519 signingKey s.clock), ?_⟩
  constructor
  case keys =>
    intro key listed
    rcases Slots.mem_snoc listed with old | rfl
    · obtain ⟨bound, same⟩ := traced.keys key old
      refine ⟨Nat.le_succ_of_le bound, ?_⟩
      rw [Function.update_of_ne (Nat.ne_of_lt (Nat.lt_succ_of_le bound))]
      exact same
    · refine ⟨le_of_eq number, ?_⟩
      rw [number, Function.update_self]
  case held =>
    intro record listed
    have cases : record ∈ held s ∨ record = ⟨s.signer.lastRowid + 1, scheme.ed25519.verifyingKey signingKey,
        (s.signer.newKey scheme.ed25519 signingKey s.clock).expiresAt.toUInt64, s.signer.toleranceSeconds⟩ := by
      simp only [held, List.mem_append, List.mem_singleton] at listed ⊢
      tauto
    rcases cases with old | rfl
    · exact genuine_update (traced.held record old)
    · refine ⟨le_rfl, ?_, ?_⟩
      · rw [Function.update_self]
        rfl
      · rw [Function.update_self]
  case cached => exact traced.cached
  case issued =>
    intro issued listed
    exact signed_update (traced.issued issued listed)

theorem traced_issue {realmId : Nat} {actorId : String} {now : UInt64} (traced : Traced scheme s origin)
    (covered : Covered s (.issueCredential realmId actorId now) t)
    (taken : issueCredential scheme s realmId actorId now = some t) : Traced scheme t origin := by
  unfold Authority.issueCredential at taken
  split at taken
  · cases taken
  · next key cached =>
    have genuine : Genuine scheme origin s.signer.lastRowid key := traced.held key (by simp [held, cached])
    simp only at taken
    split at taken
    · cases taken
    · next signature signed =>
      cases taken
      refine { traced with issued := ?_ }
      intro issued listed
      rcases Slots.mem_snoc listed with old | rfl
      · exact traced.issued issued old
      · unfold Actrix.Signer.KeyStore.sign at signed
        split at signed
        · cases signed
        · next stored found =>
          split at signed
          · cases signed
          · cases signed
            obtain ⟨listed, number⟩ := getKeyRecord_some found
            obtain ⟨-, same⟩ := traced.keys stored listed
            rw [number] at same
            refine ⟨genuine.known, rfl, by rw [same], ?_⟩
            rw [← genuine.expiresAt]
            exact covered key cached

def Traceable (scheme : CredentialScheme) (s : Authority) : Prop := ∃ origin, Traced scheme s origin

theorem traced_step (traced : Traced scheme s origin) (covered : Covered s action t)
    (taken : step scheme s action = some t) : Traceable scheme t := by
  cases action with
  | pass =>
    obtain ⟨later, rfl⟩ := of_guard taken
    refine ⟨origin, { traced with cached := ?_ }⟩
    intro record listed
    rcases traced.cached record listed with row | ⟨positive, past⟩
    · exact .inl row
    · exact .inr ⟨positive, UInt64.le_trans past later⟩
  | generateSigningKey => exact traced_generate traced covered taken
  | cacheKey | updateCurrentKey =>
    obtain ⟨present, rfl⟩ := of_guard taken
    refine ⟨origin, { traced with held := ?_ }⟩
    intro other listed
    apply traced.held
    simp only [held, List.mem_append, Option.mem_toList, Option.some.injEq, List.mem_singleton] at listed ⊢
    grind [List.mem_of_mem_erase]
  | persistKey =>
    obtain ⟨saved, rfl⟩ := of_guard taken
    refine ⟨origin, { traced with held := ?_, cached := ?_ }⟩
    · intro other listed
      apply traced.held
      simp only [held, List.mem_append, Option.mem_toList, List.mem_singleton] at listed ⊢
      grind [List.mem_of_mem_erase]
    · intro other listed
      exact cached_persist traced saved listed
  | restart =>
    cases taken
    refine ⟨origin, { traced with held := ?_ }⟩
    intro other listed
    apply traced.held
    simp only [held, List.mem_append, List.not_mem_nil, false_or, Option.toList_none, or_false] at listed ⊢
    tauto
  | loadKeyFromRecord =>
    simp only [step, Authority.loadKeyFromRecord] at taken
    split at taken
    · next record empty stored =>
      obtain ⟨-, rfl⟩ := of_unless taken
      refine ⟨origin, { traced with held := ?_ }⟩
      intro other listed
      apply traced.held
      simp only [held, stored, List.mem_append, Option.mem_toList, Option.some.injEq,
        List.mem_singleton] at listed ⊢
      grind
    · cases taken
  | issueCredential =>
    simp only [step, Option.ite_none_right_eq_some] at taken
    exact ⟨origin, traced_issue traced covered taken.2⟩
  | getCachedKey =>
    cases taken
    refine ⟨origin, { traced with cached := ?_ }⟩
    intro record listed
    exact cached_lookup (traced.cached record listed)
  | cleanupSigner =>
    cases taken
    refine ⟨origin, { traced with keys := ?_ }⟩
    intro key listed
    exact traced.keys key (List.mem_of_mem_filter listed)

/-- Credentials are accepted until they expire, as long as the cache is as it is now. -/
def Verifiable (scheme : CredentialScheme) (s : Authority) : Prop :=
  ∀ issued ∈ s.issued, ∀ record ∈ s.persisted, record.keyId = issued.credential.keyId →
    ∀ now, s.clock ≤ now → now < issued.claims.expiresAt →
      (checksAt scheme s now).check issued.credential issued.claims.realmId = .ok (issued.claims, false)

theorem verifiable_of_traced (lawful : Lawful scheme) (traced : Traced scheme s origin) : Verifiable scheme s := by
  intro issued listed record persisted same now later unexpired
  have signed := traced.issued issued listed
  have genuine : Genuine scheme origin s.signer.lastRowid record := traced.held record (by simp [held, persisted])
  have outlives := signed.outlives
  rw [← same, ← genuine.expiresAt] at outlives
  have live : ¬ Expired record.expiresAt.toInt64 now := by
    rintro ⟨positive, past⟩
    rcases outlives with never | outlives
    · exact never positive
    · rw [UInt64.toUInt64_toInt64] at past
      exact absurd (UInt64.lt_of_lt_of_le unexpired outlives) (UInt64.not_lt.mpr past)
  rcases traced.cached record persisted with ⟨row, found, verifyingKey, expiresAt⟩ | ⟨positive, past⟩
  · rw [← expiresAt] at live
    have key := getCachedKey_live found live
    rw [same] at key
    have accepted := lawful.verifies (origin issued.credential.keyId).secretKey issued.credential.claims
    rw [← signed.signature, ← same, ← genuine.verifyingKey, ← verifyingKey] at accepted
    have length : issued.credential.signature.length = 64 := by
      rw [signed.signature]
      exact lawful.length _ _
    have decoded := lawful.decodes issued.claims
    rw [← signed.claims] at decoded
    simp [Checks.check, Checks.verify, checksAt, key, accepted, length, decoded, UInt64.not_le.mpr unexpired]
  · exact absurd ⟨positive, UInt64.le_trans past later⟩ live

theorem credentials_verifiable_when_covered (lawful : Lawful scheme)
    {keyTtl toleranceSeconds tokenTtlSecs clock : UInt64} {actions : List Action}
    (covered : Along (step scheme) Covered (init keyTtl toleranceSeconds tokenTtlSecs clock) actions)
    (run : exec (step scheme) (init keyTtl toleranceSeconds tokenTtlSecs clock) actions = some s) :
    Verifiable scheme s := by
  have traceable : Traceable scheme s := by
    refine along_invariant ?_ covered ?_ run
    · rintro s action t ⟨origin, traced⟩ covered taken
      exact traced_step traced covered taken
    · exact ⟨fun _ => ⟨0, [], [], 0, 0⟩, ⟨nofun, nofun, nofun, nofun⟩⟩
  obtain ⟨origin, traced⟩ := traceable
  exact verifiable_of_traced lawful traced

end Runs

def unary (numbers : List Nat) : List UInt8 := numbers.flatMap fun number => List.replicate number 1 ++ [0]

def ofUnary : Nat → List UInt8 → List Nat
  | _, [] => []
  | count, byte :: rest => if byte = 0 then count :: ofUnary 0 rest else ofUnary (count + 1) rest

theorem ofUnary_replicate {count number : Nat} {rest : List UInt8} :
    ofUnary count (List.replicate number 1 ++ 0 :: rest) = (count + number) :: ofUnary 0 rest := by
  induction number generalizing count with
  | zero => rfl
  | succ number ih => simp [List.replicate_succ, ofUnary, ih, Nat.add_assoc, Nat.add_comm 1]

theorem ofUnary_unary {numbers : List Nat} : ofUnary 0 (unary numbers) = numbers := by
  induction numbers with
  | nil => rfl
  | cons number rest ih =>
    have split : unary (number :: rest) = List.replicate number 1 ++ 0 :: unary rest := by simp [unary]
    rw [split, ofUnary_replicate, ih, Nat.zero_add]

def plainSign (signingKey message : List UInt8) : List UInt8 :=
  (List.range 64).map fun index => (signingKey ++ message).getD index 0

def plainScheme : CredentialScheme where
  ed25519 := ⟨id, plainSign⟩
  verify verifyingKey message signature :=
    if signature = plainSign verifyingKey message then .ok () else .error "signature error"
  encodeClaims claims := unary (claims.realmId :: claims.expiresAt.toNat :: claims.actorId.toList.map Char.toNat)
  decodeClaims bytes :=
    match ofUnary 0 bytes with
    | realmId :: expiresAt :: actorId => .ok ⟨realmId, String.ofList (actorId.map Char.ofNat), expiresAt.toUInt64⟩
    | _ => .error "buffer underflow"

theorem plainScheme_lawful : Lawful plainScheme where
  verifies _ _ := if_pos rfl
  length _ _ := by simp [plainScheme, plainSign]
  decodes claims := by simp [plainScheme, ofUnary_unary, Function.comp_def]

def firstKey : KeyRecord := ⟨1, [7], 105, 10⟩

def issuing : List Action :=
  [.generateSigningKey [7], .cacheKey firstKey, .updateCurrentKey firstKey, .persistKey firstKey,
    .issueCredential 7 "a" 5]

theorem short_lived_credential_verifiable :
    Lawful plainScheme ∧ ∃ s, exec (step plainScheme) (init 100 10 20 5) (issuing ++ [.pass 24]) = some s ∧
      s.persisted = [firstKey] ∧ s.issued.length = 1 ∧ Verifiable plainScheme s := by
  have covered : Along (step plainScheme) Covered (init 100 10 20 5) (issuing ++ [.pass 24]) := by
    intro s generated
    refine ⟨show 0 + 1 < 2 ^ 32 by decide, ?_⟩
    intro s cached
    refine ⟨trivial, ?_⟩
    intro s saved
    refine ⟨trivial, ?_⟩
    intro s persisted
    refine ⟨trivial, ?_⟩
    intro s issued
    cases generated
    cases cached
    cases saved
    cases persisted
    refine ⟨?_, ?_⟩
    · intro key known
      cases known
      exact .inr (by decide)
    · intro s passed
      exact ⟨trivial, trivial⟩
  exact ⟨plainScheme_lawful, _, rfl, by decide, by decide,
    credentials_verifiable_when_covered plainScheme_lawful covered rfl⟩

theorem credential_outlives_its_key :
    Lawful plainScheme ∧ ∃ s, exec (step plainScheme) (init 100 10 200 5) (issuing ++ [.pass 105]) = some s ∧
      s.persisted = [firstKey] ∧ (∃ issued ∈ s.issued, issued.claims = ⟨7, "a", 205⟩ ∧ issued.credential.keyId = 1 ∧
        (checksAt plainScheme s 105).check issued.credential 7 = .error .invalidFormat) ∧
      ¬ Verifiable plainScheme s := by
  refine ⟨plainScheme_lawful, _, rfl, by decide, ⟨_, List.mem_cons_self, rfl, rfl, rfl⟩, ?_⟩
  intro verifiable
  have accepted := verifiable _ List.mem_cons_self firstKey List.mem_cons_self rfl 105 (by decide) (by decide)
  cases accepted

end Actr.Proof.Ais
