import Actr.Actrix.Turn.Authenticator

/-! # The key cache of TURN authentication -/

namespace Actr.Proof.Turn
open Actrix.Turn Library.Lru Library.Machine Library.Text

def expiry (username : String) : Option Nat :=
  (splitOnce ':' username.toList).bind fun parts => (parseUnsigned (2 ^ 64) parts.1).toOption

def Unexpired (username : String) (now : UInt64) : Prop :=
  ∃ number actor expiresAt, username.toList = number ++ ':' :: actor ∧ ':' ∉ number ∧
    parseUnsigned (2 ^ 64) number = .ok expiresAt ∧ now.toNat < expiresAt

theorem expiry_eq_some {username : String} {expiresAt : Nat} :
    expiry username = some expiresAt ↔ ∃ number actor, username.toList = number ++ ':' :: actor ∧ ':' ∉ number ∧
      parseUnsigned (2 ^ 64) number = .ok expiresAt := by
  unfold expiry
  rw [Option.bind_eq_some_iff]
  constructor
  · rintro ⟨⟨number, actor⟩, found, parsed⟩
    obtain ⟨text, absent⟩ := splitOnce_eq_some.mp found
    refine ⟨number, actor, text, absent, ?_⟩
    cases result : parseUnsigned (2 ^ 64) number with
    | error =>
      rw [result] at parsed
      cases parsed
    | ok =>
      rw [result] at parsed
      cases parsed
      rfl
  · rintro ⟨number, actor, text, absent, parsed⟩
    refine ⟨(number, actor), splitOnce_eq_some.mpr ⟨text, absent⟩, ?_⟩
    rw [parsed]
    rfl

theorem unexpired_iff {username : String} {now : UInt64} :
    Unexpired username now ↔ ∃ expiresAt, expiry username = some expiresAt ∧ now.toNat < expiresAt := by
  simp only [expiry_eq_some, Unexpired]
  constructor
  · rintro ⟨number, actor, expiresAt, text, absent, parsed, later⟩
    exact ⟨expiresAt, ⟨number, actor, text, absent, parsed⟩, later⟩
  · rintro ⟨expiresAt, ⟨number, actor, text, absent, parsed⟩, later⟩
    exact ⟨number, actor, expiresAt, text, absent, parsed, later⟩

section Calls

variable {auth : Authenticator} {calls : List AuthCall} {call : AuthCall} {s t : AuthState} {username realm : String}
  {now : UInt64} {key : List UInt8}

theorem authenticate_ok_iff :
    auth.authenticate username realm now = .ok key ↔
      Unexpired username now ∧ key = auth.credentialKey username realm := by
  rw [unexpired_iff]
  unfold Authenticator.authenticate expiry
  cases splitOnce ':' username.toList with
  | none => simp
  | some parts =>
    obtain ⟨number, actor⟩ := parts
    dsimp only [Option.bind_some]
    cases parseUnsigned (2 ^ 64) number with
    | error => simp [Except.toOption]
    | ok expiresAt =>
      by_cases late : expiresAt ≤ now.toNat
      · simp [Except.toOption, late, not_lt.mpr late]
      · simp [Except.toOption, late, not_le.mp late, eq_comm]

/-- No two user names and no two realms of the calls have the same hash. -/
structure CollisionFree (crypto : Crypto) (calls : List AuthCall) : Prop where
  usernames : ∀ first ∈ calls, ∀ second ∈ calls,
    crypto.xxHash64 0 (utf8 first.username) = crypto.xxHash64 0 (utf8 second.username) →
      first.username = second.username
  realms : ∀ first ∈ calls, ∀ second ∈ calls,
    crypto.xxHash64 0 (utf8 first.realm) = crypto.xxHash64 0 (utf8 second.realm) → first.realm = second.realm

theorem pack_injective {k1 k2 l1 l2 : UInt64}
    (same : (k1.toNat <<< 64) ||| k2.toNat = (l1.toNat <<< 64) ||| l2.toNat) : k1 = l1 ∧ k2 = l2 := by
  have low := k2.toNat_lt
  have low' := l2.toNat_lt
  rw [← Nat.shiftLeft_add_eq_or_of_lt low, ← Nat.shiftLeft_add_eq_or_of_lt low', Nat.shiftLeft_eq,
    Nat.shiftLeft_eq] at same
  constructor
  · apply UInt64.toNat_inj.mp
    omega
  · apply UInt64.toNat_inj.mp
    omega

theorem cacheKey_injective (free : CollisionFree auth.crypto calls) {other : AuthCall} (first : call ∈ calls)
    (second : other ∈ calls) (same : computeCacheKey auth.crypto call.username call.realm =
      computeCacheKey auth.crypto other.username other.realm) :
    call.username = other.username ∧ call.realm = other.realm := by
  obtain ⟨usernames, realms⟩ := pack_injective same
  exact ⟨free.usernames call first other second usernames, free.realms call first other second realms⟩

def Sound (auth : Authenticator) (calls : List AuthCall) (s : AuthState) : Prop :=
  ∀ cacheKey key, s.cache.lookup cacheKey = some key →
    ∃ call ∈ calls, cacheKey = computeCacheKey auth.crypto call.username call.realm ∧
      key = auth.credentialKey call.username call.realm ∧ (expiry call.username).isSome

theorem authHandle_hit (hit : s.cache.lookup (computeCacheKey auth.crypto username realm) = some key) :
    auth.authHandle s.cache username realm now =
      (.ok key, s.cache.put (computeCacheKey auth.crypto username realm) key) := by
  unfold Authenticator.authHandle Cache.get
  simp only [hit]

theorem authHandle_accept (miss : s.cache.lookup (computeCacheKey auth.crypto username realm) = none)
    (accepted : auth.authenticate username realm now = .ok key) : auth.authHandle s.cache username realm now =
      (.ok key, s.cache.put (computeCacheKey auth.crypto username realm) key) := by
  unfold Authenticator.authHandle Cache.get
  simp only [miss, accepted]

theorem authHandle_reject {error : String} (miss : s.cache.lookup (computeCacheKey auth.crypto username realm) = none)
    (rejected : auth.authenticate username realm now = .error error) :
    auth.authHandle s.cache username realm now = (.error error, s.cache) := by
  unfold Authenticator.authHandle Cache.get
  simp only [miss, rejected]

theorem sound_init : Sound auth calls .init := by
  intro cacheKey key cached
  cases cached

theorem sound_step (sound : Sound auth calls s) (listed : call ∈ calls) (taken : s.step auth call = some t) :
    Sound auth calls t := by
  obtain ⟨-, rfl⟩ := of_guard taken
  intro cacheKey key cached
  cases found : s.cache.lookup (computeCacheKey auth.crypto call.username call.realm) with
  | some =>
    rw [authHandle_hit found] at cached
    rcases Cache.lookup_put cached with ⟨rfl, rfl⟩ | old
    · exact sound _ key found
    · exact sound cacheKey key old
  | none =>
    cases result : auth.authenticate call.username call.realm call.now with
    | error =>
      rw [authHandle_reject found result] at cached
      exact sound cacheKey key cached
    | ok =>
      rw [authHandle_accept found result] at cached
      rcases Cache.lookup_put cached with ⟨rfl, rfl⟩ | old
      · obtain ⟨unexpired, rfl⟩ := authenticate_ok_iff.mp result
        obtain ⟨expiresAt, known, -⟩ := unexpired_iff.mp unexpired
        exact ⟨call, listed, rfl, rfl, by rw [known]; rfl⟩
      · exact sound cacheKey key old

structure Uncached (auth : Authenticator) (call : AuthCall) (result : Except String (List UInt8)) : Prop where
  same : result = auth.authenticate call.username call.realm call.now
  accepted : ∀ key, result = .ok key ↔
    Unexpired call.username call.now ∧ key = auth.credentialKey call.username call.realm

theorem uncached_iff {result : Except String (List UInt8)} :
    Uncached auth call result ↔ result = auth.authenticate call.username call.realm call.now := by
  constructor
  · exact Uncached.same
  · intro same
    refine ⟨same, ?_⟩
    intro key
    rw [same]
    exact authenticate_ok_iff

/-- The cache does not hold the key of an expired credential when that credential is presented. -/
def FreshHit (auth : Authenticator) (s : AuthState) (call : AuthCall) (_ : AuthState) : Prop :=
  (s.cache.lookup (computeCacheKey auth.crypto call.username call.realm)).isSome →
    ∀ expiresAt, expiry call.username = some expiresAt → call.now.toNat < expiresAt

theorem uncached_iff_freshHit (free : CollisionFree auth.crypto calls) (sound : Sound auth calls s)
    (listed : call ∈ calls) :
    Uncached auth call (auth.authHandle s.cache call.username call.realm call.now).1 ↔ FreshHit auth s call t := by
  rw [uncached_iff]
  unfold FreshHit
  cases found : s.cache.lookup (computeCacheKey auth.crypto call.username call.realm) with
  | none =>
    cases result : auth.authenticate call.username call.realm call.now with
    | ok => simp [authHandle_accept found result]
    | error => simp [authHandle_reject found result]
  | some key =>
    obtain ⟨origin, member, sameKey, rfl, known⟩ := sound _ key found
    obtain ⟨username, realm⟩ := cacheKey_injective free listed member sameKey
    obtain ⟨expiresAt, expires⟩ := Option.isSome_iff_exists.mp known
    rw [authHandle_hit found, eq_comm, authenticate_ok_iff, unexpired_iff, username, realm, expires]
    simp

theorem cached_authentication_iff (free : CollisionFree auth.crypto calls) :
    Along (AuthState.step auth) (fun s call _ =>
        Uncached auth call (auth.authHandle s.cache call.username call.realm call.now).1) .init calls ↔
      Along (AuthState.step auth) (FreshHit auth) .init calls := by
  have start : Sound auth calls .init := sound_init
  refine along_iff_on start ?_ ?_ fun call listed => listed
  · intro s call t sound listed taken
    exact uncached_iff_freshHit free sound listed
  · intro s call t sound listed taken fresh
    exact sound_step sound listed taken

end Calls

def plain : Authenticator where
  crypto := {
    hmacSha1 := fun key message => key ++ message
    base64 := fun bytes => String.ofList (bytes.map fun byte => Char.ofNat byte.toNat)
    md5 := id
    xxHash64 := fun seed bytes => bytes.foldl (fun hash byte => hash * 31 + byte.toUInt64) seed }
  turnSecret := "secret"

def renewals : List AuthCall := [⟨"10:alice", "turn", 5⟩, ⟨"20:alice", "turn", 12⟩, ⟨"20:alice", "turn", 19⟩]

theorem renewed_credentials_match : CollisionFree plain.crypto renewals ∧
      Along (AuthState.step plain) (fun s call _ =>
        Uncached plain call (plain.authHandle s.cache call.username call.realm call.now).1) .init renewals := by
  have free : CollisionFree plain.crypto renewals := ⟨by decide, by decide⟩
  refine ⟨free, (cached_authentication_iff free).mpr ?_⟩
  intro s first
  refine ⟨fun _ => by decide, ?_⟩
  intro s second
  refine ⟨fun _ => by decide, ?_⟩
  intro s third
  exact ⟨fun _ => by decide, trivial⟩

def replayed : List AuthCall := [⟨"10:alice", "turn", 5⟩, ⟨"10:alice", "turn", 12⟩]

theorem expired_credential_is_accepted : CollisionFree plain.crypto replayed ∧
      plain.authenticate "10:alice" "turn" 12 = .error "TURN credential expired" ∧
      ¬ Along (AuthState.step plain) (fun s call _ =>
        Uncached plain call (plain.authHandle s.cache call.username call.realm call.now).1) .init replayed := by
  refine ⟨⟨by decide, by decide⟩, by decide, ?_⟩
  intro along
  obtain ⟨-, along⟩ := along _ rfl
  obtain ⟨second, -⟩ := along _ rfl
  have same := second.same
  revert same
  decide

end Actr.Proof.Turn
