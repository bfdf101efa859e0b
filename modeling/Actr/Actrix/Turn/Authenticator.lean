import Actr.Library.Lru
import Actr.Library.Machine
import Actr.Library.Text
import Mathlib.Algebra.Ring.Nat

/-!
# TURN authentication

Time-limited credentials whose user name carries the expiry, with the cache of computed keys in front of the check.
-/

namespace Actr.Actrix.Turn
open Library.Lru Library.Text

structure Crypto where
  hmacSha1 (key message : List UInt8) : List UInt8
  base64 : List UInt8 → String
  md5 : List UInt8 → List UInt8
  xxHash64 (seed : UInt64) (bytes : List UInt8) : UInt64

def authCacheCapacity : Nat := 4096

abbrev AuthKeyCache := Cache Nat (List UInt8) authCacheCapacity

structure Authenticator where
  crypto : Crypto
  turnSecret : String

def computeCacheKey (crypto : Crypto) (username realm : String) : Nat :=
  let k1 := crypto.xxHash64 0 (utf8 username)
  let k2 := crypto.xxHash64 0 (utf8 realm)
  (k1.toNat <<< 64) ||| k2.toNat

namespace Authenticator

def computePassword (auth : Authenticator) (username : String) : String :=
  auth.crypto.base64 (auth.crypto.hmacSha1 (utf8 auth.turnSecret) (utf8 username))

def credentialKey (auth : Authenticator) (username realm : String) : List UInt8 :=
  auth.crypto.md5 (utf8 (username ++ ":" ++ realm ++ ":" ++ auth.computePassword username))

def authenticate (auth : Authenticator) (username realm : String) (now : UInt64) : Except String (List UInt8) :=
  match splitOnce ':' username.toList with
  | none => .error "invalid username format"
  | some (expiresAtStr, _) =>
    match parseUnsigned (2 ^ 64) expiresAtStr with
    | .error error => .error ("invalid expires_at in username: " ++ error.display)
    | .ok expiresAt =>
      if expiresAt ≤ now.toNat then .error "TURN credential expired"
      else .ok (auth.credentialKey username realm)

def authHandle (auth : Authenticator) (cache : AuthKeyCache) (username realm : String) (now : UInt64) :
    Except String (List UInt8) × AuthKeyCache :=
  let cacheKey := computeCacheKey auth.crypto username realm
  match cache.get cacheKey with
  | (some cached, cache) => (.ok cached, cache)
  | (none, cache) =>
    match auth.authenticate username realm now with
    | .ok result => (.ok result, cache.put cacheKey result)
    | .error error => (.error error, cache)

end Authenticator

structure AuthCall where
  username : String
  realm : String
  now : UInt64
  deriving DecidableEq, Repr

structure AuthState where
  cache : AuthKeyCache
  clock : UInt64

def AuthState.init : AuthState := ⟨.empty, 0⟩

def AuthState.step (auth : Authenticator) (s : AuthState) (call : AuthCall) : Option AuthState :=
  if s.clock ≤ call.now then
    some ⟨(auth.authHandle s.cache call.username call.realm call.now).2, call.now⟩
  else none

end Actr.Actrix.Turn
