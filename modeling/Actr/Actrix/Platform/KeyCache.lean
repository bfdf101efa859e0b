import Actr.Library.Maps

/-!
# The cache of verifying keys

The table `key_cache` that credentials are verified from. Its times are `i64`, and `0` or less stands for a key that
does not expire.
-/

namespace Actr.Actrix.Platform
open Library.Maps

structure KeyRow where
  pubkey : List UInt8
  cachedAt : Int64
  expiresAt : Int64
  deriving DecidableEq

structure KeyCache where
  rows : AList fun _ : Nat => KeyRow
  lastCleanupTime : UInt64

namespace KeyCache

def empty : KeyCache := ⟨∅, 0⟩

def cleanupExpiredKeys (cache : KeyCache) (now : UInt64) : KeyCache :=
  { cache with
    rows := retain cache.rows fun row =>
      if 0 < row.expiresAt ∧ row.expiresAt < now.toInt64 then none else some row }

def maybeCleanup (cache : KeyCache) (now : UInt64) : KeyCache :=
  if 3600 ≤ now.toNat - cache.lastCleanupTime.toNat then
    { cache.cleanupExpiredKeys now with lastCleanupTime := now }
  else cache

def getCachedKey (cache : KeyCache) (keyId : Nat) (now : UInt64) : Option (List UInt8 × UInt64) × KeyCache :=
  let cache := cache.maybeCleanup now
  match cache.rows.lookup keyId with
  | some row =>
    if 0 < row.expiresAt ∧ row.expiresAt.toUInt64 ≤ now then
      (none, { cache with rows := cache.rows.erase keyId })
    else (some (row.pubkey, row.expiresAt.toUInt64), cache)
  | none => (none, cache)

def cacheKey (cache : KeyCache) (keyId : Nat) (verifyingKey : List UInt8) (expiresAt now : UInt64) : KeyCache :=
  { cache with rows := cache.rows.insert keyId ⟨verifyingKey, now.toInt64, expiresAt.toInt64⟩ }

end KeyCache

end Actr.Actrix.Platform
