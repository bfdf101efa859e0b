import Actr.Library.Maps

/-!
# Bounded caches that drop the least recently used entry

The entries stand in the order of their last use, the latest one first.
-/

namespace Actr.Library.Lru

structure Cache (K V : Type*) [DecidableEq K] (capacity : Nat) where
  recent : AList fun _ : K => V
  bounded : recent.entries.length ≤ capacity

variable {K V : Type*} [DecidableEq K] {capacity : Nat}

def truncate (map : AList fun _ : K => V) (capacity : Nat) : AList fun _ : K => V where
  entries := map.entries.take capacity
  nodupKeys := ((List.take_sublist capacity map.entries).map Sigma.fst).nodup map.nodupKeys

theorem lookup_of_truncate {map : AList fun _ : K => V} {key : K} {value : V}
    (found : (truncate map capacity).lookup key = some value) : map.lookup key = some value := by
  apply AList.mem_lookup_iff.mpr
  exact List.mem_of_mem_take (AList.mem_lookup_iff.mp found)

namespace Cache

def empty : Cache K V capacity := ⟨∅, Nat.zero_le capacity⟩

def lookup (cache : Cache K V capacity) (key : K) : Option V := cache.recent.lookup key

def put (cache : Cache K V capacity) (key : K) (value : V) : Cache K V capacity where
  recent := truncate (cache.recent.insert key value) capacity
  bounded := List.length_take_le capacity _

def get (cache : Cache K V capacity) (key : K) : Option V × Cache K V capacity :=
  match cache.lookup key with
  | some value => (some value, cache.put key value)
  | none => (none, cache)

variable {cache : Cache K V capacity} {key other : K} {value found : V}

theorem lookup_put (kept : (cache.put key value).lookup other = some found) :
    other = key ∧ found = value ∨ cache.lookup other = some found := by
  exact (Maps.of_lookup_insert (lookup_of_truncate kept)).imp_right And.right

end Cache

end Actr.Library.Lru
