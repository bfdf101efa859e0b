import Actr.Actrix.Ais.SigningKeys

/-!
# Refreshes of the signing key

The key of AIS in its cache and in the row `current_key`, and the calls that write them: `ensure_key_loaded` at the
start of the process and on demand, the background task and `rotate_key`.
-/

namespace Actr.Actrix.Ais

def keyRefreshAdvanceSecs : Nat := 600

def shouldRefresh (currentKey : Option KeyRecord) (now : UInt64) : Bool :=
  match currentKey with
  | none => true
  | some key => key.expiresAt.toNat - keyRefreshAdvanceSecs ≤ now.toNat

inductive Caller where
  | ensureKeyLoaded
  | background
  | rotateKey
  deriving DecidableEq

-- `ensure_key_loaded` up to `loading`, then `refresh_key_internal`; in `reading` `rotate_key` reads the cache.
inductive RefreshPhase where
  | checking
  | fetching
  | comparing (record : KeyRecord)
  | loading (record : KeyRecord)
  | generating
  | caching (record : KeyRecord)
  | saving (record : KeyRecord)
  | reading
  | returned (result : Except String (Option Nat))
  deriving DecidableEq

-- `generated` and `cached` are ghosts: the key that the call has generated, and that it has written the cache.
structure Refresh where
  caller : Caller
  phase : RefreshPhase
  generated : Option KeyRecord
  cached : Bool
  deriving DecidableEq

def Refresh.isReturned (refresh : Refresh) : Bool :=
  match refresh.phase with
  | .returned _ => true
  | _ => false

structure Issuer where
  keyCache : Option KeyRecord
  currentKey : Option KeyRecord
  refreshes : List Refresh
  deriving DecidableEq

namespace Issuer

inductive Event where
  | looked
  | fetched
  | compared (now : UInt64)
  | loaded
  | generated (record : KeyRecord)
  | invalidKey (error : String)
  | cached
  | saved
  | read
  | failed (error : String)

inductive Action where
  | tick (now : UInt64) (periodic : Bool)
  | rotateKey
  | ensureKeyLoaded
  | refresh (index : Nat) (event : Event)
  | restart

-- `new` loads the key before anything else.
def initial (currentKey : Option KeyRecord) : Issuer := ⟨none, currentKey, [⟨.ensureKeyLoaded, .checking, none, false⟩]⟩

def started (s : Issuer) : Bool := s.refreshes[0]?.all Refresh.isReturned

def start (s : Issuer) (caller : Caller) (phase : RefreshPhase) : Issuer :=
  { s with refreshes := s.refreshes ++ [⟨caller, phase, none, false⟩] }

def readKeyId (s : Issuer) : Except String (Option Nat) :=
  match s.keyCache with
  | some key => .ok (some key.keyId)
  | none => .error "No key available after rotation"

def failure (error : String) : RefreshPhase → Option String
  | .fetching => some ("Failed to get key from storage: " ++ error)
  | .comparing _ | .loading _ => some error
  | .generating => some ("KS unavailable: " ++ error)
  | .saving _ => some ("Failed to save key: " ++ error)
  | _ => none

def resume (s : Issuer) (refresh : Refresh) (event : Event) : Option (Issuer × Refresh) :=
  match refresh.phase, event with
  | .checking, .looked =>
    some (s, { refresh with phase := if s.keyCache.isSome then .returned (.ok none) else .fetching })
  | .fetching, .fetched =>
    some (s, { refresh with phase := match s.currentKey with
      | some record => .comparing record
      | none => .generating })
  | .comparing record, .compared now =>
    -- the row is read again
    let expired := s.currentKey.all fun key => Authority.isExpiredBeyondTolerance key now
    some (s, { refresh with phase := if expired then .generating else .loading record })
  | .loading record, .loaded => some ({ s with keyCache := some record }, { refresh with phase := .returned (.ok none) })
  | .generating, .generated record =>
    some (s, { refresh with phase := .caching record, generated := some record })
  | .generating, .invalidKey error =>
    some (s, { refresh with phase := .returned (.error ("Invalid verifying key from KS: " ++ error)) })
  | .caching record, .cached =>
    some ({ s with keyCache := some record }, { refresh with phase := .saving record, cached := true })
  | .saving record, .saved =>
    some ({ s with currentKey := some record },
      { refresh with phase := if refresh.caller = .rotateKey then .reading else .returned (.ok none) })
  | .reading, .read => some (s, { refresh with phase := .returned s.readKeyId })
  | phase, .failed error =>
    (failure error phase).map fun text => (s, { refresh with phase := .returned (.error text) })
  | _, _ => none

-- The background task awaits its refresh before it checks again; `periodic` is the answer of `should_periodic_rotate`.
def step (s : Issuer) : Action → Option Issuer
  | .tick now periodic =>
    if s.started ∧ s.refreshes.all fun refresh => refresh.caller ≠ .background || refresh.isReturned then
      some (if shouldRefresh s.currentKey now || periodic then s.start .background .generating else s)
    else none
  | .rotateKey => if s.started then some (s.start .rotateKey .generating) else none
  | .ensureKeyLoaded => if s.started then some (s.start .ensureKeyLoaded .checking) else none
  | .refresh index event =>
    s.refreshes[index]?.bind fun refresh =>
      (s.resume refresh event).map fun (t, after) => { t with refreshes := s.refreshes.set index after }
  | .restart => some (initial s.currentKey)

end Issuer

end Actr.Actrix.Ais
