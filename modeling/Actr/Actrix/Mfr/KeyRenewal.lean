import Actr.Actrix.Mfr.Model
import Actr.Library.Machine

/-!
# Renewing the key of a manufacturer

`renew_key`, `resolve_key_by_id` and the revocation of a historical key for one active manufacturer, one step for each
statement.
-/

namespace Actr.Actrix.Mfr

inductive RenewalPhase where
  | read
  | archived
  | ended
  deriving DecidableEq, Repr

structure Renewal where
  mfr : Manufacturer
  newPublicKey : String
  phase : RenewalPhase
  deriving DecidableEq, Repr

-- `known` are the keys that had been returned when the resolution began.
structure Resolution where
  keyId : String
  mfr : Manufacturer
  known : List (String × String)
  deriving DecidableEq, Repr

structure KeyRegistry where
  mfr : Manufacturer
  history : List MfrKeyHistory
  nextHistoryId : Nat
  renewals : List Renewal
  resolutions : List Resolution
  returned : List (String × String)
  deriving DecidableEq, Repr

def yearSecs : Int := 365 * 24 * 3600

namespace KeyRegistry

def tables (s : KeyRegistry) : MfrTables := ⟨[s.mfr], s.history, []⟩

def activate (crypto : Crypto) (mfr : Manufacturer) (publicKey : String) (now : Int) : Except MfrError KeyRegistry :=
  if mfr.status ≠ .pending then .error (.invalidStatus ("cannot activate from status: " ++ mfr.status.display))
  else
    match crypto.computeKeyIdFromB64 publicKey with
    | .error error => .error error
    | .ok keyId =>
      .ok ⟨{ mfr with
          status := .active
          publicKey
          keyId
          verifiedAt := some now
          updatedAt := some now
          keyExpiresAt := some (now + yearSecs) }, [], 1, [], [], [(keyId, publicKey)]⟩

inductive Action where
  | readRow (newPublicKey : String)
  | archive (call : Nat) (now : Int)
  | update (call : Nat) (now : Int)
  | beginResolve (keyId : String)
  | finishResolve (call : Nat)
  | revoke (historyId : Nat)
  deriving DecidableEq, Repr

def readRow (crypto : Crypto) (s : KeyRegistry) (newPublicKey : String) : Option KeyRegistry :=
  match crypto.validatePublicKey newPublicKey with
  | .error _ => none
  | .ok () =>
    if s.mfr.status ≠ .active then none
    else some { s with renewals := s.renewals ++ [⟨s.mfr, newPublicKey, .read⟩] }

def archive (s : KeyRegistry) (call : Nat) (now : Int) : Option KeyRegistry :=
  match s.renewals[call]? with
  | some ⟨mfr, newPublicKey, .read⟩ =>
    let s := { s with renewals := s.renewals.set call ⟨mfr, newPublicKey, .archived⟩ }
    if mfr.publicKey ≠ "" ∧ mfr.keyId ≠ "" then
      let createdAt := mfr.verifiedAt.getD mfr.createdAt
      some { s with
        history := s.history ++ [⟨s.nextHistoryId, mfr.id, mfr.keyId, mfr.publicKey, .retired, createdAt, now⟩]
        nextHistoryId := s.nextHistoryId + 1 }
    else some s
  | _ => none

def update (crypto : Crypto) (s : KeyRegistry) (call : Nat) (now : Int) : Option KeyRegistry :=
  match s.renewals[call]? with
  | some ⟨mfr, newPublicKey, .archived⟩ =>
    let s := { s with renewals := s.renewals.set call ⟨mfr, newPublicKey, .ended⟩ }
    match crypto.computeKeyIdFromB64 newPublicKey with
    | .error _ => some s
    | .ok newKeyId =>
      some { s with
        mfr := { s.mfr with
          publicKey := newPublicKey
          keyId := newKeyId
          keyExpiresAt := some (now + yearSecs)
          updatedAt := some now }
        returned := s.returned ++ [(newKeyId, newPublicKey)] }
  | _ => none

def answer (s : KeyRegistry) (call : Resolution) : Except MfrError MfrPublicInfo :=
  if call.mfr.keyId = call.keyId then s.tables.resolveByName call.mfr.name
  else s.tables.resolveHistorical call.mfr call.keyId

def revoke (s : KeyRegistry) (historyId : Nat) : KeyRegistry :=
  { s with history := s.history.map fun row => if row.id = historyId then { row with status := .revoked } else row }

def step (crypto : Crypto) (s : KeyRegistry) : Action → Option KeyRegistry
  | .readRow newPublicKey => s.readRow crypto newPublicKey
  | .archive call now => s.archive call now
  | .update call now => s.update crypto call now
  | .beginResolve keyId => some { s with resolutions := s.resolutions ++ [⟨keyId, s.mfr, s.returned⟩] }
  | .finishResolve call => if call < s.resolutions.length then some s else none
  | .revoke historyId => some (s.revoke historyId)

end KeyRegistry

end Actr.Actrix.Mfr
