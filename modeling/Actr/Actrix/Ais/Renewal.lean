import Actr.Library.Machine
import Actr.Protocol.ActrId

/-!
# Renewal tokens

The table `ais_renewal_token` and the rotation transaction on it.
-/

namespace Actr.Actrix.Ais
open Protocol

structure Crypto where
  sha256 : List UInt8 → List UInt8
  hmacSha256 : List UInt8 → List UInt8 → List UInt8

def bytesOf (text : String) : List UInt8 := text.toUTF8.data.toList

def toBeBytes (number : Int64) : List UInt8 :=
  (List.range 8).map fun byte => (number.toUInt64 >>> (8 * (7 - byte.toUInt64))).toUInt8

def Crypto.hashToken (crypto : Crypto) (token : List UInt8) : List UInt8 := crypto.sha256 token

def Crypto.deriveSuccessorToken (crypto : Crypto) (secret oldToken : List UInt8) (actorId : ActrId)
    (oldExpiresAt : Int64) : List UInt8 :=
  crypto.hmacSha256 secret
    (bytesOf "actrix/ais/renewal/v1" ++ oldToken ++ bytesOf actorId.toStringRepr ++ toBeBytes oldExpiresAt)

def successorExpiresAt (oldExpiresAt : Int64) (ttlSecs : UInt64) : Int64 := oldExpiresAt + ttlSecs.toInt64

structure RenewalTokenRow where
  id : Nat
  actorId : String
  tokenHash : List UInt8
  expiresAt : Int64
  createdAt : Int64
  deriving DecidableEq

structure RenewalStore where
  rows : List RenewalTokenRow
  nextId : Nat

namespace RenewalStore

def find (store : RenewalStore) (actorId : String) (tokenHash : List UInt8) (now : Int64) : Option RenewalTokenRow :=
  store.rows.find? fun row => row.actorId = actorId ∧ row.tokenHash = tokenHash ∧ now < row.expiresAt

-- The hash is unique over the whole table, and an insertion that would repeat one is ignored.
def insertOrIgnore (store : RenewalStore) (actorId : String) (tokenHash : List UInt8) (expiresAt now : Int64) :
    RenewalStore :=
  if store.rows.any (fun row => row.tokenHash = tokenHash) then store
  else ⟨store.rows ++ [⟨store.nextId, actorId, tokenHash, expiresAt, now⟩], store.nextId + 1⟩

def deleteExpired (store : RenewalStore) (actorId : String) (now : Int64) : RenewalStore :=
  { store with rows := store.rows.filter fun row => ¬ (row.actorId = actorId ∧ row.expiresAt ≤ now) }

def newer (first second : RenewalTokenRow) : Bool :=
  second.expiresAt < first.expiresAt ∨
    (second.expiresAt = first.expiresAt ∧ second.createdAt ≤ first.createdAt)

def trimOldest (store : RenewalStore) (actorId : String) : RenewalStore :=
  let kept := (((store.rows.filter fun row => row.actorId = actorId).mergeSort newer).take 2).map (·.id)
  { store with rows := store.rows.filter fun row => ¬ (row.actorId = actorId ∧ row.id ∉ kept) }

end RenewalStore

inductive RotationOutcome where
  | unchanged (token : List UInt8) (expiresAt : Int64)
  | rotated (token : List UInt8) (expiresAt : Int64)

inductive RenewalError where
  | tokenRejected
  | storeError (message : String)

inductive Statement where
  | begin
  | lookup
  | rollback
  | insertSuccessor
  | deleteExpired
  | trim
  | commit
  deriving DecidableEq

def Statement.failure : Statement → String
  | .begin => "begin transaction failed: "
  | .lookup => "token lookup failed: "
  | .rollback => "rollback failed: "
  | .insertSuccessor => "failed to insert successor: "
  | .deleteExpired => "failed to delete expired tokens: "
  | .trim => "failed to trim old tokens: "
  | .commit => "commit failed: "

-- `fault` names the statement that fails and what the database says.
def runStatement (fault : Option (Statement × String)) (statement : Statement) : Except RenewalError Unit :=
  match fault with
  | some (failed, message) =>
    if failed = statement then .error (.storeError (statement.failure ++ message)) else .ok ()
  | none => .ok ()

structure RenewalConfig where
  crypto : Crypto
  secret : List UInt8
  rotationWindowSecs : UInt64
  ttlSecs : UInt64

def RenewalConfig.rotate (config : RenewalConfig) (store : RenewalStore) (actorId : ActrId) (oldToken : List UInt8)
    (now : Int64) (fault : Option (Statement × String)) : Except RenewalError (RotationOutcome × RenewalStore) := do
  let oldHash := config.crypto.hashToken oldToken
  let actorIdRepr := actorId.toStringRepr
  runStatement fault .begin
  runStatement fault .lookup
  match store.find actorIdRepr oldHash now with
  | none =>
    runStatement fault .rollback
    .error .tokenRejected
  | some row =>
    let remaining := row.expiresAt - now
    if config.rotationWindowSecs.toInt64 < remaining then
      runStatement fault .commit
      return (.unchanged oldToken row.expiresAt, store)
    else
      let successor := config.crypto.deriveSuccessorToken config.secret oldToken actorId row.expiresAt
      let successorHash := config.crypto.hashToken successor
      let successorExpires := successorExpiresAt row.expiresAt config.ttlSecs
      runStatement fault .insertSuccessor
      let inserted := store.insertOrIgnore actorIdRepr successorHash successorExpires now
      runStatement fault .deleteExpired
      runStatement fault .trim
      let trimmed := (inserted.deleteExpired actorIdRepr now).trimOldest actorIdRepr
      runStatement fault .commit
      return (.rotated successor successorExpires, trimmed)

/-- The insertion of the first token at the registration of an actor, in `u64` arithmetic up to the table. -/
def RenewalConfig.register (config : RenewalConfig) (store : RenewalStore) (actorId : ActrId) (token : List UInt8)
    (seconds : UInt64) : RenewalStore :=
  store.insertOrIgnore actorId.toStringRepr (config.crypto.hashToken token) (seconds + config.ttlSecs).toInt64
    seconds.toInt64

structure RenewalRequest where
  token : List UInt8
  seconds : UInt64
  fault : Option (Statement × String)

structure RenewalState where
  store : RenewalStore
  clock : UInt64

def RenewalConfig.step (config : RenewalConfig) (actorId : ActrId) (s : RenewalState) (request : RenewalRequest) :
    Option RenewalState :=
  if s.clock ≤ request.seconds then
    match config.rotate s.store actorId request.token request.seconds.toInt64 request.fault with
    | .ok (_, store) => some ⟨store, request.seconds⟩
    | .error _ => some ⟨s.store, request.seconds⟩
  else none

end Actr.Actrix.Ais
