import Actr.Library.Machine

/-!
# The nonce store

The table `nonce_entries` and the operations of `SqliteNonceStorage`.
-/

namespace Actr.Actrix.Platform

structure DbNonceEntry where
  id : Nat
  nonce : String
  context : Option String
  expiresAt : Int64
  createdAt : Int64
  deriving DecidableEq

structure NonceEntry where
  nonce : String
  context : Option String
  createdAt : Int64
  deriving DecidableEq

inductive NonceError where
  | duplicateNonce
  deriving DecidableEq, Repr

structure NonceTable where
  rows : List DbNonceEntry
  nextId : Nat

namespace NonceTable

def empty : NonceTable := ⟨[], 1⟩

-- The inherent method `get`, which does not look at the expiry.
def find (table : NonceTable) (nonce : String) (context : Option String) : Option DbNonceEntry :=
  table.rows.find? fun row => row.nonce = nonce ∧ row.context = context

-- The method `get` of the trait.
def get (table : NonceTable) (nonce : String) (context : Option String) (now : Int64) : Option NonceEntry :=
  match table.find nonce context with
  | some entry => if entry.expiresAt ≤ now then none else some ⟨entry.nonce, entry.context, entry.createdAt⟩
  | none => none

def violatesUnique (table : NonceTable) (nonce : String) (context : Option String) : Bool :=
  match context with
  | some context => table.rows.any fun row => row.nonce = nonce ∧ row.context = some context
  | none => false

def set (table : NonceTable) (nonce : String) (context : Option String) (ttlSecs : UInt64) (now : Int64) :
    Except NonceError Unit × NonceTable :=
  let expiresAt := now + ttlSecs.toInt64
  if table.violatesUnique nonce context then (.error .duplicateNonce, table)
  else (.ok (), ⟨table.rows ++ [⟨table.nextId, nonce, context, expiresAt, now⟩], table.nextId + 1⟩)

-- The `self.get` of the source is the inherent method.
def exist (table : NonceTable) (nonce : String) (context : Option String) : Bool := (table.find nonce context).isSome

def cleanupExpired (table : NonceTable) (currentTime : Int64) : NonceTable :=
  { table with rows := table.rows.filter fun row => ¬ row.expiresAt < currentTime }

end NonceTable

structure Granted where
  nonce : String
  context : Option String
  expiresAt : Int64
  deriving DecidableEq

structure NonceStore where
  table : NonceTable
  clock : Int64
  granted : List Granted

namespace NonceStore

def init (clock : Int64) : NonceStore := ⟨.empty, clock, []⟩

inductive Action where
  | pass (time : Int64)
  | set (nonce : String) (context : Option String) (ttlSecs : UInt64) (now : Int64)
  | get (nonce : String) (context : Option String)
  | exist (nonce : String) (context : Option String)
  | cleanupExpired (currentTime : Int64)
  deriving DecidableEq

def step (s : NonceStore) : Action → Option NonceStore
  | .pass time => if s.clock ≤ time then some { s with clock := time } else none
  | .set nonce context ttlSecs now =>
    if now ≤ s.clock then
      match s.table.set nonce context ttlSecs now with
      | (.ok (), table) =>
        some { s with table, granted := s.granted ++ [⟨nonce, context, now + ttlSecs.toInt64⟩] }
      | (.error _, table) => some { s with table }
    else none
  | .get _ _ => some s
  | .exist _ _ => some s
  | .cleanupExpired currentTime =>
    if currentTime ≤ s.clock then some { s with table := s.table.cleanupExpired currentTime } else none

end NonceStore

end Actr.Actrix.Platform
