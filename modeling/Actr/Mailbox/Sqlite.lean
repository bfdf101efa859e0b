import Actr.Library.Machine
import Actr.Library.Rfc3339
import Mathlib.Data.List.AList
import Mathlib.Data.List.Dedup

/-!
# The durable mailbox

The table `messages` and the operations of `SqliteMailbox`, each of which runs under the mutex of the connection.
-/

namespace Actr.Mailbox
open Library

abbrev Uuid := BitVec 128

instance : LawfulBEq Uuid := inferInstanceAs (LawfulBEq (BitVec 128))

inductive MessagePriority where
  | normal
  | high
  deriving DecidableEq, Repr

def MessagePriority.toInt : MessagePriority → Int
  | .normal => 0
  | .high => 1

def MessagePriority.ofInt (value : Int) : MessagePriority := if value = 1 then .high else .normal

inductive MessageStatus where
  | queued
  | inflight
  deriving DecidableEq, Repr

def MessageStatus.ofInt (value : Int) : MessageStatus := if value = 1 then .inflight else .queued

structure MessageRecord where
  id : Uuid
  sender : List UInt8
  payload : List UInt8
  priority : MessagePriority
  createdAt : Rfc3339.DateTime
  status : MessageStatus
  deriving DecidableEq

structure MessageRow where
  id : Uuid
  fromActrId : List UInt8
  payload : List UInt8
  priority : Int
  status : Int
  createdAt : String
  deriving DecidableEq

inductive StorageError where
  | integrityError (message : String)
  | queryError (message : String)
  deriving DecidableEq, Repr

structure MailboxStats where
  queuedMessages : Nat
  inflightMessages : Nat
  queuedByPriority : AList fun _ : MessagePriority => Nat

structure SqliteMailbox where
  rows : List MessageRow
  depthObserver : Bool

def defaultBatchSize : Nat := 32

-- `ORDER BY priority DESC, created_at ASC`.
def MessageRow.inOrder (a b : MessageRow) : Bool :=
  b.priority < a.priority ∨ b.priority = a.priority ∧ ¬ b.createdAt < a.createdAt

-- `b.priority.cmp(&a.priority).then_with(|| a.created_at.cmp(&b.created_at))` is not `Greater`.
def MessageRecord.inOrder (a b : MessageRecord) : Bool :=
  b.priority.toInt < a.priority.toInt ∨
    b.priority.toInt = a.priority.toInt ∧ a.createdAt.rank ≤ b.createdAt.rank

def MessageRow.toRecord (row : MessageRow) : Except StorageError MessageRecord :=
  match Rfc3339.parse row.createdAt with
  | none => .error (.queryError "Conversion error from type Text at index: 4")
  | some createdAt =>
    .ok ⟨row.id, row.fromActrId, row.payload, .ofInt row.priority, createdAt, .ofInt row.status⟩

namespace SqliteMailbox

def new : SqliteMailbox := ⟨[], false⟩

def countStatus (mailbox : SqliteMailbox) (status : Int) : Nat := mailbox.rows.countP fun row => row.status = status

def enqueue (mailbox : SqliteMailbox) (id : Uuid) (sender payload : List UInt8) (priority : MessagePriority)
    (now : Rfc3339.DateTime) : Except StorageError (Uuid × Option Nat) × SqliteMailbox :=
  if mailbox.rows.any fun row => row.id = id then
    (.error (.integrityError "SQLite error: ConstraintViolation - UNIQUE constraint failed: messages.id"), mailbox)
  else
    let inserted := { mailbox with
      rows := mailbox.rows ++ [⟨id, sender, payload, priority.toInt, 0, now.toRfc3339⟩] }
    (.ok (id, if mailbox.depthObserver then some (inserted.countStatus 0) else none), inserted)

def selected (mailbox : SqliteMailbox) : List Uuid :=
  (((mailbox.rows.filter fun row => row.status = 0).mergeSort MessageRow.inOrder).take defaultBatchSize).map MessageRow.id

def updated (mailbox : SqliteMailbox) : List MessageRow :=
  (mailbox.rows.filter fun row => row.id ∈ mailbox.selected).map fun row => { row with status := 1 }

def dequeue (mailbox : SqliteMailbox) (returning : List MessageRow) :
    Except StorageError (List MessageRecord) × SqliteMailbox :=
  let answer := (returning.mapM MessageRow.toRecord).map fun messages => messages.mergeSort MessageRecord.inOrder
  (answer, { mailbox with
    rows := mailbox.rows.map fun row => if row.id ∈ mailbox.selected then { row with status := 1 } else row })

def ack (mailbox : SqliteMailbox) (messageId : Uuid) : SqliteMailbox :=
  { mailbox with rows := mailbox.rows.filter fun row => row.id ≠ messageId }

-- `SELECT priority, COUNT(*) … GROUP BY priority`.
def groups (mailbox : SqliteMailbox) : List (Int × Nat) :=
  let queued := mailbox.rows.filter fun row => row.status = 0
  (queued.map MessageRow.priority).dedup.map fun value => (value, queued.countP fun row => row.priority = value)

def status (mailbox : SqliteMailbox) : MailboxStats where
  queuedMessages := mailbox.countStatus 0
  inflightMessages := mailbox.countStatus 1
  queuedByPriority :=
    mailbox.groups.foldl (fun counts group => counts.insert (.ofInt group.1) group.2) ∅

def setDepthObserver (mailbox : SqliteMailbox) : SqliteMailbox := { mailbox with depthObserver := true }

end SqliteMailbox

-- `enqueued` holds the messages that were accepted, `batches` what the dequeues have answered, and `acknowledged` the
-- messages that were acknowledged after they had been enqueued.
structure MailboxRun where
  mailbox : SqliteMailbox
  enqueued : List MessageRecord
  batches : List (List MessageRecord)
  acknowledged : List Uuid

namespace MailboxRun

inductive Call where
  | enqueue (id : Uuid) (sender payload : List UInt8) (priority : MessagePriority) (now : Rfc3339.DateTime)
  | dequeue (returning : List MessageRow)
  | ack (messageId : Uuid)
  | status
  | setDepthObserver
  deriving DecidableEq

def new : MailboxRun := ⟨.new, [], [], []⟩

def step (s : MailboxRun) : Call → Option MailboxRun
  | .enqueue id sender payload priority now =>
    match s.mailbox.enqueue id sender payload priority now with
    | (.ok _, mailbox) =>
      some { s with mailbox, enqueued := s.enqueued ++ [⟨id, sender, payload, priority, now, .queued⟩] }
    | (.error _, mailbox) => some { s with mailbox }
  | .dequeue returning =>
    if returning.Perm s.mailbox.updated then
      match s.mailbox.dequeue returning with
      | (.ok batch, mailbox) => some { s with mailbox, batches := s.batches ++ [batch] }
      | (.error _, mailbox) => some { s with mailbox }
    else none
  | .ack messageId =>
    let s := { s with mailbox := s.mailbox.ack messageId }
    if s.enqueued.any fun message => message.id = messageId then
      some { s with acknowledged := s.acknowledged ++ [messageId] }
    else some s
  | .status => some s
  | .setDepthObserver => some { s with mailbox := s.mailbox.setDepthObserver }

end MailboxRun

end Actr.Mailbox
