import Actr.Library.Slots
import Actr.Library.Checks
import Actr.Mailbox.Sqlite
import Mathlib.Data.List.Perm.Lattice

/-! # The mailbox is a queue with two levels -/

namespace Actr.Proof.Mailbox
open Actr.Mailbox MailboxRun Library Machine

variable {a b message : MessageRecord} {returning : List MessageRow}

section Sorting

variable {α : Type*} {inOrder : α → α → Bool} {list sorted : List α}

theorem mergeSort_eq_of_strict (trans : ∀ a b c, inOrder a b = true → inOrder b c = true → inOrder a c = true)
    (total : ∀ a b, (inOrder a b || inOrder b a) = true) (perm : list.Perm sorted)
    (strict : sorted.Pairwise fun a b => inOrder b a = false) : list.mergeSort inOrder = sorted := by
  have apart : sorted.Pairwise fun a b => inOrder a b = false ∨ inOrder b a = false :=
    strict.imp fun later => .inr later
  have weak : sorted.Pairwise fun a b => inOrder a b = true := by
    refine strict.imp ?_
    intro a b later
    have either := total a b
    rw [later, Bool.or_false] at either
    exact either
  have same : (list.mergeSort inOrder).Perm sorted := (List.mergeSort_perm list inOrder).trans perm
  refine same.eq_of_pairwise ?_ (List.pairwise_mergeSort trans total list) weak
  intro a b here there forth back
  by_contra different
  have symmetric : Std.Symm fun a b => inOrder a b = false ∨ inOrder b a = false := ⟨fun _ _ => Or.symm⟩
  rcases apart.forall (same.mem_iff.mp here) there different with no | no
  · rw [forth] at no
    cases no
  · rw [back] at no
    cases no

end Sorting

theorem rowInOrder_trans (a b c : MessageRow) (first : a.inOrder b = true) (second : b.inOrder c = true) :
    a.inOrder c = true := by
  simp only [MessageRow.inOrder, decide_eq_true_eq] at *
  rcases first with higher | ⟨same, ordered⟩
  · rcases second with higher' | ⟨same', -⟩
    · exact .inl (by omega)
    · exact .inl (by omega)
  · rcases second with higher' | ⟨same', ordered'⟩
    · exact .inl (by omega)
    · refine .inr ⟨by omega, ?_⟩
      exact String.not_lt.mpr (String.le_trans (String.not_lt.mp ordered) (String.not_lt.mp ordered'))

theorem rowInOrder_total (a b : MessageRow) : (a.inOrder b || b.inOrder a) = true := by
  simp only [MessageRow.inOrder, Bool.or_eq_true, decide_eq_true_eq]
  rcases Int.lt_trichotomy a.priority b.priority with lower | same | higher
  · exact .inr (.inl lower)
  · by_cases later : b.createdAt < a.createdAt
    · exact .inr (.inr ⟨same, String.lt_asymm later⟩)
    · exact .inl (.inr ⟨same.symm, later⟩)
  · exact .inl (.inl higher)

theorem recordInOrder_trans (a b c : MessageRecord) (first : a.inOrder b = true) (second : b.inOrder c = true) :
    a.inOrder c = true := by
  simp only [MessageRecord.inOrder, decide_eq_true_eq] at *
  omega

theorem recordInOrder_total (a b : MessageRecord) : (a.inOrder b || b.inOrder a) = true := by
  simp only [MessageRecord.inOrder, Bool.or_eq_true, decide_eq_true_eq]
  omega

def returned (s : MailboxRun) : List Uuid := s.batches.flatten.map MessageRecord.id

def waiting (s : MailboxRun) : List MessageRecord :=
  s.enqueued.filter fun message => message.id ∉ returned s ∧ message.id ∉ s.acknowledged

def handedOut (s : MailboxRun) : List MessageRecord :=
  s.enqueued.filter fun message => message.id ∈ returned s ∧ message.id ∉ s.acknowledged

def ofPriority (priority : MessagePriority) (messages : List MessageRecord) : List MessageRecord :=
  messages.filter fun message => message.priority = priority

def twoLevel (messages : List MessageRecord) : List MessageRecord :=
  ofPriority .high messages ++ ofPriority .normal messages

def answered (message : MessageRecord) : MessageRecord := { message with status := .inflight }

def toRow (message : MessageRecord) (status : Int) : MessageRow :=
  ⟨message.id, message.sender, message.payload, message.priority.toInt, status, message.createdAt.toRfc3339⟩

def rowOf (s : MailboxRun) (message : MessageRecord) : MessageRow :=
  toRow message (if message.id ∈ returned s then 1 else 0)

structure Holds (s : MailboxRun) : Prop where
  rows : s.mailbox.rows = (s.enqueued.filter fun message => message.id ∉ s.acknowledged).map (rowOf s)
  queued : ∀ message ∈ s.enqueued, message.status = .queued
  distinct : (s.enqueued.map MessageRecord.id).Nodup
  increasing : s.enqueued.Pairwise fun a b => a.createdAt.rank < b.createdAt.rank
  once : (returned s).Nodup
  known : ∀ id ∈ returned s, ∃ message ∈ s.enqueued, message.id = id
  acknowledged : ∀ id ∈ s.acknowledged, ∃ message ∈ s.enqueued, message.id = id

theorem holds_new : Holds new where
  rows := rfl
  queued := nofun
  distinct := List.nodup_nil
  increasing := .nil
  once := List.nodup_nil
  known := nofun
  acknowledged := nofun

variable {s t : MailboxRun}

theorem toRecord_toRow (message : MessageRecord) : (toRow message 1).toRecord = .ok (answered message) := by
  unfold MessageRow.toRecord toRow
  rw [Rfc3339.parse_toRfc3339]
  cases message with
  | mk id sender payload priority =>
    cases priority <;> rfl

def Before (a b : MessageRecord) : Prop :=
  b.priority.toInt < a.priority.toInt ∨ b.priority = a.priority ∧ a.createdAt.rank < b.createdAt.rank

theorem twoLevel_before {messages : List MessageRecord}
    (increasing : messages.Pairwise fun a b => a.createdAt.rank < b.createdAt.rank) :
    (twoLevel messages).Pairwise Before := by
  have level (priority : MessagePriority) : (ofPriority priority messages).Pairwise Before := by
    refine List.Pairwise.imp_of_mem ?_ (increasing.sublist List.filter_sublist)
    intro a b first second earlier
    have sameFirst := of_decide_eq_true (List.mem_filter.mp first).2
    have sameSecond := of_decide_eq_true (List.mem_filter.mp second).2
    exact .inr ⟨sameSecond.trans sameFirst.symm, earlier⟩
  refine List.pairwise_append.mpr ⟨level .high, level .normal, ?_⟩
  intro a first b second
  left
  rw [of_decide_eq_true (List.mem_filter.mp first).2, of_decide_eq_true (List.mem_filter.mp second).2]
  decide

theorem perm_twoLevel (messages : List MessageRecord) : messages.Perm (twoLevel messages) := by
  have rest : ofPriority .normal messages = messages.filter fun message => !decide (message.priority = .high) := by
    apply List.filter_congr
    intro message _
    cases message.priority <;> rfl
  unfold twoLevel
  rw [rest]
  exact (List.filter_append_perm _ messages).symm

theorem row_after (status : Int) (before : Before a b) : (toRow b status).inOrder (toRow a status) = false := by
  apply decide_eq_false
  change ¬ (a.priority.toInt < b.priority.toInt ∨ a.priority.toInt = b.priority.toInt ∧
    ¬ a.createdAt.toRfc3339 < b.createdAt.toRfc3339)
  rcases before with higher | ⟨same, earlier⟩
  · omega
  · rw [same]
    simp [Rfc3339.toRfc3339_lt earlier]

theorem record_after (before : Before a b) : (answered b).inOrder (answered a) = false := by
  apply decide_eq_false
  change ¬ (a.priority.toInt < b.priority.toInt ∨ a.priority.toInt = b.priority.toInt ∧
    b.createdAt.rank ≤ a.createdAt.rank)
  rcases before with higher | ⟨same, earlier⟩
  · omega
  · rw [same]
    omega

theorem waiting_before (holds : Holds s) : (twoLevel (waiting s)).Pairwise Before :=
  twoLevel_before (holds.increasing.sublist List.filter_sublist)

theorem rows_of_status {status : Int} {kept : MessageRecord → Bool} (holds : Holds s)
    (agree : ∀ message, kept message = true ↔ (rowOf s message).status = status ∧ message.id ∉ s.acknowledged) :
    (s.mailbox.rows.filter fun row => row.status = status) =
      (s.enqueued.filter kept).map fun message => toRow message status := by
  rw [holds.rows, List.filter_map, List.filter_filter]
  have same : (s.enqueued.filter fun message =>
      ((fun row => decide (row.status = status)) ∘ rowOf s) message && decide (message.id ∉ s.acknowledged)) =
      s.enqueued.filter kept := by
    apply List.filter_congr
    intro message _
    rw [Bool.eq_iff_iff, agree]
    simp
  rw [same]
  apply List.map_congr_left
  intro message member
  have status := ((agree message).mp (List.mem_filter.mp member).2).1
  rw [← status]
  rfl

theorem queued_rows (holds : Holds s) :
    (s.mailbox.rows.filter fun row => row.status = 0) = (waiting s).map fun message => toRow message 0 := by
  apply rows_of_status holds
  intro message
  by_cases out : message.id ∈ returned s <;> simp [rowOf, toRow, out]

theorem inflight_rows (holds : Holds s) :
    (s.mailbox.rows.filter fun row => row.status = 1) = (handedOut s).map fun message => toRow message 1 := by
  apply rows_of_status holds
  intro message
  by_cases out : message.id ∈ returned s <;> simp [rowOf, toRow, out]

def batch (s : MailboxRun) : List MessageRecord := (twoLevel (waiting s)).take defaultBatchSize

theorem selected_eq (holds : Holds s) : s.mailbox.selected = (batch s).map MessageRecord.id := by
  have sorted : ((waiting s).map fun message => toRow message 0).mergeSort MessageRow.inOrder =
      (twoLevel (waiting s)).map fun message => toRow message 0 := by
    apply mergeSort_eq_of_strict rowInOrder_trans rowInOrder_total
    · exact (perm_twoLevel _).map _
    · rw [List.pairwise_map]
      exact (waiting_before holds).imp (row_after 0)
  unfold SqliteMailbox.selected batch
  rw [queued_rows holds, sorted, ← List.map_take, List.map_map]
  rfl

theorem same_of_id (holds : Holds s) (first : a ∈ s.enqueued) (second : b ∈ s.enqueued) (same : a.id = b.id) :
    a = b :=
  List.inj_on_of_nodup_map holds.distinct first second same

theorem mem_waiting_of_batch (member : message ∈ batch s) : message ∈ waiting s :=
  (perm_twoLevel _).mem_iff.mpr (List.mem_of_mem_take member)

theorem batch_distinct (holds : Holds s) : ((batch s).map MessageRecord.id).Nodup := by
  have waiting : ((waiting s).map MessageRecord.id).Nodup :=
    holds.distinct.sublist (List.filter_sublist.map MessageRecord.id)
  have ordered : ((twoLevel (Mailbox.waiting s)).map MessageRecord.id).Nodup :=
    ((perm_twoLevel _).map MessageRecord.id).nodup_iff.mp waiting
  exact ordered.sublist ((List.take_sublist _ _).map MessageRecord.id)

theorem updated_perm (holds : Holds s) : s.mailbox.updated.Perm ((batch s).map fun message => toRow message 1) := by
  have chosen : ((s.enqueued.filter fun message => message.id ∉ s.acknowledged).filter
      fun message => message.id ∈ s.mailbox.selected).Perm (batch s) := by
    rw [List.perm_ext_iff_of_nodup]
    · intro message
      simp only [List.mem_filter, decide_eq_true_eq, selected_eq holds, List.mem_map]
      constructor
      · rintro ⟨⟨listed, -⟩, other, member, same⟩
        have enqueued := (List.mem_filter.mp (mem_waiting_of_batch member)).1
        rw [← same_of_id holds enqueued listed same]
        exact member
      · intro member
        obtain ⟨enqueued, free⟩ := List.mem_filter.mp (mem_waiting_of_batch member)
        exact ⟨⟨enqueued, (of_decide_eq_true free).2⟩, message, member, rfl⟩
    · exact ((holds.distinct.of_map _).filter _).filter _
    · exact (batch_distinct holds).of_map _
  unfold SqliteMailbox.updated
  rw [holds.rows, List.filter_map, List.map_map]
  exact chosen.map _

theorem mapM_toRecord (messages : List MessageRecord) :
    (messages.map fun message => toRow message 1).mapM MessageRow.toRecord = .ok (messages.map answered) := by
  induction messages with
  | nil => rfl
  | cons message rest ih =>
    rw [List.map_cons, List.mapM_cons, toRecord_toRow, ih]
    rfl

theorem mapM_perm {α β ε : Type} {read : α → Except ε β} {list list' : List α} {out' : List β}
    (perm : list.Perm list')
    (success : list'.mapM read = .ok out') : ∃ out, list.mapM read = .ok out ∧ out.Perm out' := by
  induction perm generalizing out' with
  | nil => exact ⟨out', success, .refl _⟩
  | cons a _ ih =>
    simp only [List.mapM_cons, Checks.bind_eq_ok, Checks.pure_eq_ok] at success ⊢
    obtain ⟨b, first, rest', others, rfl⟩ := success
    obtain ⟨rest, read, same⟩ := ih others
    exact ⟨b :: rest, ⟨b, first, rest, read, rfl⟩, same.cons b⟩
  | swap a b rest =>
    simp only [List.mapM_cons, Checks.bind_eq_ok, Checks.pure_eq_ok] at success ⊢
    obtain ⟨a', first, _, ⟨b', second, rest', others, rfl⟩, rfl⟩ := success
    exact ⟨_, ⟨b', second, _, ⟨a', first, rest', others, rfl⟩, rfl⟩, .swap _ _ _⟩
  | trans _ _ first second =>
    obtain ⟨middle, read, same⟩ := second success
    obtain ⟨out, read', same'⟩ := first read
    exact ⟨out, read', same'.trans same⟩

theorem dequeue_answer (holds : Holds s) (order : returning.Perm s.mailbox.updated) :
    (s.mailbox.dequeue returning).1 = .ok ((batch s).map answered) := by
  obtain ⟨messages, read, same⟩ := mapM_perm (order.trans (updated_perm holds)) (mapM_toRecord (batch s))
  have ordered : (batch s).Pairwise Before := (waiting_before holds).sublist (List.take_sublist _ _)
  have sorted : messages.mergeSort MessageRecord.inOrder = (batch s).map answered := by
    apply mergeSort_eq_of_strict recordInOrder_trans recordInOrder_total same
    rw [List.pairwise_map]
    exact ordered.imp record_after
  unfold SqliteMailbox.dequeue
  rw [read]
  simp only [Except.map, sorted]

def taking (s : MailboxRun) : MailboxRun :=
  { s with
    mailbox := { s.mailbox with
      rows := s.mailbox.rows.map fun row => if row.id ∈ s.mailbox.selected then { row with status := 1 } else row }
    batches := s.batches ++ [(batch s).map answered] }

theorem dequeue_cases (holds : Holds s) (taken : s.step (.dequeue returning) = some t) : t = taking s := by
  simp only [step] at taken
  split at taken
  · next order =>
    have answer := dequeue_answer holds order
    cases called : s.mailbox.dequeue returning with
    | mk result mailbox =>
      have after : (s.mailbox.dequeue returning).2 = mailbox := by rw [called]
      rw [called] at answer taken
      cases answer
      cases taken
      rw [← after]
      rfl
  · cases taken

theorem returned_taking : returned (taking s) = returned s ++ (batch s).map MessageRecord.id := by
  simp only [returned, taking, List.flatten_append, List.flatten_singleton, List.map_append, List.map_map]
  rfl

theorem rowOf_answered (holds : Holds s) :
    (if (rowOf s message).id ∈ s.mailbox.selected then { rowOf s message with status := 1 } else rowOf s message) =
      rowOf (taking s) message := by
  unfold rowOf toRow
  rw [selected_eq holds, returned_taking]
  by_cases chosen : message.id ∈ (batch s).map MessageRecord.id
  · simp only [List.mem_append, chosen, or_true, if_true]
  · simp only [List.mem_append, chosen, or_false, if_false]

theorem holds_taking (holds : Holds s) : Holds (taking s) := by
  refine { holds with rows := ?rows, once := ?once, known := ?known }
  case rows =>
    change s.mailbox.rows.map _ = _
    rw [holds.rows, List.map_map]
    exact List.map_congr_left fun message _ => rowOf_answered holds
  case once =>
    rw [returned_taking, List.nodup_append]
    refine ⟨holds.once, batch_distinct holds, ?_⟩
    intro id old other new same
    obtain ⟨message, member, rfl⟩ := List.mem_map.mp new
    have free := of_decide_eq_true (List.mem_filter.mp (mem_waiting_of_batch member)).2
    exact free.1 (same ▸ old)
  case known =>
    intro id member
    rw [returned_taking] at member
    rcases List.mem_append.mp member with old | new
    · exact holds.known id old
    · obtain ⟨message, chosen, rfl⟩ := List.mem_map.mp new
      exact ⟨message, (List.mem_filter.mp (mem_waiting_of_batch chosen)).1, rfl⟩

section Enqueue

variable {id : Uuid} {sender payload : List UInt8} {priority : MessagePriority} {now : Rfc3339.DateTime}

def adding (s : MailboxRun) (message : MessageRecord) : MailboxRun :=
  { s with
    mailbox := { s.mailbox with rows := s.mailbox.rows ++ [toRow message 0] }
    enqueued := s.enqueued ++ [message] }

theorem enqueue_cases (holds : Holds s) (fresh : ∀ message ∈ s.enqueued, message.id ≠ id)
    (taken : s.step (.enqueue id sender payload priority now) = some t) :
    t = adding s ⟨id, sender, payload, priority, now, .queued⟩ := by
  have free : ¬ s.mailbox.rows.any (fun row => row.id = id) = true := by
    rw [holds.rows]
    simp only [List.any_map, List.any_eq_true, not_exists, not_and]
    intro message member same
    exact fresh message (List.mem_filter.mp member).1 (of_decide_eq_true same)
  simp only [step, SqliteMailbox.enqueue, if_neg free] at taken
  cases taken
  rfl

theorem holds_adding (holds : Holds s) (queued : message.status = .queued)
    (fresh : ∀ other ∈ s.enqueued, other.id ≠ message.id)
    (later : ∀ other ∈ s.enqueued, other.createdAt.rank < message.createdAt.rank) : Holds (adding s message) := by
  have unknown {ids : List Uuid} (known : ∀ id ∈ ids, ∃ other ∈ s.enqueued, other.id = id) : message.id ∉ ids := by
    intro member
    obtain ⟨other, listed, same⟩ := known message.id member
    exact fresh other listed same
  have more {ids : List Uuid} (known : ∀ id ∈ ids, ∃ other ∈ s.enqueued, other.id = id) :
      ∀ id ∈ ids, ∃ other ∈ s.enqueued ++ [message], other.id = id := by
    intro id member
    obtain ⟨other, listed, same⟩ := known id member
    exact ⟨other, List.mem_append_left _ listed, same⟩
  refine { holds with
    rows := ?rows, queued := ?queued, distinct := ?distinct, increasing := ?increasing
    known := more holds.known, acknowledged := more holds.acknowledged }
  case rows =>
    have own : [message].filter (fun other => other.id ∉ s.acknowledged) = [message] := by
      simp [unknown holds.acknowledged]
    have added : rowOf s message = toRow message 0 := by rw [rowOf, if_neg (unknown holds.known)]
    change _ = ((s.enqueued ++ [message]).filter fun other => other.id ∉ s.acknowledged).map (rowOf s)
    rw [List.filter_append, own, List.map_append, ← holds.rows, List.map_singleton, added]
    rfl
  case queued =>
    intro other member
    rcases Slots.mem_snoc member with old | rfl
    · exact holds.queued other old
    · exact queued
  case distinct =>
    change ((s.enqueued ++ [message]).map MessageRecord.id).Nodup
    rw [List.map_append]
    refine Slots.nodup_snoc holds.distinct ?_
    intro listed
    obtain ⟨other, member, same⟩ := List.mem_map.mp listed
    exact fresh other member same
  case increasing =>
    refine List.pairwise_append.mpr ⟨holds.increasing, List.pairwise_singleton _ _, ?_⟩
    intro other member new own
    cases List.mem_singleton.mp own
    exact later other member

end Enqueue

theorem ack_rows {messageId : Uuid} (holds : Holds s) : (s.mailbox.ack messageId).rows =
      (s.enqueued.filter fun message => message.id ∉ s.acknowledged ++ [messageId]).map (rowOf s) := by
  unfold SqliteMailbox.ack
  simp only [holds.rows, List.filter_map, List.filter_filter]
  congr 1
  apply List.filter_congr
  intro message _
  by_cases own : message.id = messageId <;> simp [own, rowOf, toRow]

theorem holds_ack {messageId : Uuid} (holds : Holds s) (taken : s.step (.ack messageId) = some t) : Holds t := by
  simp only [step] at taken
  split at taken
  · next found =>
    cases taken
    refine { holds with rows := ack_rows holds, acknowledged := ?_ }
    intro id member
    rcases Slots.mem_snoc member with old | rfl
    · exact holds.acknowledged id old
    · obtain ⟨message, listed, same⟩ := List.any_eq_true.mp found
      exact ⟨message, listed, of_decide_eq_true same⟩
  · next missing =>
    cases taken
    refine { holds with rows := ?_ }
    rw [ack_rows holds]
    congr 1
    apply List.filter_congr
    intro message listed
    have other : message.id ≠ messageId := by
      intro same
      exact missing (List.any_eq_true.mpr ⟨message, listed, decide_eq_true same⟩)
    simp [other]

theorem count_queued (holds : Holds s) : s.mailbox.countStatus 0 = (waiting s).length := by
  rw [SqliteMailbox.countStatus, List.countP_eq_length_filter, queued_rows holds, List.length_map]

theorem count_inflight (holds : Holds s) : s.mailbox.countStatus 1 = (handedOut s).length := by
  rw [SqliteMailbox.countStatus, List.countP_eq_length_filter, inflight_rows holds, List.length_map]

theorem ofInt_toInt (priority : MessagePriority) : MessagePriority.ofInt priority.toInt = priority := by
  cases priority <;> rfl

theorem toInt_inj {first second : MessagePriority} : first.toInt = second.toInt ↔ first = second := by
  cases first <;> cases second <;> decide

theorem lookup_foldl_insert {values : List Int} {count : Int → Nat} {counts : AList fun _ : MessagePriority => Nat}
    {priority : MessagePriority} (known : ∀ value ∈ values, ∃ level : MessagePriority, value = level.toInt) :
    ((values.map fun value => (value, count value)).foldl
        (fun counts group => counts.insert (.ofInt group.1) group.2) counts).lookup priority =
      if priority.toInt ∈ values then some (count priority.toInt) else counts.lookup priority := by
  induction values generalizing counts with
  | nil => rfl
  | cons value rest ih =>
    rw [List.forall_mem_cons] at known
    obtain ⟨⟨level, rfl⟩, known⟩ := known
    rw [List.map_cons, List.foldl_cons, ih known]
    by_cases own : priority = level
    · subst own
      simp [ofInt_toInt]
    · simp [ofInt_toInt, AList.lookup_insert_ne own, toInt_inj, own]

theorem groups_eq (holds : Holds s) :
    s.mailbox.groups = ((waiting s).map fun message => message.priority.toInt).dedup.map fun value =>
      (value, (waiting s).countP fun message => message.priority.toInt = value) := by
  unfold SqliteMailbox.groups
  simp only [queued_rows holds, List.map_map, List.countP_map]
  rfl

theorem lookup_queuedByPriority (holds : Holds s) (priority : MessagePriority) :
    s.mailbox.status.queuedByPriority.lookup priority =
      if ofPriority priority (waiting s) = [] then none else some (ofPriority priority (waiting s)).length := by
  have count : ((waiting s).countP fun message => message.priority.toInt = priority.toInt) =
      (ofPriority priority (waiting s)).length := by
    rw [List.countP_eq_length_filter]
    simp only [toInt_inj]
    rfl
  have listed : priority.toInt ∈ ((waiting s).map fun message => message.priority.toInt).dedup ↔
      ¬ ofPriority priority (waiting s) = [] := by
    simp [ofPriority, toInt_inj]
  unfold SqliteMailbox.status
  simp only [groups_eq holds]
  rw [lookup_foldl_insert, count]
  · simp only [listed, ite_not]
    rfl
  · intro value member
    obtain ⟨message, -, rfl⟩ := List.mem_map.mp (List.mem_dedup.mp member)
    exact ⟨message.priority, rfl⟩

def HasRow (s : MailboxRun) (message : MessageRecord) (status : Int) : Prop :=
  ∃ row ∈ s.mailbox.rows, row.id = message.id ∧ row.status = status

/-- The calls of a run are those of a queue with two levels. -/
structure TwoLevelQueue (s : MailboxRun) (call : Call) (t : MailboxRun) : Prop where
  accepted : ∀ id sender payload priority now, call = .enqueue id sender payload priority now →
    t.enqueued = s.enqueued ++ [⟨id, sender, payload, priority, now, .queued⟩]
  partition : ∀ message ∈ t.enqueued,
    HasRow t message 0 ∧ ¬ HasRow t message 1 ∧ message.id ∉ t.acknowledged ∨
      ¬ HasRow t message 0 ∧ HasRow t message 1 ∧ message.id ∉ t.acknowledged ∨
      ¬ HasRow t message 0 ∧ ¬ HasRow t message 1 ∧ message.id ∈ t.acknowledged
  queued : ∀ message ∈ t.enqueued, HasRow t message 0 ↔ message ∈ waiting t
  inflight : ∀ message ∈ t.enqueued, HasRow t message 1 ↔ message ∈ handedOut t
  once : (returned t).Nodup
  dequeued : ∀ returning, call = .dequeue returning →
    t.batches = s.batches ++ [((twoLevel (waiting s)).take 32).map answered]
  unacknowledged : ∀ returning, call = .dequeue returning → ∀ answer, t.batches = s.batches ++ [answer] →
    ∀ message ∈ answer, message.id ∉ s.acknowledged
  queuedMessages : t.mailbox.status.queuedMessages = (waiting t).length
  inflightMessages : t.mailbox.status.inflightMessages = (handedOut t).length
  queuedByPriority : ∀ priority, t.mailbox.status.queuedByPriority.lookup priority =
    if ofPriority priority (waiting t) = [] then none else some (ofPriority priority (waiting t)).length

section

variable (holds : Holds s) (member : message ∈ s.enqueued)
include holds member

theorem hasRow_iff {status : Int} :
    HasRow s message status ↔ message.id ∉ s.acknowledged ∧ (rowOf s message).status = status := by
  unfold HasRow
  rw [holds.rows]
  constructor
  · rintro ⟨row, stored, own, same⟩
    obtain ⟨other, kept, rfl⟩ := List.mem_map.mp stored
    obtain ⟨known, unacknowledged⟩ := List.mem_filter.mp kept
    cases same_of_id holds known member own
    exact ⟨of_decide_eq_true unacknowledged, same⟩
  · rintro ⟨unacknowledged, same⟩
    refine ⟨rowOf s message, List.mem_map_of_mem (List.mem_filter.mpr ⟨member, ?_⟩), rfl, same⟩
    exact decide_eq_true unacknowledged

theorem hasRow_queued : HasRow s message 0 ↔ message ∈ waiting s := by
  rw [hasRow_iff holds member]
  by_cases out : message.id ∈ returned s <;> simp [rowOf, toRow, waiting, out, member]

theorem hasRow_inflight : HasRow s message 1 ↔ message ∈ handedOut s := by
  rw [hasRow_iff holds member]
  by_cases out : message.id ∈ returned s <;> simp [rowOf, toRow, handedOut, out, member]

theorem one_of_three :
    HasRow s message 0 ∧ ¬ HasRow s message 1 ∧ message.id ∉ s.acknowledged ∨
      ¬ HasRow s message 0 ∧ HasRow s message 1 ∧ message.id ∉ s.acknowledged ∨
      ¬ HasRow s message 0 ∧ ¬ HasRow s message 1 ∧ message.id ∈ s.acknowledged := by
  rw [hasRow_queued holds member, hasRow_inflight holds member]
  by_cases out : message.id ∈ returned s <;> by_cases done : message.id ∈ s.acknowledged <;>
    simp [waiting, handedOut, member, out, done]

end

def newId : Call → Option Uuid
  | .enqueue id _ _ _ _ => some id
  | _ => none

def clock : Call → Option Rfc3339.DateTime
  | .enqueue _ _ _ _ now => some now
  | _ => none

structure Scheduled (s : MailboxRun) (calls : List Call) : Prop where
  distinct : (s.enqueued.map MessageRecord.id ++ calls.filterMap newId).Nodup
  increasing : (s.enqueued.map MessageRecord.createdAt ++ calls.filterMap clock).Pairwise fun a b => a.rank < b.rank

section Scheduled

variable {id : Uuid} {sender payload : List UInt8} {priority : MessagePriority} {now : Rfc3339.DateTime}
variable {rest : List Call}

section

variable (scheduled : Scheduled s (.enqueue id sender payload priority now :: rest))
include scheduled

theorem Scheduled.fresh : ∀ message ∈ s.enqueued, message.id ≠ id := by
  intro message member
  exact (List.nodup_append.mp scheduled.distinct).2.2 _ (List.mem_map_of_mem member) _ List.mem_cons_self

theorem Scheduled.later : ∀ message ∈ s.enqueued, message.createdAt.rank < now.rank := by
  intro message member
  exact (List.pairwise_append.mp scheduled.increasing).2.2 _ (List.mem_map_of_mem member) _ List.mem_cons_self

theorem Scheduled.enqueued : Scheduled (adding s ⟨id, sender, payload, priority, now, .queued⟩) rest := by
  constructor
  case distinct =>
    change ((s.enqueued ++ [_]).map MessageRecord.id ++ _).Nodup
    rw [List.map_append, List.append_assoc]
    exact scheduled.distinct
  case increasing =>
    change ((s.enqueued ++ [_]).map MessageRecord.createdAt ++ _).Pairwise _
    rw [List.map_append, List.append_assoc]
    exact scheduled.increasing

end

end Scheduled

section

variable {call : Call} {rest : List Call} (holds : Holds s) (scheduled : Scheduled s (call :: rest))
  (taken : s.step call = some t)
include holds scheduled taken

theorem holds_step : Holds t ∧ Scheduled t rest := by
  cases call with
  | enqueue =>
    rw [enqueue_cases holds scheduled.fresh taken]
    exact ⟨holds_adding holds rfl scheduled.fresh scheduled.later, scheduled.enqueued⟩
  | dequeue =>
    rw [dequeue_cases holds taken]
    exact ⟨holds_taking holds, ⟨scheduled.distinct, scheduled.increasing⟩⟩
  | ack =>
    have same : t.enqueued = s.enqueued := by
      simp only [step] at taken
      split at taken <;> cases taken <;> rfl
    exact ⟨holds_ack holds taken, ⟨same ▸ scheduled.distinct, same ▸ scheduled.increasing⟩⟩
  | status =>
    cases taken
    exact ⟨holds, ⟨scheduled.distinct, scheduled.increasing⟩⟩
  | setDepthObserver =>
    cases taken
    exact ⟨{ holds with }, ⟨scheduled.distinct, scheduled.increasing⟩⟩

theorem twoLevelQueue_step : TwoLevelQueue s call t := by
  have next := (holds_step holds scheduled taken).1
  constructor
  case accepted =>
    rintro id sender payload priority now rfl
    rw [enqueue_cases holds scheduled.fresh taken]
    rfl
  case partition => exact fun message member => one_of_three next member
  case queued => exact fun message member => hasRow_queued next member
  case inflight => exact fun message member => hasRow_inflight next member
  case once => exact next.once
  case dequeued =>
    rintro returning rfl
    rw [dequeue_cases holds taken]
    rfl
  case unacknowledged =>
    rintro returning rfl answer appended message member
    rw [dequeue_cases holds taken] at appended
    cases List.append_cancel_left appended
    obtain ⟨original, chosen, rfl⟩ := List.mem_map.mp member
    exact (of_decide_eq_true (List.mem_filter.mp (mem_waiting_of_batch chosen)).2).2
  case queuedMessages => exact count_queued next
  case inflightMessages => exact count_inflight next
  case queuedByPriority => exact lookup_queuedByPriority next

end

theorem along_twoLevelQueue {calls : List Call} (holds : Holds s) (scheduled : Scheduled s calls) :
    Along step TwoLevelQueue s calls := by
  induction calls generalizing s with
  | nil => trivial
  | cons call rest ih =>
    intro t taken
    obtain ⟨next, left⟩ := holds_step holds scheduled taken
    exact ⟨twoLevelQueue_step holds scheduled taken, ih next left⟩

theorem mailbox_is_twoLevelQueue (calls : List Call) (distinct : (calls.filterMap newId).Nodup)
    (increasing : (calls.filterMap clock).Pairwise fun a b => a.rank < b.rank) : Along step TwoLevelQueue new calls :=
  along_twoLevelQueue holds_new ⟨distinct, increasing⟩

theorem mailbox_is_twoLevelQueue_of_two : Along step TwoLevelQueue new
      [.enqueue 1 [] [] .normal ⟨2026, 0, 59, 0, by decide, by decide, by decide, by decide⟩,
        .enqueue 2 [] [] .high ⟨2026, 0, 59, 500000000, by decide, by decide, by decide, by decide⟩,
        .dequeue [⟨1, [], [], 0, 1, "2026-01-01T00:00:59+00:00"⟩, ⟨2, [], [], 1, 1, "2026-01-01T00:00:59.500+00:00"⟩],
        .ack 2, .status] :=
  mailbox_is_twoLevelQueue _ (by decide) (by decide)

end Actr.Proof.Mailbox
