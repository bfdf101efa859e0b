import Actr.Library.Slots
import Actr.Proof.Transport.LaneFrames

/-! # Reassembly -/

namespace Actr.Proof.Transport
open Hyper.Transport WebRtcDataLane

variable {message : Message} {fragment : Fragment}

structure Arrival where
  fragment : Fragment
  evictAt : Nat
  createdAt : Nat

def Arrival.delivery (arrival : Arrival) : Delivery :=
  ⟨encodeFrame arrival.fragment, arrival.evictAt, arrival.createdAt⟩

/-- Fragments of messages with distinct ids, each once and in time. -/
structure Traffic (messages : List Message) (arrivals : List Arrival) : Prop where
  distinct : (messages.map Message.msgId).Nodup
  sized : ∀ message ∈ messages, message.data.length ≤ messageLimit
  sent : (arrivals.map Arrival.fragment).Subperm (messages.flatMap fragmentsOf)
  timely : arrivals.Pairwise fun earlier later => earlier.evictAt ≤ later.evictAt ∧
    (earlier.fragment.msgId = later.fragment.msgId → later.evictAt ≤ earlier.createdAt + reassemblyTtl)

def Message.result (message : Message) : Except NetworkError (List UInt8) := .ok message.data

def Complete (arrivals : List Arrival) (message : Message) : Prop :=
  ∀ fragment ∈ fragmentsOf message, fragment ∈ arrivals.map Arrival.fragment
  deriving Decidable

def received (arrivals : List Arrival) (msgId : UInt32) : List Fragment :=
  (arrivals.map Arrival.fragment).filter fun fragment => fragment.msgId == msgId

def toEntry (fragment : Fragment) : Sigma fun _ : UInt16 => List UInt8 :=
  ⟨fragment.fragIndex, fragment.payload⟩

theorem mem_fragmentsOf :
    fragment ∈ fragmentsOf message ↔ ∃ k < fragmentCount message, fragmentAt message k = fragment := by
  simp [fragmentsOf]

theorem msgId_of_mem (member : fragment ∈ fragmentsOf message) : fragment.msgId = message.msgId := by
  obtain ⟨k, -, rfl⟩ := mem_fragmentsOf.mp member
  rfl

section

variable (sized : message.data.length ≤ messageLimit)
include sized

theorem fragment_eq_of_index {a b : Fragment} (first : a ∈ fragmentsOf message) (second : b ∈ fragmentsOf message)
    (index : a.fragIndex = b.fragIndex) : a = b := by
  obtain ⟨k, below, rfl⟩ := mem_fragmentsOf.mp first
  obtain ⟨l, below', rfl⟩ := mem_fragmentsOf.mp second
  have count := fragmentCount_le sized
  have equal : k = l := by
    rw [← toNat_ofNat_of_le (k := k) (by omega), ← toNat_ofNat_of_le (k := l) (by omega)]
    exact congrArg UInt16.toNat index
  rw [equal]

theorem fragmentsOf_pairwise : (fragmentsOf message).Pairwise fun a b => a.fragIndex < b.fragIndex := by
  have count := fragmentCount_le sized
  rw [fragmentsOf, List.pairwise_map]
  apply List.Pairwise.imp_of_mem _ List.pairwise_lt_range
  intro k l first second less
  rw [List.mem_range] at first second
  rw [fragmentAt, fragmentAt, UInt16.lt_iff_toNat_lt, toNat_ofNat_of_le (by omega),
    toNat_ofNat_of_le (by omega)]
  exact less

theorem fragmentsOf_nodup : (fragmentsOf message).Nodup := by
  apply (fragmentsOf_pairwise sized).imp
  rintro a b less rfl
  exact absurd less (UInt16.lt_irrefl _)

end

theorem fragmentsOf_length (message : Message) : (fragmentsOf message).length = fragmentCount message := by
  simp [fragmentsOf]

theorem pairwise_sortedEntries (entries : List (Sigma fun _ : UInt16 => List UInt8)) :
    (entries.insertionSort fun a b => a.1 ≤ b.1).Pairwise fun a b => a.1 ≤ b.1 := by
  let le (a b : Sigma fun _ : UInt16 => List UInt8) : Prop := a.1 ≤ b.1
  exact List.pairwise_insertionSort le entries

theorem assemble_fragments {fragments : FragmentMap} (sized : message.data.length ≤ messageLimit)
    (all : fragments.entries.Perm ((fragmentsOf message).map toEntry)) :
    ReassemblyBuffer.assemble fragments = message.data := by
  -- Fragments in the order of their indices, whatever order they were stored in.
  have sorted : ((fragmentsOf message).map toEntry).Pairwise fun a b => a.1 ≤ b.1 := by
    rw [List.pairwise_map]
    exact (fragmentsOf_pairwise sized).imp fun less => UInt16.le_of_lt less
  have order : fragments.entries.insertionSort (fun a b => a.1 ≤ b.1) = (fragmentsOf message).map toEntry := by
    apply List.Perm.eq_of_pairwise _ (pairwise_sortedEntries _) sorted ((List.perm_insertionSort _ _).trans all)
    intro a b first second le ge
    rw [List.mem_insertionSort, all.mem_iff] at first
    obtain ⟨f, listed, rfl⟩ := List.mem_map.mp first
    obtain ⟨g, listed', rfl⟩ := List.mem_map.mp second
    rw [fragment_eq_of_index sized listed listed' (UInt16.le_antisymm le ge)]
  rw [ReassemblyBuffer.assemble, order, List.map_map]
  exact flatten_fragments message

section Traffic

variable {messages : List Message} {arrivals done todo : List Arrival} {arrival : Arrival} {message : Message}

theorem Traffic.initial (traffic : Traffic messages (done ++ todo)) : Traffic messages done where
  distinct := traffic.distinct
  sized := traffic.sized
  sent := by
    have part : (done.map Arrival.fragment).Sublist ((done ++ todo).map Arrival.fragment) := by simp
    exact part.subperm.trans traffic.sent
  timely := (List.pairwise_append.mp traffic.timely).1

theorem Traffic.nodup (traffic : Traffic messages arrivals) : (arrivals.map Arrival.fragment).Nodup := by
  have all : (messages.flatMap fragmentsOf).Nodup := by
    rw [List.nodup_flatMap]
    refine ⟨fun message member => fragmentsOf_nodup (traffic.sized message member), ?_⟩
    apply (List.pairwise_map.mp traffic.distinct).imp
    intro first second different fragment member member'
    exact different ((msgId_of_mem member).symm.trans (msgId_of_mem member'))
  obtain ⟨part, perm, sublist⟩ := traffic.sent
  exact perm.nodup_iff.mp (all.sublist sublist)

theorem Traffic.source (traffic : Traffic messages arrivals) (member : arrival ∈ arrivals) :
    ∃ message ∈ messages, arrival.fragment ∈ fragmentsOf message := by
  have listed := traffic.sent.subset (List.mem_map_of_mem member)
  exact List.mem_flatMap.mp listed

theorem Traffic.fragment_mem (traffic : Traffic messages arrivals) (member : message ∈ messages)
    (arrived : arrival ∈ arrivals) (id : arrival.fragment.msgId = message.msgId) :
    arrival.fragment ∈ fragmentsOf message := by
  obtain ⟨source, listed, fragment⟩ := traffic.source arrived
  have same : source = message :=
    List.inj_on_of_nodup_map traffic.distinct listed member ((msgId_of_mem fragment).symm.trans id)
  exact same ▸ fragment

theorem mem_received {msgId : UInt32} :
    fragment ∈ received arrivals msgId ↔ ∃ arrival ∈ arrivals, arrival.fragment = fragment ∧ fragment.msgId = msgId := by
  simp only [received, List.mem_filter, List.mem_map, beq_iff_eq]
  tauto

section

variable (traffic : Traffic messages arrivals) (member : message ∈ messages)
include traffic member

theorem Traffic.received_subperm : (received arrivals message.msgId).Subperm (fragmentsOf message) := by
  apply List.subperm_of_subset (traffic.nodup.filter _)
  intro fragment listed
  obtain ⟨arrival, arrived, rfl, id⟩ := mem_received.mp listed
  exact traffic.fragment_mem member arrived id

theorem Traffic.complete_iff :
    Complete arrivals message ↔ (received arrivals message.msgId).length = fragmentCount message := by
  have part := traffic.received_subperm member
  constructor
  · intro complete
    have whole : (fragmentsOf message).Subperm (received arrivals message.msgId) := by
      apply List.subperm_of_subset (fragmentsOf_nodup (traffic.sized message member))
      intro fragment listed
      obtain ⟨arrival, arrived, equal⟩ := List.mem_map.mp (complete fragment listed)
      exact mem_received.mpr ⟨arrival, arrived, equal, msgId_of_mem listed⟩
    rw [← fragmentsOf_length]
    exact (part.antisymm whole).length_eq
  · intro length fragment listed
    have perm := part.perm_of_length_le (by rw [fragmentsOf_length, length])
    obtain ⟨arrival, arrived, equal, -⟩ := mem_received.mp (perm.mem_iff.mpr listed)
    exact List.mem_map.mpr ⟨arrival, arrived, equal⟩

theorem Traffic.received_perm (complete : Complete arrivals message) :
    (received arrivals message.msgId).Perm (fragmentsOf message) := by
  have length := (traffic.complete_iff member).mp complete
  exact (traffic.received_subperm member).perm_of_length_le (by rw [fragmentsOf_length, length])

end

theorem Traffic.fresh (traffic : Traffic messages (done ++ arrival :: todo)) :
    arrival.fragment ∉ done.map Arrival.fragment := by
  have nodup := traffic.nodup
  rw [List.map_append, List.map_cons] at nodup
  exact fun member => List.disjoint_of_nodup_append nodup member List.mem_cons_self

theorem Traffic.complete_todo (traffic : Traffic messages (done ++ todo)) (member : message ∈ messages)
    (complete : Complete done message) : ∀ later ∈ todo, later.fragment.msgId ≠ message.msgId := by
  intro later arrived id
  have nodup := traffic.nodup
  rw [List.map_append] at nodup
  have fragment := traffic.fragment_mem member (List.mem_append_right done arrived) id
  exact List.disjoint_of_nodup_append nodup (complete _ fragment) (List.mem_map_of_mem arrived)

theorem received_snoc (msgId : UInt32) : received (done ++ [arrival]) msgId =
      received done msgId ++ if arrival.fragment.msgId = msgId then [arrival.fragment] else [] := by
  by_cases same : arrival.fragment.msgId = msgId <;> simp [received, same]

end Traffic

structure Collects (messages : List Message) (done : List Arrival) (msgId : UInt32) (entry : FragmentEntry) :
    Prop where
  total : ∀ message ∈ messages, message.msgId = msgId → entry.total.toNat = fragmentCount message
  fragments : entry.fragments.entries.Perm ((received done msgId).map toEntry)
  created : ∃ arrival ∈ done, arrival.fragment.msgId = msgId ∧ arrival.createdAt = entry.createdAt

structure Buffered (messages : List Message) (done todo : List Arrival) (buffer : ReassemblyBuffer) : Prop where
  pending : ∀ msgId entry, buffer.pending msgId = some entry → Collects messages done msgId entry
  absent : ∀ msgId, buffer.pending msgId = none →
    (∀ arrival ∈ done, arrival.fragment.msgId ≠ msgId) ∨ ∀ arrival ∈ todo, arrival.fragment.msgId ≠ msgId

section Buffer

variable {messages : List Message} {done todo : List Arrival} {arrival : Arrival} {buffer : ReassemblyBuffer}
  {message : Message}

theorem buffered_new (messages : List Message) (todo : List Arrival) :
    Buffered messages [] todo ReassemblyBuffer.new where
  pending := by
    intro msgId entry found
    cases found
  absent := by
    intro msgId _
    exact .inl (by simp)

theorem buffered_evictStale (traffic : Traffic messages (done ++ arrival :: todo))
    (inv : Buffered messages done (arrival :: todo) buffer) :
    Buffered messages done (arrival :: todo) (buffer.evictStale arrival.evictAt) where
  pending := by
  -- An entry is evicted only when no fragment of its message is still to come.
    intro msgId entry found
    obtain ⟨found, -⟩ := Option.filter_eq_some_iff.mp found
    exact inv.pending msgId entry found
  absent := by
    intro msgId found
    cases before : buffer.pending msgId with
    | none => exact inv.absent msgId before
    | some entry =>
      right
      intro later member id
      obtain ⟨first, arrived, sameId, created⟩ := (inv.pending msgId entry before).created
      have stale : reassemblyTtl + entry.createdAt < arrival.evictAt := by
        simpa [ReassemblyBuffer.evictStale, before] using found
      obtain ⟨-, order, across⟩ := List.pairwise_append.mp traffic.timely
      have prompt := (across first arrived later member).2 (sameId.trans id.symm)
      have clock : arrival.evictAt ≤ later.evictAt := by
        rcases List.mem_cons.mp member with rfl | member
        · exact le_rfl
        · exact ((List.pairwise_cons.mp order).1 later member).1
      omega

theorem totalFrags_eq (sized : message.data.length ≤ messageLimit)
    (member : fragment ∈ fragmentsOf message) : fragment.totalFrags.toNat = fragmentCount message := by
  obtain ⟨k, -, rfl⟩ := mem_fragmentsOf.mp member
  exact toNat_ofNat_of_le (fragmentCount_le sized)

def entryFor (buffer : ReassemblyBuffer) (arrival : Arrival) : FragmentEntry :=
  (buffer.pending arrival.fragment.msgId).getD ⟨arrival.fragment.totalFrags, arrival.createdAt, ∅⟩

def addFragment (entry : FragmentEntry) (fragment : Fragment) : FragmentEntry :=
  { entry with fragments := entry.fragments.insert fragment.fragIndex fragment.payload }

theorem entryFor_fragments (inv : Buffered messages done (arrival :: todo) buffer) :
    (entryFor buffer arrival).fragments.entries.Perm
      ((received done arrival.fragment.msgId).map toEntry) := by
  cases found : buffer.pending arrival.fragment.msgId with
  | some => simpa [entryFor, found] using (inv.pending _ _ found).fragments
  | none =>
    rcases inv.absent _ found with none | none
    · have empty : received done arrival.fragment.msgId = [] := by
        rw [List.eq_nil_iff_forall_not_mem]
        intro fragment member
        obtain ⟨earlier, arrived, rfl, id⟩ := mem_received.mp member
        exact none earlier arrived id
      simp [entryFor, found, empty]
    · exact absurd rfl (none arrival List.mem_cons_self)

theorem collects_addFragment (traffic : Traffic messages (done ++ arrival :: todo))
    (inv : Buffered messages done (arrival :: todo) buffer) :
    Collects messages (done ++ [arrival]) arrival.fragment.msgId
      (addFragment (entryFor buffer arrival) arrival.fragment) := by
  obtain ⟨message, member, listed⟩ := traffic.source (List.mem_append_right done List.mem_cons_self)
  have sized := traffic.sized message member
  have stored := entryFor_fragments inv
  refine ⟨?_, ?_, ?_⟩
  · intro other otherMember id
    have listed' := traffic.fragment_mem otherMember
      (List.mem_append_right done (List.mem_cons_self (l := todo))) id.symm
    cases found : buffer.pending arrival.fragment.msgId with
    | some => simpa [addFragment, entryFor, found] using (inv.pending _ _ found).total other otherMember id
    | none => simpa [addFragment, entryFor, found] using totalFrags_eq (traffic.sized _ otherMember) listed'
  · have new : arrival.fragment.fragIndex ∉ (entryFor buffer arrival).fragments := by
      intro present
      have index := (stored.map Sigma.fst).mem_iff.mp present
      simp only [List.map_map, List.mem_map, Function.comp_apply, toEntry] at index
      obtain ⟨earlier, arrived, same⟩ := index
      obtain ⟨first, before, rfl, id⟩ := mem_received.mp arrived
      have listed' := traffic.fragment_mem member (List.mem_append_left _ before) (id.trans (msgId_of_mem listed))
      have equal := fragment_eq_of_index sized listed' listed same
      exact traffic.fresh (equal ▸ List.mem_map_of_mem before)
    rw [addFragment, AList.entries_insert_of_notMem new, received_snoc, if_pos rfl, List.map_append]
    exact (List.Perm.cons _ stored).trans (List.perm_append_singleton _ _).symm
  · cases found : buffer.pending arrival.fragment.msgId with
    | some =>
      obtain ⟨first, arrived, rest⟩ := (inv.pending _ _ found).created
      exact ⟨first, List.mem_append_left _ arrived, by simpa [addFragment, entryFor, found] using rest⟩
    | none => exact ⟨arrival, by simp, rfl, by simp [addFragment, entryFor, found]⟩

theorem collects_other {msgId : UInt32} {entry : FragmentEntry} (other : arrival.fragment.msgId ≠ msgId)
    (collects : Collects messages done msgId entry) : Collects messages (done ++ [arrival]) msgId entry := by
  refine ⟨collects.total, ?_, ?_⟩
  · rw [received_snoc, if_neg other, List.append_nil]
    exact collects.fragments
  · obtain ⟨first, arrived, rest⟩ := collects.created
    exact ⟨first, List.mem_append_left _ arrived, rest⟩

theorem absent_other {msgId : UInt32} (other : arrival.fragment.msgId ≠ msgId)
    (absent : (∀ earlier ∈ done, earlier.fragment.msgId ≠ msgId) ∨
      ∀ later ∈ arrival :: todo, later.fragment.msgId ≠ msgId) :
    (∀ earlier ∈ done ++ [arrival], earlier.fragment.msgId ≠ msgId) ∨
      ∀ later ∈ todo, later.fragment.msgId ≠ msgId := by
  rcases absent with none | none
  · left
    intro earlier member
    rcases Library.Slots.mem_snoc member with member | rfl
    · exact none earlier member
    · exact other
  · exact .inr fun later member => none later (List.mem_cons_of_mem _ member)

theorem buffered_update (inv : Buffered messages done (arrival :: todo) buffer) (entry : Option FragmentEntry)
    (kept : ∀ stored, entry = some stored → Collects messages (done ++ [arrival]) arrival.fragment.msgId stored)
    (dropped : entry = none → ∀ later ∈ todo, later.fragment.msgId ≠ arrival.fragment.msgId) :
    Buffered messages (done ++ [arrival]) todo ⟨Function.update buffer.pending arrival.fragment.msgId entry⟩ where
  pending := by
    intro msgId stored found
    by_cases same : msgId = arrival.fragment.msgId
    · subst same
      exact kept stored (by simpa using found)
    · simp only [ne_eq, same, not_false_eq_true, Function.update_of_ne] at found
      exact collects_other (Ne.symm same) (inv.pending msgId stored found)
  absent := by
    intro msgId found
    by_cases same : msgId = arrival.fragment.msgId
    · subst same
      exact .inr (dropped (by simpa using found))
    · simp only [ne_eq, same, not_false_eq_true, Function.update_of_ne] at found
      exact absent_other (Ne.symm same) (inv.absent msgId found)

theorem not_complete_before (traffic : Traffic messages (done ++ arrival :: todo))
    (listed : arrival.fragment ∈ fragmentsOf message) : ¬Complete done message :=
  fun complete => traffic.fresh (complete _ listed)

theorem complete_other (listed : arrival.fragment ∈ fragmentsOf message) {other : Message}
    (different : other.msgId ≠ message.msgId) : Complete (done ++ [arrival]) other ↔ Complete done other := by
  constructor
  · intro complete fragment member
    have arrived := complete fragment member
    rw [List.map_append, List.mem_append] at arrived
    rcases arrived with arrived | arrived
    · exact arrived
    · simp only [List.map_cons, List.map_nil, List.mem_singleton] at arrived
      subst arrived
      exact absurd ((msgId_of_mem member).symm.trans (msgId_of_mem listed)) different
  · intro complete fragment member
    rw [List.map_append]
    exact List.mem_append_left _ (complete fragment member)

theorem filter_complete_snoc (traffic : Traffic messages (done ++ arrival :: todo))
    (member : message ∈ messages) (listed : arrival.fragment ∈ fragmentsOf message) :
    (messages.filter fun m => Complete (done ++ [arrival]) m).Perm ((messages.filter fun m => Complete done m) ++
        if Complete (done ++ [arrival]) message then [message] else []) := by
  have nodup : messages.Nodup := List.Nodup.of_map _ traffic.distinct
  have before := not_complete_before traffic listed
  have others (other : Message) (otherMember : other ∈ messages) (different : other ≠ message) :
      Complete (done ++ [arrival]) other ↔ Complete done other := by
    apply complete_other listed
    intro id
    exact different (List.inj_on_of_nodup_map traffic.distinct otherMember member id)
  rw [List.perm_ext_iff_of_nodup (nodup.filter _)]
  · intro other
    by_cases same : other = message
    · subst same
      by_cases complete : Complete (done ++ [arrival]) other <;> simp [complete, before, member]
    · have unchanged := others other
      by_cases complete : Complete (done ++ [arrival]) message <;>
        simp [complete, same] <;> tauto
  · split
    · exact Library.Slots.nodup_snoc (nodup.filter _) (by simp [before])
    · simpa using nodup.filter _

theorem recvRound_delivery (buffer : ReassemblyBuffer) (arrival : Arrival) : recvRound buffer arrival.delivery =
      if arrival.fragment.totalFrags = 1 then (buffer, some (.ok arrival.fragment.payload)) else
        let stored := addFragment (entryFor (buffer.evictStale arrival.evictAt) arrival) arrival.fragment
        let pending := (buffer.evictStale arrival.evictAt).pending
        if stored.fragments.keys.length = stored.total.toNat then
          (⟨Function.update pending arrival.fragment.msgId none⟩,
            some (.ok (ReassemblyBuffer.assemble stored.fragments)))
        else (⟨Function.update pending arrival.fragment.msgId (some stored)⟩, none) := by
  have inserted : buffer.insert arrival.evictAt arrival.createdAt arrival.fragment =
      let stored := addFragment (entryFor (buffer.evictStale arrival.evictAt) arrival) arrival.fragment
      let pending := (buffer.evictStale arrival.evictAt).pending
      if stored.fragments.keys.length = stored.total.toNat then
        (⟨Function.update pending arrival.fragment.msgId none⟩,
          some (ReassemblyBuffer.assemble stored.fragments))
      else (⟨Function.update pending arrival.fragment.msgId (some stored)⟩, none) := rfl
  simp only [recvRound, Arrival.delivery, decode_encodeFrame, inserted]
  generalize addFragment (entryFor (buffer.evictStale arrival.evictAt) arrival) arrival.fragment = stored
  by_cases full : stored.fragments.keys.length = stored.total.toNat <;> simp [full]

theorem fragmentsOf_single (sized : message.data.length ≤ messageLimit)
    (listed : fragment ∈ fragmentsOf message) (single : fragment.totalFrags = 1) :
    fragmentsOf message = [fragment] := by
  have count := totalFrags_eq sized listed
  rw [single, ← fragmentsOf_length] at count
  obtain ⟨only, whole⟩ := List.length_eq_one_iff.mp count.symm
  rw [whole, List.mem_singleton] at listed
  rw [whole, listed]

section

variable (traffic : Traffic messages (done ++ arrival :: todo))
  (inv : Buffered messages done (arrival :: todo) buffer) (member : message ∈ messages)
include traffic inv member

theorem buffered_single (only : fragmentsOf message = [arrival.fragment])
    (finished : ∀ later ∈ todo, later.fragment.msgId ≠ arrival.fragment.msgId) :
    Buffered messages (done ++ [arrival]) todo buffer := by
  have id : arrival.fragment.msgId = message.msgId := by
    apply msgId_of_mem
    rw [only]
    exact List.mem_singleton_self _
  have kept : buffer = ⟨Function.update buffer.pending arrival.fragment.msgId
      (buffer.pending arrival.fragment.msgId)⟩ := by rw [Function.update_eq_self]
  rw [kept]
  apply buffered_update inv
  · -- An entry of a message of one fragment would have been made by that fragment.
    intro stored found
    obtain ⟨first, arrived, sameId, -⟩ := (inv.pending _ _ found).created
    have listed := traffic.fragment_mem member (List.mem_append_left _ arrived) (sameId.trans id)
    rw [only, List.mem_singleton] at listed
    exact absurd (listed ▸ List.mem_map_of_mem arrived) traffic.fresh
  · exact fun _ => finished

theorem recvRound_arrival (listed : arrival.fragment ∈ fragmentsOf message) :
    Buffered messages (done ++ [arrival]) todo (recvRound buffer arrival.delivery).1 ∧
      (recvRound buffer arrival.delivery).2 =
        if Complete (done ++ [arrival]) message then some message.result else none := by
  have sized := traffic.sized message member
  have id := msgId_of_mem listed
  have along : Traffic messages (done ++ [arrival] ++ todo) := by simpa using traffic
  have finished (complete : Complete (done ++ [arrival]) message) :
      ∀ later ∈ todo, later.fragment.msgId ≠ arrival.fragment.msgId :=
    fun later arrived => id ▸ along.complete_todo member complete later arrived
  rw [recvRound_delivery]
  split
  · rename_i single
    have only := fragmentsOf_single sized listed single
    have complete : Complete (done ++ [arrival]) message := by
      intro fragment part
      rw [only, List.mem_singleton] at part
      simp [part]
    have data := flatten_fragments message
    simp only [only, List.map_cons, List.map_nil, List.flatten_cons, List.flatten_nil, List.append_nil] at data
    rw [if_pos complete, Message.result, data]
    exact ⟨buffered_single traffic inv member only (finished complete), rfl⟩
  · have evicted := buffered_evictStale traffic inv
    have collects := collects_addFragment traffic evicted
    simp only
    generalize addFragment (entryFor (buffer.evictStale arrival.evictAt) arrival) arrival.fragment = stored
      at collects ⊢
    have total := collects.total message member id.symm
    have count : stored.fragments.keys.length = (received (done ++ [arrival]) message.msgId).length := by
      have length := collects.fragments.length_eq
      rw [List.length_map, id] at length
      rw [← length, AList.keys, List.keys, List.length_map]
    rw [total, count]
    by_cases complete : Complete (done ++ [arrival]) message
    · have length := (along.initial.complete_iff member).mp complete
      rw [if_pos length, if_pos complete]
      have whole := assemble_fragments sized
        (collects.fragments.trans (id ▸ (along.initial.received_perm member complete).map toEntry))
      refine ⟨buffered_update evicted none (by simp) (fun _ => finished complete), ?_⟩
      rw [whole]
      rfl
    · have length := mt (along.initial.complete_iff member).mpr complete
      rw [if_neg length, if_neg complete]
      exact ⟨buffered_update evicted (some stored) (by simpa using collects) (by simp), rfl⟩

end

def recvAll (buffer : ReassemblyBuffer) : List Delivery → List (Except NetworkError (List UInt8))
  | [] => []
  | delivery :: rest =>
    let (buffer, result) := recvRound buffer delivery
    result.toList ++ recvAll buffer rest

theorem recvAll_arrivals (traffic : Traffic messages (done ++ todo)) (inv : Buffered messages done todo buffer) :
    ((messages.filter fun m => Complete done m).map Message.result ++
        recvAll buffer (todo.map Arrival.delivery)).Perm
      ((messages.filter fun m => Complete (done ++ todo) m).map Message.result) := by
  -- On the frames to come; what has been returned so far is carried by the messages complete in `done`.
  induction todo generalizing done buffer with
  | nil => simp [recvAll]
  | cons arrival todo ih =>
    obtain ⟨message, member, listed⟩ := traffic.source (List.mem_append_right done List.mem_cons_self)
    obtain ⟨buffered, returned⟩ := recvRound_arrival traffic inv member listed
    have along : Traffic messages (done ++ [arrival] ++ todo) := by simpa using traffic
    have rest := ih along buffered
    rw [List.append_assoc, List.singleton_append] at rest
    refine List.Perm.trans ?_ rest
    rw [List.map_cons, recvAll, ← List.append_assoc]
    apply List.Perm.append_right
    have complete := (filter_complete_snoc traffic member listed).map Message.result
    refine List.Perm.trans ?_ complete.symm
    simp only [returned]
    split <;> simp

end Buffer

end Actr.Proof.Transport
