import Actr.Library.Slots
import Actr.Proof.Lifecycle.Admission

/-! # The dedup table and the requests it admitted -/

namespace Actr.Proof.Lifecycle
open Actr.Protocol Hyper.Lifecycle Hyper.Lifecycle.Runtime
  Actr.Library

variable {flight : Flight} {id : String} {now : Nat} {entry : Option Entry}

def EntryOf (clock : Nat) : Option Flight → Option Entry → Prop
  | none, entry => entry = none
  | some flight, entry =>
    match flight.completion with
    | none => entry = some ⟨flight.markedAt, .inFlight flight.ticket⟩
    | some (_, result) =>
      entry = some ⟨flight.markedAt, .done result⟩ ∨
        (entry = none ∧ flight.markedAt + dedupTtl ≤ clock)

structure Ledger (s : Runtime) : Prop where
  ttl : s.dedup.ttl = dedupTtl
  entries : ∀ id, EntryOf s.clock (s.lastFlight id) (s.dedup.entries id)
  channels : ∀ flight ∈ s.flights, s.dedup.channels flight.ticket =
    some ⟨flight.completion.map Prod.snd, flight.completion.isNone⟩
  tickets : s.flights.Pairwise fun newer older => newer.ticket ≠ older.ticket
  below : ∀ flight ∈ s.flights, flight.ticket < s.tasks.length
  last : ∀ flight ∈ s.flights, flight.completion = none → s.lastFlight flight.requestId = some flight
  superseded : s.flights.Pairwise fun newer older =>
    newer.requestId = older.requestId → older.completion.isSome = true
  times : ∀ flight ∈ s.flights, flight.markedAt ≤ s.clock
  ordered : s.flights.Pairwise fun newer older => older.markedAt ≤ newer.markedAt
  running : ∀ ticket task, s.tasks[ticket]? = some task → task.phase = .dispatching →
    ∃ flight ∈ s.flights, flight.ticket = ticket ∧ flight.requestId = task.envelope.requestId ∧
      flight.completion = none

theorem entryOf_mono {clock : Nat} {last : Option Flight} (later : clock ≤ now)
    (before : EntryOf clock last entry) : EntryOf now last entry := by
  cases last with
  | none => exact before
  | some flight =>
    simp only [EntryOf] at before ⊢
    cases completion : flight.completion with
    | none => simpa [completion] using before
    | some =>
      simp only [completion] at before ⊢
      rcases before with kept | ⟨gone, old⟩
      · exact .inl kept
      · exact .inr ⟨gone, old.trans later⟩

theorem entryOf_evict {clock : Nat} {last : Option Flight} (later : clock ≤ now)
    (before : EntryOf clock last entry) : EntryOf now last (entry.filter (DedupState.retained dedupTtl now)) := by
  -- Eviction keeps in-flight entries, and results younger than the time to live.
  cases last with
  | none =>
    simp only [EntryOf] at before ⊢
    simp [before]
  | some flight =>
    simp only [EntryOf] at before ⊢
    cases completion : flight.completion with
    | none =>
      simp only [completion] at before ⊢
      simp [before, DedupState.retained]
    | some =>
      simp only [completion] at before ⊢
      rcases before with kept | ⟨gone, old⟩
      · by_cases young : now - flight.markedAt < dedupTtl
        · simp [kept, DedupState.retained, young]
        · have expired : flight.markedAt + dedupTtl ≤ now := by
            unfold dedupTtl at *
            omega
          simp [kept, DedupState.retained, young, expired]
      · exact .inr ⟨by simp [gone], old.trans later⟩

theorem lastFlight_requestId {s : Runtime}
    (last : s.lastFlight id = some flight) : flight ∈ s.flights ∧ flight.requestId = id := by
  exact ⟨List.mem_of_find?_eq_some last, by simpa using List.find?_some last⟩

theorem evicted_entries {s : Runtime} (ledger : Ledger s) (later : s.clock ≤ now) (id : String) :
    EntryOf now (s.lastFlight id) ((s.dedup.evictExpired now).entries id) := by
  have evicted := entryOf_evict later (ledger.entries id)
  simpa [DedupState.evictExpired, ledger.ttl] using evicted

theorem ledger_initial : Ledger Runtime.initial := by
  constructor <;> simp [Runtime.initial, DedupState.new, lastFlight, EntryOf]

section Steps

variable {node : Node} {s : Runtime} {t : Runtime} {now ticket : Nat} {task : Admission} {cached : ActorResult Bytes}

theorem ledger_kept (ledger : Ledger s) (ttl : t.dedup.ttl = s.dedup.ttl) (flights : t.flights = s.flights)
    (channels : t.dedup.channels = s.dedup.channels) (later : s.clock ≤ t.clock)
    (tasks : s.tasks.length ≤ t.tasks.length) (entries : ∀ id, EntryOf t.clock (s.lastFlight id) (t.dedup.entries id))
    (running : ∀ (ticket : Nat)
    (task : Admission), t.tasks[ticket]? = some task → task.phase = .dispatching → s.tasks[ticket]? = some task) :
    Ledger t where
  ttl := ttl.trans ledger.ttl
  entries := by
    intro id
    simpa only [lastFlight, flights] using entries id
  channels := by
    rw [flights, channels]
    exact ledger.channels
  tickets := flights ▸ ledger.tickets
  below := by
    rw [flights]
    exact fun flight member => (ledger.below flight member).trans_le tasks
  last := by
    simpa only [lastFlight, flights] using ledger.last
  superseded := flights ▸ ledger.superseded
  times := by
    rw [flights]
    exact fun flight member => (ledger.times flight member).trans later
  ordered := flights ▸ ledger.ordered
  running := by
    rw [flights]
    exact fun ticket task found phase => ledger.running ticket task (running ticket task found phase) phase

theorem lastFlight_cons (flights : t.flights = flight :: s.flights) (id : String) :
    t.lastFlight id = if flight.requestId = id then some flight else s.lastFlight id := by
  by_cases same : flight.requestId = id
  · simp [lastFlight, flights, same]
  · rw [lastFlight, flights, List.find?_cons_of_neg (by simpa using same), if_neg same, lastFlight]

theorem checkOrMark_absent {state : DedupState} {channel : Nat}
    (absent : (state.evictExpired now).entries id = none) : (state.checkOrMark now id channel).1 =
      { entries := Function.update (state.evictExpired now).entries id (some ⟨now, .inFlight channel⟩)
        ttl := state.ttl
        channels := Function.update state.channels channel (some ⟨none, true⟩) } := by
  simp only [DedupState.checkOrMark, absent]
  rfl

theorem ledger_marked {envelope : RpcEnvelope} (ledger : Ledger s) (later : s.clock ≤ now)
    (mine : task.envelope = envelope) (absent : (s.dedup.evictExpired now).entries envelope.requestId = none) :
    Ledger (withCheck s envelope now (s.dedup.checkOrMark now envelope.requestId s.tasks.length).1 task
      (⟨s.tasks.length, envelope.requestId, now, none⟩ :: s.flights)) := by
  have idle (flight : Flight) (member : flight ∈ s.flights) (open_ : flight.completion = none) :
      envelope.requestId ≠ flight.requestId := by
    intro same
    have entry := evicted_entries ledger later flight.requestId
    rw [ledger.last flight member open_, ← same, absent] at entry
    simp [EntryOf, open_] at entry
  rw [checkOrMark_absent absent]
  constructor
  case ttl => exact ledger.ttl
  case entries =>
    intro id
    rw [lastFlight_cons (s := s) rfl]
    by_cases same : envelope.requestId = id
    · subst same
      simp [withCheck, EntryOf]
    · have entry := evicted_entries ledger later id
      simpa [withCheck, same, Function.update_of_ne (Ne.symm same)] using entry
  case channels =>
    intro flight member
    rcases List.mem_cons.mp member with rfl | member
    · simp [withCheck]
    · have older := ledger.below flight member
      have channel := ledger.channels flight member
      simpa [withCheck, Function.update_of_ne (Nat.ne_of_lt older)] using channel
  case tickets =>
    refine List.pairwise_cons.mpr ⟨fun flight member => ?_, ledger.tickets⟩
    exact (Nat.ne_of_lt (ledger.below flight member)).symm
  case below =>
    intro flight member
    rcases List.mem_cons.mp member with rfl | member
    · simp [withCheck]
    · have older := ledger.below flight member
      simp only [withCheck, List.length_append, List.length_singleton]
      omega
  case last =>
    intro flight member open_
    rw [lastFlight_cons (s := s) rfl]
    rcases List.mem_cons.mp member with rfl | member
    · simp
    · simp only [idle flight member open_, ↓reduceIte]
      exact ledger.last flight member open_
  case superseded =>
    refine List.pairwise_cons.mpr ⟨fun flight member same => ?_, ledger.superseded⟩
    cases completion : flight.completion with
    | none => exact absurd same (idle flight member completion)
    | some => rfl
  case times =>
    intro flight member
    rcases List.mem_cons.mp member with rfl | member
    · exact le_rfl
    · exact (ledger.times flight member).trans later
  case ordered =>
    refine List.pairwise_cons.mpr ⟨fun flight member => ?_, ledger.ordered⟩
    exact (ledger.times flight member).trans later
  case running =>
    intro ticket other found phase
    rcases Slots.of_snoc found with found | ⟨rfl, rfl⟩
    · obtain ⟨flight, member, rest⟩ := ledger.running ticket other found phase
      exact ⟨flight, List.mem_cons_of_mem _ member, rest⟩
    · exact ⟨_, List.mem_cons_self, rfl, by rw [mine], rfl⟩

def settle (ticket now : Nat) (cached : ActorResult Bytes) (flight : Flight) : Flight :=
  if flight.ticket = ticket then { flight with completion := some (now, cached) } else flight

@[simp] theorem settle_ticket (ticket now : Nat) (cached : ActorResult Bytes) (flight : Flight) :
    (settle ticket now cached flight).ticket = flight.ticket := by
  unfold settle
  split <;> rfl

@[simp] theorem settle_requestId (ticket now : Nat) (cached : ActorResult Bytes) (flight : Flight) :
    (settle ticket now cached flight).requestId = flight.requestId := by
  unfold settle
  split <;> rfl

@[simp] theorem settle_markedAt (ticket now : Nat) (cached : ActorResult Bytes) (flight : Flight) :
    (settle ticket now cached flight).markedAt = flight.markedAt := by
  unfold settle
  split <;> rfl

theorem settle_other (other : flight.ticket ≠ ticket) : settle ticket now cached flight = flight :=
  if_neg other

theorem flight_unique {f g : Flight} (ledger : Ledger s) (first : f ∈ s.flights) (second : g ∈ s.flights)
    (same : f.ticket = g.ticket) : f = g :=
  List.inj_on_of_nodup_map (List.pairwise_map.mpr ledger.tickets) first second same

theorem complete_inFlight {state : DedupState} {receivedAt channel : Nat}
    (present : state.entries id = some ⟨receivedAt, .inFlight channel⟩) : state.complete id cached =
      { entries := Function.update state.entries id (some ⟨receivedAt, .done cached⟩)
        ttl := state.ttl
        channels := Function.update state.channels channel (some ⟨some cached, false⟩) } := by
  simp only [DedupState.complete, present]

theorem dispatching_flight (ledger : Ledger s) (found : s.tasks[ticket]? = some task)
    (running : task.phase = .dispatching) :
    ∃ flight ∈ s.flights, flight.ticket = ticket ∧ flight.requestId = task.envelope.requestId ∧
      flight.completion = none ∧ s.lastFlight task.envelope.requestId = some flight ∧
      s.dedup.entries task.envelope.requestId = some ⟨flight.markedAt, .inFlight ticket⟩ := by
  obtain ⟨flight, member, rfl, id, open_⟩ := ledger.running ticket task found running
  have last := ledger.last flight member open_
  have entry := ledger.entries flight.requestId
  simp only [last, EntryOf, open_] at entry
  rw [id] at last entry
  exact ⟨flight, member, rfl, id, open_, last, entry⟩

theorem lastFlight_map (flights : t.flights = s.flights.map (settle ticket now cached)) (id : String) :
    t.lastFlight id = (s.lastFlight id).map (settle ticket now cached) := by
  simp only [lastFlight, flights, List.find?_map, Function.comp_def, settle_requestId]

section Settling

variable {ticket now : Nat} {cached : ActorResult Bytes} {flight other : Flight}

theorem settle_rest (ledger : Ledger s) (member : flight ∈ s.flights) (mine : flight.ticket = ticket)
    (listed : other ∈ s.flights) (different : other ≠ flight) : settle ticket now cached other = other := by
  apply settle_other
  intro same
  exact different (flight_unique ledger listed member (same.trans mine.symm))

theorem lastFlight_settled (ledger : Ledger s) (member : flight ∈ s.flights) (mine : flight.ticket = ticket)
    {key : String} (elsewhere : key ≠ flight.requestId) :
    (s.lastFlight key).map (settle ticket now cached) = s.lastFlight key := by
  cases last : s.lastFlight key with
  | none => rfl
  | some other =>
    obtain ⟨listed, id⟩ := lastFlight_requestId last
    have different : other ≠ flight := by
      rintro rfl
      exact elsewhere id.symm
    rw [Option.map_some, settle_rest ledger member mine listed different]

end Settling

theorem ledger_finished {result : ActorResult Bytes} {dispatched : Option (ActorResult Bytes)} (ledger : Ledger s)
    (later : s.clock ≤ now) (found : s.tasks[ticket]? = some task) (running : task.phase = .dispatching) :
    Ledger (s.finish ticket task result dispatched now) := by
  obtain ⟨flight, member, mine, id, open_, last, present⟩ := dispatching_flight ledger found running
  generalize cachedIs : cachedResult (envelopeIsTell task.envelope) result = cached
  have flights : (s.finish ticket task result dispatched now).flights = s.flights.map (settle ticket now cached) :=
    cachedIs ▸ rfl
  have lasts := lastFlight_map flights
  have dedup : (s.finish ticket task result dispatched now).dedup = _ := complete_inFlight present
  have settled : settle ticket now cached flight = { flight with completion := some (now, cached) } :=
    if_pos mine
  have rest {f : Flight} (listed : f ∈ s.flights) (different : f ≠ flight) : settle ticket now cached f = f :=
    settle_rest ledger member mine listed different
  rw [cachedIs] at dedup
  constructor
  case ttl =>
    rw [dedup]
    exact ledger.ttl
  case entries =>
    intro key
    rw [lasts, dedup]
    by_cases same : key = task.envelope.requestId
    · subst same
      simp [last, settled, EntryOf]
    · have entry := entryOf_mono later (ledger.entries key)
      rw [lastFlight_settled ledger member mine (id ▸ same)]
      simpa [Function.update_of_ne same, finish] using entry
  case channels =>
    rw [flights, dedup, List.forall_mem_map]
    intro f listed
    by_cases same : f = flight
    · subst same
      simp [settled, mine]
    · have channel := ledger.channels f listed
      have elsewhere : f.ticket ≠ ticket := by
        intro equal
        exact same (flight_unique ledger listed member (equal.trans mine.symm))
      rw [rest listed same]
      simpa [Function.update_of_ne elsewhere] using channel
  case tickets =>
    rw [flights, List.pairwise_map]
    simpa using ledger.tickets
  case below =>
    rw [flights, List.forall_mem_map]
    intro f listed
    simpa [finish] using ledger.below f listed
  case last =>
    rw [flights, List.forall_mem_map]
    intro f listed unfinished
    have different : f ≠ flight := by
      rintro rfl
      simp [settled] at unfinished
    rw [rest listed different] at unfinished ⊢
    rw [lasts, ledger.last f listed unfinished, Option.map_some, rest listed different]
  case superseded =>
    rw [flights, List.pairwise_map]
    apply ledger.superseded.imp
    intro newer older completed same
    simp only [settle_requestId] at same
    unfold settle
    split
    · rfl
    · exact completed same
  case times =>
    rw [flights, List.forall_mem_map]
    intro f listed
    simpa [finish] using (ledger.times f listed).trans later
  case ordered =>
    rw [flights, List.pairwise_map]
    simpa using ledger.ordered
  case running =>
    intro number admission listed phase
    rcases Slots.of_set listed with ⟨rfl, rfl⟩ | ⟨different, listed⟩
    · cases phase
    · obtain ⟨f, member', rfl, rest, unfinished⟩ := ledger.running number admission listed phase
      exact ⟨f, List.mem_map.mpr ⟨f, member', settle_other different⟩, rfl, rest, unfinished⟩

theorem ledger_resolved {reply : ActorResult Bytes} (ledger : Ledger s) (later : s.clock ≤ now) :
    Ledger (s.resolve ticket task reply now) := by
  refine ledger_kept ledger rfl rfl rfl later (by simp [resolve]) ?_ ?_
  · exact fun id => entryOf_mono later (ledger.entries id)
  · intro number admission found phase
    rcases Slots.of_set found with ⟨rfl, rfl⟩ | ⟨-, found⟩
    · cases phase
    · exact found

theorem ledger_step (ledger : Ledger s) (effect : Effect node s t) : Ledger t := by
  cases effect with
  | refused callerId envelope now error later =>
    refine ledger_kept ledger rfl rfl rfl later (by simp) ?_ ?_
    · exact fun id => entryOf_mono later (ledger.entries id)
    · intro ticket task found phase
      rcases Slots.of_snoc found with found | ⟨rfl, rfl⟩
      · exact found
      · cases phase
  | marked callerId envelope now phase later admitted absent =>
    exact ledger_marked ledger later rfl absent
  | joined callerId envelope now receivedAt waiter later =>
    refine ledger_kept ledger rfl rfl rfl later (by simp [withCheck]) ?_ ?_
    · exact evicted_entries ledger later
    · intro ticket task found phase
      rcases Slots.of_snoc found with found | ⟨rfl, rfl⟩
      · exact found
      · unfold joinedTask at phase
        split at phase <;> cases phase
  | hit callerId envelope now receivedAt result later =>
    refine ledger_kept ledger rfl rfl rfl later (by simp [withCheck]) ?_ ?_
    · exact evicted_entries ledger later
    · intro ticket task found phase
      rcases Slots.of_snoc found with found | ⟨rfl, rfl⟩
      · exact found
      · cases phase
  | finished ticket task result dispatched now later found running =>
    exact ledger_finished ledger later found running
  | woken ticket task waiter since timeout result now later =>
    apply ledger_resolved ledger later
  | expired ticket task waiter since timeout now later =>
    apply ledger_resolved ledger later

end Steps

end Actr.Proof.Lifecycle
