import Actr.Hyper.Transport.DestTransport
import Actr.Proof.Transport.WirePool

/-! # What a send waits for -/

namespace Actr.Proof.Transport
open Actr.Protocol Hyper.Transport Library Machine

variable {outcome : NetworkResult Unit}

def Running (pool : WirePool) (connType : ConnType) : Prop :=
  ∃ process ∈ pool.processes, attemptOf process = some connType ∧ isReturned process = false

def Trying (pool : WirePool) (connType : ConnType) : Prop :=
  ∃ process ∈ pool.processes, attemptOf process = some connType ∧ isReturned process = false ∧ announces process = false

def Announcing (pool : WirePool) (connType : ConnType) : Prop :=
  ∃ process ∈ pool.processes, attemptOf process = some connType ∧ announces process = true

def Closing (pool : WirePool) : Prop := ∃ process ∈ pool.processes, isClosing process = true

section Processes

variable {s t : WirePool} {action : WirePool.Action} {process after : Process} {connType : ConnType}

theorem mem_start_of_mem (member : process ∈ s.processes) : process ∈ (s.start after).processes :=
  List.mem_append_left _ member

theorem attemptOf_publishing (caller : Caller) (ready : ReadySet) :
    attemptOf (.publishing caller ready) = attemptOf (.broadcasting caller) := by
  cases caller <;> rfl

theorem not_returned_of_announces (busy : announces process = true) : isReturned process = false := by
  cases process with
  | broadcasting | publishing | sending => rfl
  | _ => cases busy

inductive Turns (s t : WirePool) : Process → Prop
  | stays {process : Process} (member : process ∈ t.processes) : Turns s t process
  | goes {process after : Process} (quiet : Quiet s process after) (member : after ∈ t.processes) : Turns s t process
  | stores (member : .clearing ∈ t.processes) : Turns s t .storing
  | writes {process : Process} {caller : Caller} {connType : ConnType} (idle : announces process = false)
      (leaves : isClosing process = false) (same : attemptOf (.broadcasting caller) = attemptOf process)
      (aimed : ∀ other, caller = .connection other → connType = other)
      (settled : t.connections connType ≠ some .connecting) (member : .broadcasting caller ∈ t.processes) :
      Turns s t process
  | clears (member : .sending ∈ t.processes) : Turns s t .clearing
  | locks {caller : Caller} {ready : ReadySet} (member : .publishing caller ready ∈ t.processes) :
      Turns s t (.broadcasting caller)
  | publishes {process : Process} (busy : announces process = true) (newer : s.version < t.version) : Turns s t process

theorem active_of_quiet (quiet : Quiet s process after) (own : attemptOf process = some connType) :
    isReturned after = false ∨ s.closed = true := by
  cases returned : isReturned after with
  | false => exact .inl rfl
  | true => exact .inr ((quiet.ended returned).resolve_right fun none => by cases none.symm.trans own)

section

variable (taken : PoolStep s action t)
include taken

theorem turns_step (member : process ∈ s.processes) : Turns s t process := by
  have turned {index : Nat} {before after : Process} (found : s.processes[index]? = some before)
      (listed : t.processes = s.processes.set index after) (own : Turns s t before) : Turns s t process := by
    rcases Slots.mem_kept_or_set found member with rfl | stays
    · exact own
    · exact .stays (listed ▸ stays)
  cases taken with
  | started => exact .stays (mem_start_of_mem member)
  | added => exact .stays (mem_start_of_mem (s := s.write _ _) member)
  | moved found quiet => exact turned found rfl (.goes quiet (mem_set_self found))
  | stored found => exact turned found rfl (.stores (mem_set_self found))
  | @wrote index before connType status caller found idle leaves same own guarded aimed settled =>
    refine turned found rfl (.writes idle leaves same aimed ?_ (mem_set_self (s := s.write connType status) found))
    change (s.write connType status).connections connType ≠ _
    rw [write_self]
    exact fun connecting => settled (Option.some.inj connecting)
  | cleared found => exact turned found rfl (.clears (mem_set_self (s := s.clear) found))
  | emptied found | published found => exact turned found rfl (.publishes rfl (Nat.lt_succ_self _))
  | locked found => exact turned found rfl (.locks (mem_set_self found))

theorem running_step (running : Running s connType) :
    Running t connType ∨ s.closed = true ∨ s.version < t.version := by
  obtain ⟨process, member, own, active⟩ := running
  cases turns_step taken member with
  | stays later => exact .inl ⟨process, later, own, active⟩
  | goes quiet later =>
    rcases active_of_quiet quiet own with active | closed
    · exact .inl ⟨_, later, quiet.same.trans own, active⟩
    · exact .inr (.inl closed)
  | stores | clears => cases own
  | writes idle leaves same aimed settled later => exact .inl ⟨_, later, same.trans own, rfl⟩
  | locks later => exact .inl ⟨_, later, (attemptOf_publishing _ _).trans own, rfl⟩
  | publishes busy newer => exact .inr (.inr newer)

theorem trying_step (trying : Trying s connType) (connecting : t.connections connType = some .connecting) :
    Trying t connType ∨ s.closed = true := by
  obtain ⟨process, member, own, active, idle⟩ := trying
  cases turns_step taken member with
  | stays later => exact .inl ⟨process, later, own, active, idle⟩
  | goes quiet later =>
    exact (active_of_quiet quiet own).imp_left fun active => ⟨_, later, quiet.same.trans own, active, quiet.still⟩
  | stores | clears => cases own
  | @writes _ caller other _ leaves same aimed settled =>
    cases caller with
    | connection target =>
      cases aimed target rfl
      cases same.trans own
      exact absurd connecting settled
    | mark => cases same.trans own
  | locks => cases idle
  | publishes busy => cases idle.symm.trans busy

theorem announcing_step (announcing : Announcing s connType) : Announcing t connType ∨ s.version < t.version := by
  obtain ⟨process, member, own, busy⟩ := announcing
  cases turns_step taken member with
  | stays later => exact .inl ⟨process, later, own, busy⟩
  | goes quiet => cases quiet.idle.symm.trans busy
  | stores | clears => cases own
  | writes idle => cases idle.symm.trans busy
  | locks later => exact .inl ⟨_, later, (attemptOf_publishing _ _).trans own, rfl⟩
  | publishes busy newer => exact .inr newer

theorem closing_step (closing : Closing s) : Closing t ∨ s.version < t.version := by
  obtain ⟨process, member, own⟩ := closing
  cases turns_step taken member with
  | stays later => exact .inl ⟨process, later, own⟩
  | goes quiet => cases quiet.leaves.symm.trans own
  | stores | locks => cases own
  | writes idle leaves => cases leaves.symm.trans own
  | clears later => exact .inl ⟨_, later, rfl⟩
  | publishes busy newer => exact .inr newer

theorem version_step : s.version < t.version ∨ t.version = s.version ∧ t.ready = s.ready := by
  cases taken with
  | emptied | published => exact .inl (Nat.lt_succ_self _)
  | _ => exact .inr ⟨rfl, rfl⟩

theorem version_le : s.version ≤ t.version := by
  rcases version_step taken with newer | ⟨same, -⟩
  · exact newer.le
  · exact same.ge

theorem closed_step (closed : t.closed = true) : s.closed = true ∨ Closing t := by
  cases taken with
  | stored found => exact .inr ⟨.clearing, mem_set_self found, rfl⟩
  | _ => exact .inl closed

end

theorem slot_write (status : WireStatus) (connType other : ConnType) : s.changes ≤ (s.write connType status).changes ∧
      ((s.write connType status).connections other = s.connections other ∨
        s.changes < (s.write connType status).changes) := by
  by_cases same : s.connections connType = some status
  · have kept : (s.write connType status).changes = s.changes := if_pos same
    refine ⟨kept.ge, .inl ?_⟩
    by_cases own : other = connType
    · subst own
      rw [write_self, same]
    · exact write_other own
  · have counted : (s.write connType status).changes = s.changes + 1 := if_neg same
    omega

theorem slot_clear (other : ConnType) :
    s.changes ≤ s.clear.changes ∧ (s.clear.connections other = s.connections other ∨ s.changes < s.clear.changes) := by
  by_cases empty : ConnType.all.all (fun connType => s.connections connType = none) = true
  · have kept : s.clear.changes = s.changes := if_pos empty
    refine ⟨kept.ge, .inl ?_⟩
    have none := List.all_eq_true.mp empty other (by cases other <;> simp [ConnType.all])
    exact (of_decide_eq_true none).symm
  · have counted : s.clear.changes = s.changes + 1 := if_neg empty
    omega

theorem slot_step (taken : PoolStep s action t) (other : ConnType) :
    s.changes ≤ t.changes ∧ (t.connections other = s.connections other ∨ s.changes < t.changes) := by
  cases taken with
  | added wire => exact slot_write .connecting wire.connType other
  | wrote => exact slot_write _ _ other
  | cleared => exact slot_clear other
  | _ => exact ⟨le_rfl, .inl rfl⟩

end Processes

/-! ## The pool -/

structure PoolOk (pool : WirePool) : Prop where
  locked : Locked pool
  connecting : ∀ connType, pool.connections connType = some .connecting → Trying pool connType ∨ pool.closed = true
  fresh : ∀ connType, isReady (pool.connections connType) = true → connType ∈ pool.ready ∨ Announcing pool connType

def Tried (pool : WirePool) (seen : Nat) (connType : ConnType) : Prop :=
  isReady (pool.connections connType) = false ∨ Announcing pool connType ∨ seen < pool.version

section Pool

variable {s t : WirePool} {action : WirePool.Action} {connType : ConnType} {seen : Nat}

theorem poolOk_new (maxAttempts : Nat) : PoolOk (.new maxAttempts) := by
  refine ⟨locked_new maxAttempts, ?_, ?_⟩
  · intro connType connecting
    cases connecting
  · intro connType ready
    cases ready

theorem closed_mono (taken : PoolStep s action t) (closed : s.closed = true) : t.closed = true := by
  cases taken with
  | stored => rfl
  | _ => exact closed

theorem connecting_came (taken : PoolStep s action t) (connecting : t.connections connType = some .connecting) :
    s.connections connType = some .connecting ∨ Trying t connType := by
  cases taken with
  | added wire =>
    by_cases own : connType = wire.connType
    · subst own
      exact .inr ⟨.checking wire 0, List.mem_append_right _ (List.mem_singleton_self _), rfl, rfl, rfl⟩
    · exact .inl ((write_other own).symm.trans connecting)
  | @wrote index before other status caller found idle leaves same own guarded aimed settled =>
    by_cases equal : connType = other
    · subst equal
      have written : some status = some .connecting := write_self.symm.trans connecting
      exact absurd (Option.some.inj written) settled
    · exact .inl ((write_other equal).symm.trans connecting)
  | cleared => cases connecting
  | _ => exact .inl connecting

theorem ready_came (taken : PoolStep s action t) (ready : isReady (t.connections connType) = true) :
    isReady (s.connections connType) = true ∨ Announcing t connType := by
  cases taken with
  | added wire =>
    by_cases own : connType = wire.connType
    · subst own
      have slot : isReady ((s.write wire.connType .connecting).connections wire.connType) = true := ready
      rw [write_self] at slot
      cases slot
    · left
      rw [← write_other own]
      exact ready
  | @wrote index before other status caller found idle leaves same own =>
    have slot : isReady ((s.write other status).connections connType) = true := ready
    by_cases equal : connType = other
    · subst equal
      rw [write_self] at slot
      cases status with
      | ready wire =>
        obtain ⟨-, -, rfl⟩ := own wire rfl
        exact .inr ⟨_, mem_set_self (s := s.write _ _) found, rfl, rfl⟩
      | connecting | failed => cases slot
    · left
      rwa [write_other equal] at slot
  | cleared => cases ready
  | _ => exact .inl ready

theorem mem_readyConnections (ready : isReady (s.connections connType) = true) : connType ∈ s.readyConnections := by
  refine List.mem_filter.mpr ⟨?_, ready⟩
  cases connType <;> simp [ConnType.all]

theorem newer_step (locked : Locked s) (taken : PoolStep s action t) (newer : s.version < t.version) :
    t.ready = s.readyConnections ∧ t.connections = s.connections := by
  cases taken with
  | emptied found =>
    have none := locked.cleared (List.mem_of_getElem? found)
    refine ⟨?_, rfl⟩
    simp [WirePool.set, WirePool.publish, WirePool.readyConnections, none, isReady]
  | published found => exact ⟨locked.snapshot _ _ (List.mem_of_getElem? found), rfl⟩
  | _ => exact absurd newer (lt_irrefl _)

theorem fresh_step (ok : PoolOk s) (taken : PoolStep s action t)
    (ready : isReady (t.connections connType) = true) : connType ∈ t.ready ∨ Announcing t connType := by
  rcases version_step taken with newer | ⟨same, kept⟩
  · obtain ⟨sent, slots⟩ := newer_step ok.locked taken newer
    rw [slots] at ready
    rw [sent]
    exact .inl (mem_readyConnections ready)
  · rcases ready_came taken ready with before | announcing
    · rcases ok.fresh connType before with published | announcing
      · rw [kept]
        exact .inl published
      · exact .inr ((announcing_step taken announcing).resolve_right (by omega))
    · exact .inr announcing

theorem poolOk_step (ok : PoolOk s) (taken : PoolStep s action t) : PoolOk t := by
  refine ⟨locked_step ok.locked taken, ?_, fun _ => fresh_step ok taken⟩
  intro connType connecting
  rcases connecting_came taken connecting with before | trying
  · rcases ok.connecting connType before with trying | closed
    · exact (trying_step taken trying connecting).imp_right (closed_mono taken)
    · exact .inr (closed_mono taken closed)
  · exact .inl trying

theorem tried_step (taken : PoolStep s action t) (bound : seen ≤ s.version) (tried : Tried s seen connType) :
    Tried t seen connType := by
  rcases tried with unready | announcing | newer
  · cases ready : isReady (t.connections connType) with
    | false => exact .inl ready
    | true =>
      rcases ready_came taken ready with before | announcing
      · rw [unready] at before
        cases before
      · exact .inr (.inl announcing)
  · rcases announcing_step taken announcing with still | newer
    · exact .inr (.inl still)
    · exact .inr (.inr (bound.trans_lt newer))
  · exact .inr (.inr (newer.trans_le (version_le taken)))

end Pool

/-! ## The sends -/

/-- An attempt for a candidate runs, a set that was not seen yet is published, or a close is about to publish. -/
def Awaited (pool : WirePool) (send : Send) : Prop :=
  (∃ connType ∈ candidateConnTypes (dataLaneTypes send.payloadType), Running pool connType) ∨
    send.seen < pool.version ∨ Closing pool

def Warned (pool : WirePool) (send : Send) : Prop := pool.closed = true → Closing pool ∨ send.seen < pool.version

def Held (pool : WirePool) (send : Send) (connType : ConnType) (wire : Wire) : Prop :=
  pool.connections connType = some (.ready wire) ∨ send.since < pool.changes

def Evicting (pool : WirePool) (send : Send) (process : Process) : Prop :=
  send.since < pool.changes ∨ ∃ connType wire identity, process = .markingIfSame connType identity ∧
    wire.identity = some identity ∧ pool.connections connType = some (.ready wire)

def PhaseOk (pool : WirePool) (send : Send) : Prop :=
  match send.phase with
  | .borrowing | .resending _ | .returned _ => True
  | .trying rest =>
    (send.seen = pool.version → send.ready = pool.ready) ∧
    ∀ laneType ∈ dataLaneTypes send.payloadType, laneType ∈ rest ∨ Tried pool send.seen laneType.connType
  | .gettingLane connType wire _ | .sending connType wire | .regettingLane connType wire => Held pool send connType wire
  | .evicting process => ∃ running, pool.processes[process]? = some running ∧ Evicting pool send running
  | .checkingClosed => ∀ laneType ∈ dataLaneTypes send.payloadType, Tried pool send.seen laneType.connType
  | .probing =>
    (∀ laneType ∈ dataLaneTypes send.payloadType, Tried pool send.seen laneType.connType) ∧ Warned pool send
  | .waiting => Awaited pool send ∧ Warned pool send

structure SendOk (pool : WirePool) (send : Send) : Prop where
  seen : send.seen ≤ pool.version
  since : send.since ≤ pool.changes
  phase : PhaseOk pool send

section Sends

variable {s t : WirePool} {action : WirePool.Action} {send : Send} {connType : ConnType} {wire : Wire} {place : Nat}

theorem held_step (taken : PoolStep s action t) (since : send.since ≤ s.changes) (held : Held s send connType wire) :
    Held t send connType wire := by
  obtain ⟨grown, slot⟩ := slot_step taken connType
  rcases held with slot' | changed
  · rcases slot with kept | counted
    · exact .inl (kept.trans slot')
    · exact .inr (since.trans_lt counted)
  · exact .inr (changed.trans_le grown)

theorem warned_step (taken : PoolStep s action t) (bound : send.seen ≤ s.version) (warned : Warned s send) :
    Warned t send := by
  intro closed
  rcases closed_step taken closed with before | closing
  · rcases warned before with closing | newer
    · exact (closing_step taken closing).imp_right bound.trans_lt
    · exact .inr (newer.trans_le (version_le taken))
  · exact .inl closing

theorem awaited_step (taken : PoolStep s action t) (bound : send.seen ≤ s.version) (awaited : Awaited s send)
    (warned : Warned s send) : Awaited t send := by
  have closing_of (closing : Closing s) : Awaited t send := by
    rcases closing_step taken closing with still | newer
    · exact .inr (.inr still)
    · exact .inr (.inl (bound.trans_lt newer))
  rcases awaited with ⟨connType, candidate, running⟩ | newer | closing
  · rcases running_step taken running with still | closed | newer
    · exact .inl ⟨connType, candidate, still⟩
    · rcases warned closed with closing | newer
      · exact closing_of closing
      · exact .inr (.inl (newer.trans_le (version_le taken)))
    · exact .inr (.inl (bound.trans_lt newer))
  · exact .inr (.inl (newer.trans_le (version_le taken)))
  · exact closing_of closing

section

variable (taken : PoolStep s action t)
include taken

theorem markingIfSame_step {identity : WireIdentity}
    (here : s.processes[place]? = some (.markingIfSame connType identity)) (own : wire.identity = some identity)
    (slot : s.connections connType = some (.ready wire)) :
    t.processes[place]? = some (.markingIfSame connType identity) ∨ t.connections connType ≠ s.connections connType := by
  cases taken with
  | started | added => exact .inl (Slots.snoc here)
  | moved found quiet =>
    rcases Slots.kept_or_set found here with ⟨-, same⟩ | kept
    · have mismatch := quiet.stale connType identity same.symm
      simp [WirePool.connectionMatchesIdentity, slot, own] at mismatch
    · exact .inl kept
  | stored found | locked found | cleared found | emptied found | published found =>
    exact .inl ((Slots.kept_or_set found here).resolve_left (by simp))
  | @wrote index before other status caller found idle leaves same own' guarded =>
    rcases Slots.kept_or_set found here with ⟨-, equal⟩ | kept
    · obtain ⟨rfl, rfl⟩ := guarded connType identity equal.symm
      right
      change (s.write other .failed).connections other ≠ _
      rw [write_self, slot]
      simp
    · exact .inl kept

theorem processes_length : s.processes.length ≤ t.processes.length := by
  cases taken with
  | started | added => simp [WirePool.start, WirePool.write]
  | _ => simp [WirePool.set, WirePool.write, WirePool.clear, WirePool.publish]

theorem evicting_step (since : send.since ≤ s.changes)
    (evicting : ∃ running, s.processes[place]? = some running ∧ Evicting s send running) :
    ∃ running, t.processes[place]? = some running ∧ Evicting t send running := by
  obtain ⟨running, here, strikes⟩ := evicting
  have within := (List.getElem?_eq_some_iff.mp here).1.trans_le (processes_length taken)
  have changed (counted : send.since < t.changes) :
      ∃ running, t.processes[place]? = some running ∧ Evicting t send running :=
    ⟨_, List.getElem?_eq_getElem within, .inl counted⟩
  rcases strikes with before | ⟨connType, wire, identity, rfl, own, slot⟩
  · exact changed (before.trans_le (slot_step taken .webRtc).1)
  · rcases (slot_step taken connType).2 with same | counted
    · have kept := (markingIfSame_step taken here own slot).resolve_right fun differs => differs same
      exact ⟨_, kept, .inr ⟨connType, wire, identity, rfl, own, same.trans slot⟩⟩
    · exact changed (since.trans_lt counted)

theorem sendOk_pool (ok : SendOk s send) : SendOk t send := by
  obtain ⟨seen, since, phase⟩ := ok
  refine ⟨seen.trans (version_le taken), since.trans (slot_step taken .webRtc).1, ?_⟩
  have tried (connType : ConnType) : Tried s send.seen connType → Tried t send.seen connType := tried_step taken seen
  unfold PhaseOk at phase ⊢
  split at phase
  · trivial
  · trivial
  · trivial
  · obtain ⟨current, known⟩ := phase
    refine ⟨?_, fun laneType member => (known laneType member).imp_right (tried _)⟩
    intro same
    rcases version_step taken with newer | ⟨version, ready⟩
    · omega
    · exact (current (same.trans version)).trans ready.symm
  · exact held_step taken since phase
  · exact held_step taken since phase
  · exact held_step taken since phase
  · exact evicting_step taken since phase
  · exact fun laneType member => tried _ (phase laneType member)
  · exact ⟨fun laneType member => tried _ (phase.1 laneType member), warned_step taken seen phase.2⟩
  · exact ⟨awaited_step taken seen phase.1 phase.2, warned_step taken seen phase.2⟩

end

end Sends

/-! ## Rounds of a send -/

/-- A send that begins another round without having suspended finds a pool that has changed in the last one. -/
def Retries (pool : WirePool) (before after : Send) : Prop :=
  before.phase ≠ .waiting → before.phase ≠ .borrowing → after.phase = .borrowing → before.since < pool.changes

section Rounds

variable {pool : WirePool} {send next : Send} {connType : ConnType} {laneType : DataLaneType}
  {rest : List DataLaneType}

theorem lane_of_candidate (payloadType : PayloadType) : ∀ connType ∈ candidateConnTypes (dataLaneTypes payloadType),
      ∃ laneType ∈ dataLaneTypes payloadType, laneType.connType = connType := by
  cases payloadType <;> decide

theorem tried_of_missing (ok : PoolOk pool) (seen : send.seen ≤ pool.version)
    (current : send.seen = pool.version → send.ready = pool.ready) (missing : connType ∉ send.ready) :
    Tried pool send.seen connType := by
  cases ready : isReady (pool.connections connType) with
  | false => exact .inl ready
  | true =>
    rcases ok.fresh connType ready with published | announcing
    · rcases seen.lt_or_eq with newer | same
      · exact .inr (.inr newer)
      · rw [current same] at missing
        exact absurd published missing
    · exact .inr (.inl announcing)

theorem tried_of_none (none : pool.getConnection connType = none) : Tried pool send.seen connType := by
  left
  unfold WirePool.getConnection at none
  unfold isReady
  split at none
  · cases none
  · rfl

theorem tryLane_ok (ok : PoolOk pool) (seen : send.seen ≤ pool.version) (since : send.since ≤ pool.changes)
    (current : send.seen = pool.version → send.ready = pool.ready)
    (known : ∀ other ∈ dataLaneTypes send.payloadType, other ∈ laneType :: rest ∨ Tried pool send.seen other.connType)
    (taken : DestTransport.tryLane pool send laneType rest = some next) :
    SendOk pool next ∧ next.phase ≠ .borrowing := by
  have skipped (tried : Tried pool send.seen laneType.connType) :
      SendOk pool { send with phase := .trying rest } := by
    refine ⟨seen, since, current, ?_⟩
    intro other member
    rcases known other member with listed | done
    · rcases List.mem_cons.mp listed with rfl | later
      · exact .inr tried
      · exact .inl later
    · exact .inr done
  unfold DestTransport.tryLane at taken
  split at taken
  · next missing =>
    cases taken
    exact ⟨skipped (tried_of_missing ok seen current missing), by simp⟩
  · split at taken
    · split at taken
      · next wire found =>
        cases taken
        refine ⟨⟨seen, since, .inl ?_⟩, by simp⟩
        unfold WirePool.getConnection at found
        split at found <;> cases found
        assumption
      · next none =>
        cases taken
        exact ⟨skipped (tried_of_none none), by simp⟩
    · cases taken

theorem awaited_of_live (ok : PoolOk pool) (warned : Warned pool send)
    (tried : ∀ laneType ∈ dataLaneTypes send.payloadType, Tried pool send.seen laneType.connType)
    (live : pool.hasLiveCandidate (candidateConnTypes (dataLaneTypes send.payloadType)) = true) :
    Awaited pool send := by
  obtain ⟨connType, candidate, alive⟩ := List.any_eq_true.mp live
  obtain ⟨laneType, member, rfl⟩ := lane_of_candidate send.payloadType connType candidate
  split at alive
  · next wire slot =>
    rcases tried laneType member with unready | ⟨process, listed, own, busy⟩ | newer
    · rw [slot] at unready
      cases unready
    · exact .inl ⟨_, candidate, process, listed, own, not_returned_of_announces busy⟩
    · exact .inr (.inl newer)
  · next slot =>
    rcases ok.connecting _ slot with ⟨process, listed, own, active, -⟩ | closed
    · exact .inl ⟨_, candidate, process, listed, own, active⟩
    · exact .inr (warned closed).symm
  · cases alive

theorem changed_of_returned {process : Nat} {caller : Caller} {changed : Bool}
    (evicting : ∃ running, pool.processes[process]? = some running ∧ Evicting pool send running)
    (returned : pool.processes[process]? = some (.returned caller changed)) : send.since < pool.changes := by
  obtain ⟨running, here, counted | ⟨connType, wire, identity, marking, -⟩⟩ := evicting
  · exact counted
  · cases (here.symm.trans returned).symm.trans (congrArg some marking)

theorem advance_ok (ok : PoolOk pool) (sendOk : SendOk pool send)
    (taken : DestTransport.advance pool send = some next) : SendOk pool next ∧ Retries pool send next := by
  obtain ⟨seen, since, phase⟩ := sendOk
  have onward {after : Send} (other : after.phase ≠ .borrowing) : Retries pool send after :=
    fun _ _ again => absurd again other
  unfold DestTransport.advance at taken
  unfold PhaseOk at phase
  split at taken
  · cases taken
    exact ⟨⟨le_rfl, le_rfl, fun _ => rfl, fun _ member => .inl member⟩, onward (by simp [DestTransport.borrow])⟩
  · next trying =>
    cases taken
    rw [trying] at phase
    refine ⟨⟨seen, since, ?_⟩, onward (by simp)⟩
    intro laneType member
    exact (phase.2 laneType member).resolve_left List.not_mem_nil
  · next laneType rest trying =>
    rw [trying] at phase
    obtain ⟨after, other⟩ := tryLane_ok ok seen since phase.1 phase.2 taken
    exact ⟨after, onward other⟩
  · next process evicting =>
    rw [evicting] at phase
    split at taken
    · next returned =>
      cases taken
      exact ⟨⟨seen, since, trivial⟩, fun _ _ _ => changed_of_returned phase returned⟩
    · cases taken
  · next checking =>
    rw [checking] at phase
    cases taken
    cases closed : pool.closed with
    | true => exact ⟨⟨seen, since, trivial⟩, onward (by simp)⟩
    | false => exact ⟨⟨seen, since, phase, fun raised => by cases closed.symm.trans raised⟩, onward (by simp)⟩
  · next probing =>
    rw [probing] at phase
    obtain ⟨-, rfl⟩ := of_guard taken
    split
    · next live =>
      exact ⟨⟨seen, since, awaited_of_live ok phase.2 phase.1 live, phase.2⟩, onward (by simp)⟩
    · exact ⟨⟨seen, since, trivial⟩, onward (by simp)⟩
  · next waiting =>
    obtain ⟨-, rfl⟩ := of_guard taken
    exact ⟨⟨le_rfl, since, trivial⟩, fun other => absurd waiting other⟩
  · cases taken

end Rounds

/-! ## Runs -/

/-- The lanes fail only so that the send can evict the wire. -/
def heals (s : DestTransport) : DestTransport.Action → Bool
  | .gotLane index (.error error) =>
    match s.sends[index]?.map Send.phase with
    | some (.gettingLane connType wire _) => DestTransport.stale connType error && wire.identity.isSome
    | some (.regettingLane connType wire) => !DestTransport.stale connType error || wire.identity.isSome
    | _ => true
  | _ => true

structure DestOk (s : DestTransport) : Prop where
  pool : PoolOk s.pool
  sends : ∀ send ∈ s.sends, SendOk s.pool send

/-- A suspended send waits for something that can come, and no send repeats a round in the same pool. -/
structure Waits (s t : DestTransport) : Prop where
  suspended : ∀ send ∈ t.sends, send.phase = .waiting → Awaited t.pool send
  retries : ∀ (index : Nat) (before after : Send), s.sends[index]? = some before → t.sends[index]? = some after →
    Retries s.pool before after

section Runs

variable {s t : DestTransport} {action : DestTransport.Action} {index : Nat} {send next : Send} {pool : WirePool}

structure Goes (s t : DestTransport) (index : Nat) (send next : Send) : Prop where
  found : s.sends[index]? = some send
  sends : t.sends = s.sends.set index next
  pool : t.pool = s.pool ∨ ∃ action, PoolStep s.pool action t.pool
  ok : SendOk t.pool next
  retries : Retries s.pool send next

theorem awaited_of_ok (ok : SendOk pool send) (waiting : send.phase = .waiting) : Awaited pool send := by
  have phase := ok.phase
  unfold PhaseOk at phase
  rw [waiting] at phase
  exact phase.1

theorem retries_self : Retries pool send send := fun _ other again => absurd again other

theorem Goes.kept (goes : Goes s t index send next) (ok : DestOk s) : DestOk t ∧ Waits s t := by
  have pool : PoolOk t.pool := by
    rcases goes.pool with same | ⟨action, taken⟩
    · rw [same]
      exact ok.pool
    · exact poolOk_step ok.pool taken
  have sends : ∀ send ∈ t.sends, SendOk t.pool send := by
    intro other member
    rw [goes.sends] at member
    rcases List.mem_or_eq_of_mem_set member with old | rfl
    · rcases goes.pool with same | ⟨action, taken⟩
      · rw [same]
        exact ok.sends other old
      · exact sendOk_pool taken (ok.sends other old)
    · exact goes.ok
  refine ⟨⟨pool, sends⟩, fun other member => awaited_of_ok (sends other member), ?_⟩
  intro place before after here later
  rw [goes.sends] at later
  rcases Slots.of_set later with ⟨rfl, rfl⟩ | ⟨-, same⟩
  · cases goes.found.symm.trans here
    exact goes.retries
  · cases here.symm.trans same
    exact retries_self

theorem goes_set (found : s.sends[index]? = some send) (ok : SendOk s.pool next)
    (retries : Retries s.pool send next) : Goes s (s.set index next) index send next :=
  ⟨found, rfl, .inl rfl, ok, retries⟩

theorem goes_phase (found : s.sends[index]? = some send) (ok : SendOk s.pool send) {phase : SendPhase}
    (phaseOk : PhaseOk s.pool { send with phase := phase }) (other : phase ≠ .borrowing) :
    Goes s (s.set index { send with phase := phase }) index send { send with phase := phase } :=
  goes_set found ⟨ok.seen, ok.since, phaseOk⟩ fun _ _ again => absurd again other

theorem goes_evict {connType : ConnType} {wire : Wire} (found : s.sends[index]? = some send) (ok : SendOk s.pool send)
    (held : Held s.pool send connType wire) (named : wire.identity.isSome = true) :
    ∃ next, Goes s (s.evict index send connType wire) index send next := by
  obtain ⟨identity, own⟩ := Option.isSome_iff_exists.mp named
  have evicted : s.evict index send connType wire =
      { s.set index { send with phase := .evicting s.pool.processes.length } with
        pool := s.pool.start (.markingIfSame connType identity) } := by
    simp only [DestTransport.evict, own]
  rw [evicted]
  refine ⟨_, found, rfl, .inr ⟨.markConnectionClosedIfSame connType identity, .started rfl rfl rfl⟩, ?_,
    fun _ _ again => by cases again⟩
  refine ⟨ok.seen, ok.since, .markingIfSame connType identity, List.getElem?_concat_length, ?_⟩
  rcases held with slot | counted
  · exact .inr ⟨connType, wire, identity, rfl, own, slot⟩
  · exact .inl counted

theorem goes_gotLane (ok : DestOk s) (found : s.sends[index]? = some send)
    (taken : s.gotLane index send outcome = some t) (healing : heals s (.gotLane index outcome) = true) :
    ∃ next, Goes s t index send next := by
  have sendOk := ok.sends send (List.mem_of_getElem? found)
  have phase := sendOk.phase
  unfold PhaseOk at phase
  unfold DestTransport.gotLane at taken
  split at taken
  · next connType wire rest _ getting =>
    rw [getting] at phase
    cases taken
    exact ⟨_, goes_phase found sendOk phase (by simp)⟩
  · next connType wire rest error getting =>
    rw [getting] at phase
    simp only [heals, found, Option.map_some, getting, Bool.and_eq_true] at healing
    rw [if_pos healing.1] at taken
    cases taken
    exact goes_evict found sendOk phase healing.2
  · cases taken
    exact ⟨_, goes_phase found sendOk trivial (by simp)⟩
  · next connType wire error regetting =>
    rw [regetting] at phase
    simp only [heals, found, Option.map_some, regetting, Bool.or_eq_true, Bool.not_eq_eq_eq_not, Bool.not_true]
      at healing
    split at taken
    · next stale =>
      cases taken
      exact goes_evict found sendOk phase (healing.resolve_left (by simp [stale]))
    · cases taken
      exact ⟨_, goes_phase found sendOk trivial (by simp)⟩
  · cases taken

theorem goes_sent (ok : DestOk s) (found : s.sends[index]? = some send)
    (taken : s.sent index send outcome = some t) : ∃ next, Goes s t index send next := by
  have sendOk := ok.sends send (List.mem_of_getElem? found)
  have phase := sendOk.phase
  unfold PhaseOk at phase
  unfold DestTransport.sent at taken
  split at taken
  · cases taken
    exact ⟨_, goes_phase found sendOk trivial (by simp)⟩
  · next connType wire error sending =>
    rw [sending] at phase
    cases taken
    split
    · exact ⟨_, goes_phase found sendOk phase (by simp)⟩
    · exact ⟨_, goes_phase found sendOk trivial (by simp)⟩
  · cases taken
    exact ⟨_, goes_phase found sendOk trivial (by simp)⟩
  · cases taken

theorem waits_step (ok : DestOk s) (healing : heals s action = true) (taken : s.step action = some t) :
    DestOk t ∧ Waits s t := by
  cases action with
  | pool =>
    obtain ⟨pool, moved, rfl⟩ := Option.map_eq_some_iff.mp taken
    have step := poolStep_step moved
    have sends : ∀ send ∈ s.sends, SendOk pool send := fun send member => sendOk_pool step (ok.sends send member)
    refine ⟨⟨poolOk_step ok.pool step, sends⟩, fun send member => awaited_of_ok (sends send member), ?_⟩
    intro index before after here later
    cases here.symm.trans later
    exact retries_self
  | send payloadType =>
    cases taken
    have fresh : SendOk s.pool (DestTransport.sendWithIdentity payloadType) := by
      refine ⟨Nat.zero_le _, Nat.zero_le _, ?_⟩
      cases payloadType <;> trivial
    have sends : ∀ send ∈ s.sends ++ [DestTransport.sendWithIdentity payloadType], SendOk s.pool send := by
      intro send member
      rcases Slots.mem_snoc member with old | rfl
      · exact ok.sends send old
      · exact fresh
    refine ⟨⟨ok.pool, sends⟩, fun send member => awaited_of_ok (sends send member), ?_⟩
    intro index before after here later
    cases (Slots.snoc here).symm.trans later
    exact retries_self
  | advance =>
    obtain ⟨send, found, taken⟩ := Option.bind_eq_some_iff.mp taken
    obtain ⟨next, moved, same⟩ := Option.bind_eq_some_iff.mp taken
    cases same
    obtain ⟨after, retries⟩ := advance_ok ok.pool (ok.sends send (List.mem_of_getElem? found)) moved
    exact (goes_set found after retries).kept ok
  | gotLane =>
    obtain ⟨send, found, taken⟩ := Option.bind_eq_some_iff.mp taken
    obtain ⟨next, goes⟩ := goes_gotLane ok found taken healing
    exact goes.kept ok
  | sent =>
    obtain ⟨send, found, taken⟩ := Option.bind_eq_some_iff.mp taken
    obtain ⟨next, goes⟩ := goes_sent ok found taken
    exact goes.kept ok

end Runs

theorem sends_wait_for_what_can_come (maxAttempts : Nat) (actions : List DestTransport.Action)
    (healing : Along DestTransport.step (fun s action _ => heals s action = true) (.new maxAttempts) actions) :
    Along DestTransport.step (fun s _ t => Waits s t) (.new maxAttempts) actions := by
  have start : DestOk (.new maxAttempts) := ⟨poolOk_new maxAttempts, fun _ member => by cases member⟩
  refine along_of_guarded start ?_ healing
  intro s action t ok healing taken
  exact (waits_step ok healing taken).symm

def readyWire (wire : Wire) : List DestTransport.Action :=
  (.addConnection wire :: .advance 0 :: establishes).map .pool

def sessionWire : Wire := ⟨.webRtc, some (.webRtc ⟨⟨1⟩, 7, ⟨"acme", "echo", "1"⟩⟩ 1)⟩

def evictsAndWaits : List DestTransport.Action :=
  readyWire sessionWire ++ [.pool (.addConnection ⟨.webSocket, none⟩), .send .rpcReliable, .advance 0, .advance 0,
    .gotLane 0 (.error (.dataChannelClosed "")), .pool (.advance 2), .pool (.advance 2), .pool (.advance 2),
    .advance 0, .advance 0, .advance 0, .advance 0, .advance 0, .advance 0, .advance 0]

theorem sends_wait_for_what_can_come_of_one :
    Along DestTransport.step (fun s action _ => heals s action = true) (.new 3) evictsAndWaits ∧
      Along DestTransport.step (fun s _ t => Waits s t) (.new 3) evictsAndWaits ∧
      ∃ s, exec DestTransport.step (.new 3) evictsAndWaits = some s ∧ s.sends.map Send.phase = [.waiting] := by
  have healing : Along DestTransport.step (fun s action _ => heals s action = true) (.new 3) evictsAndWaits := by
    decide +kernel
  exact ⟨healing, sends_wait_for_what_can_come 3 evictsAndWaits healing, exec_of_any (by decide +kernel)⟩

def waitsForNothing : List DestTransport.Action :=
  readyWire ⟨.webSocket, none⟩ ++ [.send .rpcReliable, .advance 0, .advance 0, .advance 0,
    .gotLane 0 (.error (.webSocketClosed "WebSocket connection closed")), .advance 0, .advance 0, .advance 0]

def repeatsRound : List DestTransport.Action :=
  readyWire ⟨.webRtc, none⟩ ++ [.send .rpcReliable, .advance 0, .advance 0, .gotLane 0 (.error (.dataChannelClosed "")),
    .advance 0, .advance 0, .gotLane 0 (.error (.dataChannelClosed ""))]

theorem send_waits_for_nothing :
    (∃ s, exec DestTransport.step (.new 3) waitsForNothing = some s ∧ s.sends.map Send.phase = [.waiting] ∧
      s.pool.processes.all isReturned = true ∧ s.sends.map Send.seen = [s.pool.version]) ∧
    ∃ s, exec DestTransport.step (.new 3) repeatsRound = some s ∧ s.sends.map Send.phase = [.borrowing] ∧
      s.pool.changes = 2 ∧ s.sends.map Send.since = [2] := by
  exact ⟨exec_of_any (by decide +kernel), exec_of_any (by decide +kernel)⟩

end Actr.Proof.Transport
