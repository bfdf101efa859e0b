import Actr.Hyper.Outbound.PeerGate
import Actr.Library.Maps

/-! # The table of pending requests -/

namespace Actr.Proof.Outbound
open Actr.Protocol Hyper.Wire Hyper.Outbound PeerGate Library.Machine
  Actr.Library

variable {action : Action} {inbound : Inbound}

def IsResponse (envelope : RpcEnvelope) : Prop := envelope.direction = some Direction.response.toInt
  deriving Decidable

def inconsistentText : Reader → String
  | .webRtcGate | .webSocketGate => gateInconsistent
  | .clientWebSocketHandle => ClientWebSocketHandle.inconsistent

def inboundResult (inbound : Inbound) : ActorResult Bytes :=
  responseResult (inconsistentText inbound.reader) inbound.envelope

theorem tryFrom_response {raw : Int} : Direction.tryFrom raw = some .response ↔ raw = Direction.response.toInt := by
  unfold Direction.tryFrom
  constructor
  · intro known
    split at known <;> cases known
    rfl
  · rintro rfl
    rfl

theorem directionForRouting_response {direction : Option Int} :
    directionForRouting direction = .ok .response ↔ direction = some Direction.response.toInt := by
  constructor
  · intro routed
    cases direction with
    | none => cases routed
    | some raw =>
      cases known : Direction.tryFrom raw with
      | none => simp [directionForRouting, known] at routed
      | some direction =>
        cases direction with
        | response => rw [tryFrom_response.mp known]
        | unspecified | request | tell => simp [directionForRouting, known] at routed
  · rintro rfl
    rfl

theorem isResponseEnvelope_iff {envelope : RpcEnvelope} :
    ClientWebSocketHandle.isResponseEnvelope envelope = true ↔ IsResponse envelope := by
  unfold ClientWebSocketHandle.isResponseEnvelope IsResponse
  cases envelope.direction with
  | none => simp
  | some raw =>
    rw [Option.some.injEq, ← tryFrom_response]
    cases known : Direction.tryFrom raw with
    | none => simp [known]
    | some direction => cases direction <;> simp [known]

theorem handleEnvelope_response (response : IsResponse inbound.envelope) (pending : PendingRequestsMap) :
    handleEnvelope inbound pending = matchResponse (inconsistentText inbound.reader) inbound.envelope pending := by
  have routed := directionForRouting_response.mpr response
  unfold handleEnvelope
  cases inbound.reader with
  | webRtcGate => simp only [WebRtcGate.handleEnvelope, routeEnvelope, routed, inconsistentText]
  | webSocketGate => simp only [WebSocketGate.handleEnvelope, routeEnvelope, routed, inconsistentText]
  | clientWebSocketHandle =>
    simp only [ClientWebSocketHandle.readResponse, isResponseEnvelope_iff.mpr response, if_true, inconsistentText]

theorem handleEnvelope_other (other : ¬IsResponse inbound.envelope) (pending : PendingRequestsMap) :
    (handleEnvelope inbound pending).1 = pending ∧
      ∀ responseTx result, (handleEnvelope inbound pending).2 ≠ .wake responseTx result := by
  have gates (priority : PayloadType → MessagePriority) :
      (routeEnvelope priority inbound.envelope inbound.payloadType pending).1 = pending ∧
        ∀ responseTx result,
          (routeEnvelope priority inbound.envelope inbound.payloadType pending).2 ≠ .wake responseTx result := by
    unfold routeEnvelope
    split
    · exact ⟨rfl, nofun⟩
    · rename_i routed
      exact absurd (directionForRouting_response.mp routed) other
    · exact ⟨rfl, nofun⟩
  unfold handleEnvelope
  cases inbound.reader with
  | webRtcGate | webSocketGate => exact gates _
  | clientWebSocketHandle =>
    have ignored : ClientWebSocketHandle.isResponseEnvelope inbound.envelope = false :=
      Bool.eq_false_iff.mpr fun accepted => other (isResponseEnvelope_iff.mp accepted)
    simp [ClientWebSocketHandle.readResponse, ignored]

def Delivered (s : PeerGate) (call : Call) (result : ActorResult Bytes) : Prop :=
  (∃ inbound ∈ s.handled, IsResponse inbound.envelope ∧
    inbound.envelope.requestId = call.envelope.requestId ∧ result = inboundResult inbound) ∨
  (call.target ∈ s.swept ∧ result = .error connectionClosed)

def Waits (calls : List Call) (id : String) (request : PendingRequest) : Prop :=
  ∃ call, calls[request.responseTx]? = some call ∧ call.envelope.requestId = id ∧
    call.target = request.target ∧ call.response = .empty ∧ call.phase ≠ .preflight ∧ call.phase ≠ .registering

def CallHolds (s : PeerGate) (call : Call) : Prop :=
  (call.phase = .preflight ∨ call.phase = .registering → call.response = .empty) ∧
  (∀ result, call.response = .sent result → Delivered s call result) ∧
  ∀ payload, call.phase = .cleaning (.ok payload) ∨ call.phase = .returned (.ok payload) →
    call.response = .sent (.ok payload)

structure Sound (s : PeerGate) : Prop where
  waits : ∀ id request, s.pendingRequests.lookup id = some request → Waits s.calls id request
  calls : ∀ (index : Nat) call, s.calls[index]? = some call → CallHolds s call

section Preservation

variable {s t : PeerGate} {call : Call} {id : String} {request : PendingRequest} {index : Nat}

theorem delivered_mono {result : ActorResult Bytes} (handled : s.handled ⊆ t.handled) (swept : s.swept ⊆ t.swept)
    (delivered : Delivered s call result) : Delivered t call result := by
  rcases delivered with ⟨inbound, member, response⟩ | ⟨member, failed⟩
  · exact .inl ⟨inbound, handled member, response⟩
  · exact .inr ⟨swept member, failed⟩

theorem callHolds_mono (handled : s.handled ⊆ t.handled) (swept : s.swept ⊆ t.swept) (holds : CallHolds s call) :
    CallHolds t call :=
  ⟨holds.1, fun result sent => delivered_mono handled swept (holds.2.1 result sent), holds.2.2⟩

theorem sound_frame (sound : Sound s) (pending : t.pendingRequests = s.pendingRequests) (calls : t.calls = s.calls)
    (handled : s.handled ⊆ t.handled) (swept : s.swept ⊆ t.swept) : Sound t := by
  constructor
  · rw [pending, calls]
    exact sound.waits
  · rw [calls]
    exact fun index call found => callHolds_mono handled swept (sound.calls index call found)

theorem sound_take {use : Oneshot → Oneshot} (sound : Sound s) (found : s.pendingRequests.lookup id = some request)
    (pending : t.pendingRequests = s.pendingRequests.erase id)
    (calls : t.calls = s.calls.modify request.responseTx fun call => { call with response := use call.response })
    (handled : s.handled ⊆ t.handled) (swept : s.swept ⊆ t.swept)
    (delivers : ∀ call result, call.envelope.requestId = id → call.target = request.target → use .empty = .sent result → Delivered t call result) :
    Sound t := by
  -- An entry is taken out of the table and its channel is used up, by a value or by dropping the sender.
  obtain ⟨waiting, listed, itsId, itsTarget, empty, started⟩ := sound.waits id request found
  constructor
  · intro other entry present
    rw [pending] at present
    obtain ⟨different, present⟩ := Maps.of_lookup_erase present
    obtain ⟨call, stored, callId, rest⟩ := sound.waits other entry present
    refine ⟨call, ?_, callId, rest⟩
    rw [calls, Slots.modify_other, stored]
    intro same
    rw [same] at listed
    cases listed.symm.trans stored
    exact different (callId.symm.trans itsId)
  · intro index call stored
    rw [calls] at stored
    obtain ⟨before, old, ⟨rfl, rfl⟩ | ⟨-, rfl⟩⟩ := Slots.of_modify stored
    · cases listed.symm.trans old
      have holds := sound.calls _ _ listed
      refine ⟨?_, ?_, ?_⟩
      · rintro (early | early)
        · exact absurd early started.1
        · exact absurd early started.2
      · intro result sent
        rw [empty] at sent
        exact delivers _ result itsId itsTarget sent
      · intro payload finished
        cases empty.symm.trans (holds.2.2 payload finished)
    · exact callHolds_mono handled swept (sound.calls index call old)

theorem sound_remove (sound : Sound s) (id : String) : Sound (s.removePending id) := by
  unfold removePending
  cases found : s.pendingRequests.lookup id with
  | none =>
    constructor
    · intro other entry present
      exact sound.waits other entry (Maps.of_lookup_erase present).2
    · exact sound.calls
  | some =>
    refine sound_take sound found rfl rfl (List.Subset.refl _) (List.Subset.refl _) ?_
    intro call result _ _ sent
    cases sent

theorem sound_fail (sound : Sound s)
    (closing : ∀ request, s.pendingRequests.lookup id = some request → request.target ∈ s.swept) :
    Sound (s.failPending id) := by
  unfold failPending
  cases found : s.pendingRequests.lookup id with
  | none => exact sound
  | some request =>
    refine sound_take sound found rfl rfl (List.Subset.refl _) (List.Subset.refl _) ?_
    intro call result _ target sent
    cases sent
    exact .inr ⟨target ▸ closing request found, rfl⟩

theorem sound_fail_all {peer : ActrId} (keys : List String) (sound : Sound s) (swept : peer ∈ s.swept)
    (closing : ∀ id ∈ keys, ∀ request, s.pendingRequests.lookup id = some request → request.target = peer) :
    Sound (keys.foldl failPending s) := by
  -- The table before the round is part of the table before the loop, so its targets stay those of the swept
  -- peer.
  induction keys generalizing s with
  | nil => exact sound
  | cons key rest ih =>
    apply ih
    · apply sound_fail sound
      intro request found
      rw [closing key List.mem_cons_self request found]
      exact swept
    · unfold failPending
      split <;> exact swept
    · intro id member request found
      refine closing id (List.mem_cons_of_mem _ member) request ?_
      unfold failPending at found
      split at found
      · exact (Maps.of_lookup_erase found).2
      · exact found

theorem sound_sweep (sound : Sound s) (peer : ActrId) : Sound (s.sweep peer) := by
  refine @sound_fail_all { s with swept := peer :: s.swept } peer _ ?_ List.mem_cons_self ?_
  · exact sound_frame sound rfl rfl (List.Subset.refl _) (List.subset_cons_self _ _)
  · intro id member request found
    obtain ⟨entry, stored, chosen⟩ := List.mem_filterMap.mp member
    split at chosen
    · cases chosen
      rename_i target
      rw [AList.mem_lookup_iff.mpr stored] at found
      cases found
      exact target
    · cases chosen

/-! A response wakes the call of its id; everything else only reaches the mailbox or the log. -/

theorem receive_woken {stored : Bool} (response : IsResponse inbound.envelope)
    (found : s.pendingRequests.lookup inbound.envelope.requestId = some request) :
    s.receive inbound stored =
      { s with
        pendingRequests := s.pendingRequests.erase inbound.envelope.requestId
        calls := s.calls.modify request.responseTx fun call =>
          { call with response := call.response.send (inboundResult inbound) }
        handled := inbound :: s.handled } := by
  simp only [receive, handleEnvelope_response response, matchResponse, found]
  rfl

theorem receive_quiet (inbound : Inbound) (stored : Bool)
    (quiet : IsResponse inbound.envelope → s.pendingRequests.lookup inbound.envelope.requestId = none) :
    ∃ mailbox, s.receive inbound stored = { s with mailbox := mailbox, handled := inbound :: s.handled } := by
  by_cases response : IsResponse inbound.envelope
  · exact ⟨s.mailbox, by simp only [receive, handleEnvelope_response response, matchResponse, quiet response]⟩
  · obtain ⟨kept, nobody⟩ := handleEnvelope_other response s.pendingRequests
    unfold receive
    cases outcome : handleEnvelope inbound s.pendingRequests with
    | mk pending routed =>
      rw [outcome] at kept nobody
      subst kept
      cases routed with
      | invalid | orphan | notResponse => exact ⟨_, rfl⟩
      | enqueue => cases stored <;> exact ⟨_, rfl⟩
      | wake responseTx result => exact absurd rfl (nobody responseTx result)

theorem receive_cases (inbound : Inbound) (stored : Bool) :
    (∃ mailbox, (IsResponse inbound.envelope → s.pendingRequests.lookup inbound.envelope.requestId = none) ∧
        s.receive inbound stored = { s with mailbox := mailbox, handled := inbound :: s.handled }) ∨
      ∃ request, IsResponse inbound.envelope ∧
        s.pendingRequests.lookup inbound.envelope.requestId = some request ∧
        s.receive inbound stored =
          { s with
            pendingRequests := s.pendingRequests.erase inbound.envelope.requestId
            calls := s.calls.modify request.responseTx fun call =>
              { call with response := call.response.send (inboundResult inbound) }
            handled := inbound :: s.handled } := by
  by_cases quiet : IsResponse inbound.envelope → s.pendingRequests.lookup inbound.envelope.requestId = none
  · obtain ⟨mailbox, result⟩ := receive_quiet inbound stored quiet
    exact .inl ⟨mailbox, quiet, result⟩
  · obtain ⟨response, present⟩ := Classical.not_imp.mp quiet
    obtain ⟨request, found⟩ := Option.ne_none_iff_exists'.mp present
    exact .inr ⟨request, response, found, receive_woken response found⟩

theorem sound_receive (sound : Sound s) (inbound : Inbound) (stored : Bool) : Sound (s.receive inbound stored) := by
  rcases receive_cases inbound stored with ⟨mailbox, -, result⟩ | ⟨request, response, found, result⟩
  · rw [result]
    exact sound_frame sound rfl rfl (List.subset_cons_self _ _) (List.Subset.refl _)
  · rw [result]
    refine sound_take sound found rfl rfl (List.subset_cons_self _ _) (List.Subset.refl _) ?_
    intro call result id _ sent
    cases sent
    exact .inl ⟨inbound, List.mem_cons_self, response, id.symm, rfl⟩

structure Advances (call : Call) (phase : CallPhase) : Prop where
  forward : phase ≠ .preflight
  registering : phase = .registering → call.phase = .preflight
  result : ∀ payload, phase = .cleaning (.ok payload) ∨ phase = .returned (.ok payload) →
    call.response = .sent (.ok payload)

theorem sound_setPhase {phase : CallPhase} (sound : Sound s) (found : s.calls[index]? = some call)
    (advances : Advances call phase) : Sound (s.setPhase index phase) := by
  obtain ⟨forward, registering, result⟩ := advances
  have holds := sound.calls index call found
  constructor
  · intro id request present
    obtain ⟨waiting, listed, itsId, itsTarget, empty, started⟩ := sound.waits id request present
    by_cases same : index = request.responseTx
    · subst same
      cases found.symm.trans listed
      refine ⟨_, Slots.modify_self found, itsId, itsTarget, empty, forward, ?_⟩
      intro early
      exact started.1 (registering early)
    · exact ⟨waiting, (Slots.modify_other same).trans listed, itsId, itsTarget, empty, started⟩
  · intro other moved stored
    obtain ⟨before, old, ⟨rfl, rfl⟩ | ⟨-, rfl⟩⟩ := Slots.of_modify stored
    · cases found.symm.trans old
      refine ⟨?_, holds.2.1, result⟩
      rintro (early | early)
      · exact absurd early forward
      · exact holds.1 (.inl (registering early))
    · exact sound.calls other moved old

theorem dropResponseTx_getElem? (found : s.calls[index]? = some call) (request : Option PendingRequest) :
    ∃ response, (response = call.response ∨ response = call.response.dropSender) ∧
      (s.dropResponseTx request).calls[index]? = some { call with response := response } := by
  cases request with
  | none => exact ⟨call.response, .inl rfl, found⟩
  | some request =>
    by_cases same : request.responseTx = index
    · subst same
      exact ⟨_, .inr rfl, Slots.modify_self found⟩
    · exact ⟨call.response, .inl rfl, (Slots.modify_other same).trans found⟩

theorem removePending_getElem? (found : s.calls[index]? = some call) (id : String) :
    ∃ response, (s.removePending id).calls[index]? = some { call with response := response } := by
  obtain ⟨response, -, kept⟩ := dropResponseTx_getElem? found (s.pendingRequests.lookup id)
  exact ⟨response, kept⟩

theorem sound_insert {pending : PendingRequestsMap} (sound : Sound s) (waits : Waits s.calls id request)
    (others : ∀ other, other ≠ id → pending.lookup other = s.pendingRequests.lookup other)
    (own : pending.lookup id = some request) : Sound { s with pendingRequests := pending } := by
  constructor
  · intro other entry present
    by_cases same : other = id
    · subst same
      cases own.symm.trans present
      exact waits
    · exact sound.waits other entry ((others other same).symm.trans present)
  · exact sound.calls

theorem sound_register (sound : Sound s) (found : s.calls[index]? = some call)
    (registering : call.phase = .registering) :
    Sound ((s.insertPending call.envelope.requestId ⟨call.target, index⟩).setPhase index .sending) := by
  -- Registering first drops whoever waits under the same id, then takes the place.
  have removed := sound_remove sound call.envelope.requestId
  obtain ⟨response, kept⟩ := removePending_getElem? found call.envelope.requestId
  have empty := (removed.calls index _ kept).1 (.inr registering)
  have started : Sound ((s.removePending call.envelope.requestId).setPhase index .sending) :=
    sound_setPhase removed kept ⟨nofun, nofun, nofun⟩
  have waits : Waits ((s.removePending call.envelope.requestId).setPhase index .sending).calls
      call.envelope.requestId ⟨call.target, index⟩ :=
    ⟨_, Slots.modify_self kept, rfl, rfl, empty, nofun, nofun⟩
  refine sound_insert started waits ?_ ?_
  · intro other different
    exact (AList.lookup_insert_ne different).trans (AList.lookup_erase_ne different).symm
  · exact AList.lookup_insert s.pendingRequests

def inProgress : CallPhase → Bool
  | .returned _ | .dropped => false
  | _ => true

def Moves (action : Action) (index : Nat) (call : Call) (phase : CallPhase) : Prop :=
  inProgress phase = true ∨ call.phase = .preflight ∨ call.response ≠ .empty ∨ action = .drop index

def callOf : Action → Option Nat
  | .request _ _ _ | .inbound _ _ | .closed _ => none
  | .preflighted index _ | .register index | .sent index _ | .receive index | .deadline index | .cleanup index
  | .drop index => some index

inductive GateStep (s : PeerGate) : Action → PeerGate → Prop
  | started (target : ActrId) (payloadType : PayloadType) (envelope : RpcEnvelope) :
      GateStep s (.request target payloadType envelope) (s.request target payloadType envelope)
  | moved {action : Action} (index : Nat) (call : Call) (phase : CallPhase) (found : s.calls[index]? = some call)
      (own : callOf action = some index) (advances : Advances call phase) (moves : Moves action index call phase) :
      GateStep s action (s.setPhase index phase)
  | registered (index : Nat) (call : Call) (found : s.calls[index]? = some call)
      (registering : call.phase = .registering) : GateStep s (.register index)
        ((s.insertPending call.envelope.requestId ⟨call.target, index⟩).setPhase index .sending)
  | cleaned (index : Nat) (call : Call) (result : ActorResult Bytes) (found : s.calls[index]? = some call)
      (cleaning : call.phase = .cleaning result) :
      GateStep s (.cleanup index) ((s.removePending call.envelope.requestId).setPhase index (.returned result))
  | received (inbound : Inbound) (stored : Bool) : GateStep s (.inbound inbound stored) (s.receive inbound stored)
  | swept (peer : ActrId) : GateStep s (.closed peer) (s.sweep peer)

theorem gateStep_resume (found : s.calls[index]? = some call) (own : callOf action = some index)
    (resumed : s.resume index call action = some t) : GateStep s action t := by
  have moved {phase : CallPhase} (advances : Advances call phase) (moves : Moves action index call phase) :
      GateStep s action (s.setPhase index phase) := .moved index call phase found own advances moves
  cases action with
  | request | inbound | closed => cases own
  | preflighted number outcome =>
    obtain ⟨preflight, rfl⟩ := of_guard resumed
    cases outcome <;> exact moved ⟨nofun, fun _ => preflight, nofun⟩ (.inr (.inl preflight))
  | register =>
    cases own
    obtain ⟨registering, rfl⟩ := of_guard resumed
    exact .registered index call found registering
  | sent number outcome =>
    obtain ⟨-, rfl⟩ := of_guard resumed
    cases outcome <;> exact moved ⟨nofun, nofun, nofun⟩ (.inl rfl)
  | receive number =>
    simp only [resume, Option.ite_none_right_eq_some] at resumed
    obtain ⟨-, resumed⟩ := resumed
    cases response : call.response with
    | empty => simp [response] at resumed
    | sent result =>
      simp only [response, Option.some.injEq] at resumed
      subst resumed
      have answered : Moves (.receive number) index call (afterResult result) := .inr (.inr (.inl (by simp [response])))
      cases result with
      | ok =>
        refine moved ⟨nofun, nofun, ?_⟩ answered
        rintro _ (finished | finished) <;> cases finished
        exact response
      | error => exact moved ⟨nofun, nofun, nofun⟩ answered
    | closed =>
      simp only [response, Option.some.injEq] at resumed
      subst resumed
      exact moved ⟨nofun, nofun, nofun⟩ (.inl rfl)
  | deadline =>
    obtain ⟨-, rfl⟩ := of_guard resumed
    exact moved ⟨nofun, nofun, nofun⟩ (.inl rfl)
  | cleanup =>
    cases own
    simp only [resume] at resumed
    split at resumed <;> cases resumed
    next result cleaning => exact .cleaned index call result found cleaning
  | drop =>
    cases own
    simp only [resume] at resumed
    split at resumed <;> cases resumed
    exact moved ⟨nofun, nofun, nofun⟩ (.inr (.inr (.inr rfl)))

theorem gateStep_step (taken : step s action = some t) : GateStep s action t := by
  cases action with
  | request target payloadType envelope =>
    cases taken
    exact .started target payloadType envelope
  | inbound inbound stored =>
    cases taken
    exact .received inbound stored
  | closed peer =>
    cases taken
    exact .swept peer
  | _ =>
    simp only [step] at taken
    split at taken
    · next found => exact gateStep_resume found rfl taken
    · cases taken

theorem sound_cleanup {result : ActorResult Bytes} (sound : Sound s) (found : s.calls[index]? = some call)
    (cleaning : call.phase = .cleaning result) :
    Sound ((s.removePending call.envelope.requestId).setPhase index (.returned result)) := by
  have removed := sound_remove sound call.envelope.requestId
  obtain ⟨response, kept⟩ := removePending_getElem? found call.envelope.requestId
  refine sound_setPhase removed kept ⟨nofun, nofun, ?_⟩
  rintro payload (finished | finished) <;> cases finished
  exact (removed.calls index _ kept).2.2 payload (.inl cleaning)

theorem sound_request (sound : Sound s) (target : ActrId) (payloadType : PayloadType) (envelope : RpcEnvelope) :
    Sound (s.request target payloadType envelope) := by
  constructor
  · intro id request present
    obtain ⟨call, listed, rest⟩ := sound.waits id request present
    exact ⟨call, Slots.snoc listed, rest⟩
  · intro index call stored
    rcases Slots.of_snoc stored with old | ⟨-, rfl⟩
    · exact sound.calls index call old
    · refine ⟨fun _ => rfl, nofun, ?_⟩
      intro payload finished
      split at finished <;> simp at finished

theorem sound_step (sound : Sound s) (taken : step s action = some t) : Sound t := by
  cases gateStep_step taken with
  | started target payloadType envelope => exact sound_request sound target payloadType envelope
  | moved index call phase found own advances => exact sound_setPhase sound found advances
  | registered index call found registering => exact sound_register sound found registering
  | cleaned index call result found cleaning => exact sound_cleanup sound found cleaning
  | received inbound stored => exact sound_receive sound inbound stored
  | swept peer => exact sound_sweep sound peer

theorem sound_reachable (reachable : Reachable step .initial s) : Sound s := by
  apply reachable.invariant
  · constructor
    · intro id request present
      cases present
    · intro index call found
      cases found
  · intro before action after sound taken
    exact sound_step sound taken

end Preservation

end Actr.Proof.Outbound
