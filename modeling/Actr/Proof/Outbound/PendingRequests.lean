import Actr.Proof.Outbound.ResponseMatching

/-! # When entries of pending requests go away -/

namespace Actr.Proof.Outbound
open Actr.Protocol Hyper.Wire Hyper.Outbound PeerGate Library.Machine
  Actr.Library

def Tidy (s : PeerGate) : Prop :=
  ∀ id request, s.pendingRequests.lookup id = some request → ∃ call, s.calls[request.responseTx]? = some call ∧
    call.envelope.requestId = id ∧ inProgress call.phase = true

def dropsPending (s : PeerGate) : Action → Bool
  | .drop index =>
    s.calls[index]?.any fun call =>
      (s.pendingRequests.lookup call.envelope.requestId).any (·.responseTx = index)
  | _ => false

/-- The result that a step delivers for an id: the content of a response, or the error of the sweep. -/
def delivered (s : PeerGate) (id : String) : Action → Option (ActorResult Bytes)
  | .inbound inbound _ =>
    if IsResponse inbound.envelope ∧ inbound.envelope.requestId = id ∧ (s.pendingRequests.lookup id).isSome then
      some (inboundResult inbound)
    else none
  | .closed peer =>
    if (s.pendingRequests.lookup id).any (·.target = peer) then some (.error connectionClosed) else none
  | _ => none

def deliveries (id : String) : PeerGate → List Action → List (ActorResult Bytes)
  | _, [] => []
  | s, action :: rest =>
    match step s action with
    | some t => (delivered s id action).toList ++ deliveries id t rest
    | none => []

def requestId? : Action → Option String
  | .request _ _ envelope => some envelope.requestId
  | _ => none

def requestIds (actions : List Action) : List String := actions.filterMap requestId?

section Steps

variable {s t : PeerGate} {index : Nat} {call : Call} {action : Action}
variable {id key : String} {request : PendingRequest} {result : ActorResult Bytes} {actions : List Action}

theorem quiet_callOf (own : callOf action = some index) : requestId? action = none ∧ ∀ id, delivered s id action = none := by
  cases action with
  | request | inbound | closed => cases own
  | _ => exact ⟨rfl, fun _ => rfl⟩

structure Shrinks (s t : PeerGate) : Prop where
  entries : ∀ id request, t.pendingRequests.lookup id = some request → s.pendingRequests.lookup id = some request
  calls : ∀ (index : Nat) (call : Call), s.calls[index]? = some call →
    ∃ response, t.calls[index]? = some { call with response := response }

theorem shrinks_removePending (id : String) : Shrinks s (s.removePending id) where
  entries := fun _ _ present => (Maps.of_lookup_erase present).2
  calls := fun _ _ found => removePending_getElem? found id

def Failed (s : PeerGate) (keys : List String) (index : Nat) : Prop :=
  ∃ id ∈ keys, ∃ request, s.pendingRequests.lookup id = some request ∧ request.responseTx = index

theorem send_send (result : ActorResult Bytes) (response : Oneshot) :
    (response.send result).send result = response.send result := by
  cases response <;> rfl

theorem calls_failPending (present : s.pendingRequests.lookup key = some request) :
    (s.failPending key).calls = s.calls.modify request.responseTx fun call =>
      { call with response := call.response.send (.error connectionClosed) } := by
  unfold failPending
  rw [present]
  rfl

theorem pending_failPending (present : s.pendingRequests.lookup key = some request) :
    (s.failPending key).pendingRequests = s.pendingRequests.erase key := by
  unfold failPending
  rw [present]

theorem failPending_absent (absent : s.pendingRequests.lookup key = none) : s.failPending key = s := by
  unfold failPending
  rw [absent]

theorem failed_cons_other {rest : List String} (present : s.pendingRequests.lookup key = some request)
    (other : request.responseTx ≠ index) : Failed s (key :: rest) index ↔ Failed (s.failPending key) rest index := by
  unfold Failed
  rw [pending_failPending present]
  constructor
  · rintro ⟨id, member, waiting, found, here⟩
    have different : id ≠ key := by
      rintro rfl
      cases present.symm.trans found
      exact other here
    refine ⟨id, (List.mem_cons.mp member).resolve_left different, waiting, ?_, here⟩
    rw [AList.lookup_erase_ne different, found]
  · rintro ⟨id, member, waiting, found, here⟩
    exact ⟨id, List.mem_cons_of_mem _ member, waiting, (Maps.of_lookup_erase found).2, here⟩

theorem calls_failAll (keys : List String) (found : s.calls[index]? = some call) :
    (Failed s keys index → (keys.foldl failPending s).calls[index]? =
      some { call with response := call.response.send (.error connectionClosed) }) ∧
    (¬Failed s keys index → (keys.foldl failPending s).calls[index]? = some call) := by
  induction keys generalizing s call with
  | nil => exact ⟨fun failed => by simp [Failed] at failed, fun _ => found⟩
  | cons key rest ih =>
    rw [List.foldl_cons]
    cases present : s.pendingRequests.lookup key with
    | none =>
      rw [failPending_absent present]
      have same : Failed s (key :: rest) index ↔ Failed s rest index := by
        simp [Failed, present]
      rw [same]
      exact ih found
    | some request =>
      by_cases here : request.responseTx = index
      · subst here
        have sent := calls_failPending present ▸ Slots.modify_self found
        refine ⟨fun _ => ?_, fun spared => absurd ⟨key, List.mem_cons_self, request, present, rfl⟩ spared⟩
        by_cases again : Failed (s.failPending key) rest request.responseTx
        · rw [(ih sent).1 again, send_send]
        · exact (ih sent).2 again
      · rw [failed_cons_other present here]
        exact ih (calls_failPending present ▸ (Slots.modify_other here).trans found)

theorem shrinks_failAll (keys : List String) : Shrinks s (keys.foldl failPending s) := by
  constructor
  · induction keys generalizing s with
    | nil => exact fun _ _ => id
    | cons key rest ih =>
      intro id other found
      have middle := ih id other found
      cases present : s.pendingRequests.lookup key with
      | none => rwa [failPending_absent present] at middle
      | some =>
        rw [pending_failPending present] at middle
        exact (Maps.of_lookup_erase middle).2
  · intro index call found
    by_cases failed : Failed s keys index
    · exact ⟨_, (calls_failAll keys found).1 failed⟩
    · exact ⟨_, (calls_failAll keys found).2 failed⟩

theorem shrinks_receive (inbound : Inbound) (stored : Bool) : Shrinks s (s.receive inbound stored) := by
  rcases receive_cases inbound stored with ⟨_, -, result⟩ | ⟨request, -, -, result⟩
  · rw [result]
    exact ⟨fun _ _ => id, fun _ call found => ⟨call.response, found⟩⟩
  · rw [result]
    refine ⟨fun _ _ present => (Maps.of_lookup_erase present).2, fun index call found => ?_⟩
    by_cases same : request.responseTx = index
    · subst same
      exact ⟨_, Slots.modify_self found⟩
    · exact ⟨call.response, (Slots.modify_other same).trans found⟩

theorem shrinks_sweep (peer : ActrId) : Shrinks s (s.sweep peer) := by
  have later := @shrinks_failAll { s with swept := peer :: s.swept } (s.keysToRemove peer)
  exact ⟨later.entries, later.calls⟩

theorem Tidy.shrink (tidy : Tidy s) (shrinks : Shrinks s t) : Tidy t := by
  intro id request present
  obtain ⟨call, listed, same, going⟩ := tidy id request (shrinks.entries id request present)
  obtain ⟨response, kept⟩ := shrinks.calls _ call listed
  exact ⟨_, kept, same, going⟩

theorem tidy_setPhase {phase : CallPhase} (tidy : Tidy s) (fine : inProgress phase = true ∨
      ∀ id request, s.pendingRequests.lookup id = some request → request.responseTx ≠ index) :
    Tidy (s.setPhase index phase) := by
  intro id request present
  obtain ⟨call, listed, same, going⟩ := tidy id request present
  by_cases own : index = request.responseTx
  · subst own
    refine ⟨_, Slots.modify_self listed, same, ?_⟩
    rcases fine with goes | none
    · exact goes
    · exact absurd rfl (none id request present)
  · exact ⟨call, (Slots.modify_other own).trans listed, same, going⟩

theorem dropsPending_iff : dropsPending s (.drop index) = true ↔ ∃ call request, s.calls[index]? = some call ∧
    s.pendingRequests.lookup call.envelope.requestId = some request ∧ request.responseTx = index := by
  simp only [dropsPending, Option.any_eq_true, decide_eq_true_eq]
  constructor
  · rintro ⟨call, found, request, present, own⟩
    exact ⟨call, request, found, present, own⟩
  · rintro ⟨call, request, found, present, own⟩
    exact ⟨call, found, request, present, own⟩

theorem moved_fine {phase : CallPhase} (sound : Sound s) (found : s.calls[index]? = some call)
    (moves : Moves action index call phase) (kept : dropsPending s action = false) :
    inProgress phase = true ∨
      ∀ id request, s.pendingRequests.lookup id = some request → request.responseTx ≠ index := by
  rcases moves with goes | before | answered | rfl
  · exact .inl goes
  · refine .inr fun id request present own => ?_
    obtain ⟨waiting, listed, -, -, -, started, -⟩ := sound.waits id request present
    cases (own ▸ listed).symm.trans found
    exact started before
  · refine .inr fun id request present own => ?_
    obtain ⟨waiting, listed, -, -, empty, -⟩ := sound.waits id request present
    cases (own ▸ listed).symm.trans found
    exact answered empty
  · refine .inr fun id request present own => ?_
    obtain ⟨waiting, listed, same, -⟩ := sound.waits id request present
    cases (own ▸ listed).symm.trans found
    cases kept.symm.trans (dropsPending_iff.mpr ⟨_, request, found, same ▸ present, own⟩)

theorem tidy_register (tidy : Tidy s) (found : s.calls[index]? = some call) :
    Tidy ((s.insertPending call.envelope.requestId ⟨call.target, index⟩).setPhase index .sending) := by
  have removed := tidy.shrink (shrinks_removePending call.envelope.requestId)
  obtain ⟨response, kept⟩ := removePending_getElem? found call.envelope.requestId
  have started := @tidy_setPhase _ index .sending removed (.inl rfl)
  intro id request present
  by_cases same : id = call.envelope.requestId
  · subst same
    cases (AList.lookup_insert s.pendingRequests).symm.trans present
    exact ⟨_, Slots.modify_self kept, rfl, rfl⟩
  · apply started id request
    have old := (AList.lookup_insert_ne same).symm.trans present
    exact (AList.lookup_erase_ne same).trans old

theorem tidy_cleanup (tidy : Tidy s) (found : s.calls[index]? = some call) :
    Tidy ((s.removePending call.envelope.requestId).setPhase index (.returned result)) := by
  refine tidy_setPhase (tidy.shrink (shrinks_removePending _)) (.inr fun id request present own => ?_)
  obtain ⟨different, before⟩ := Maps.of_lookup_erase present
  obtain ⟨waiting, listed, same, -⟩ := tidy id request before
  cases (own ▸ listed).symm.trans found
  exact different same.symm

theorem tidy_step (sound : Sound s) (tidy : Tidy s) (kept : dropsPending s action = false)
    (taken : step s action = some t) : Tidy t := by
  cases gateStep_step taken with
  | started =>
    intro id request present
    obtain ⟨call, listed, rest⟩ := tidy id request present
    exact ⟨call, Slots.snoc listed, rest⟩
  | moved index call phase found own advances moves => exact tidy_setPhase tidy (moved_fine sound found moves kept)
  | registered index call found => exact tidy_register tidy found
  | cleaned index call result found => exact tidy_cleanup tidy found
  | received inbound stored => exact tidy.shrink (shrinks_receive inbound stored)
  | swept peer => exact tidy.shrink (shrinks_sweep peer)

theorem untidy_of_drop (dropped : dropsPending s action = true) (taken : step s action = some t) : ¬Tidy t := by
  intro tidy
  cases action with
  | drop =>
    obtain ⟨call, request, found, present, rfl⟩ := dropsPending_iff.mp dropped
    simp only [step, found, resume] at taken
    split at taken <;> cases taken
    obtain ⟨after, listed, -, going⟩ := tidy _ request present
    cases listed.symm.trans (Slots.modify_self found)
    cases going
  | _ => cases dropped

def Told : Oneshot → List (ActorResult Bytes) → Prop
  | .empty, results => results = []
  | .sent result, results => results.head? = some result
  | .closed, _ => True

theorem told_dropSender {response : Oneshot} {results : List (ActorResult Bytes)} (told : Told response results) :
    Told response.dropSender results := by
  cases response with
  | empty | closed => trivial
  | sent => exact told

theorem told_send {results : List (ActorResult Bytes)} (told : Told .empty results) :
    Told (Oneshot.empty.send result) (results ++ [result]) := by
  cases told
  rfl

def Hears (s : PeerGate) (action : Action) (before after : Call) : Prop :=
  after.envelope.requestId = before.envelope.requestId ∧ ∀ results, Told before.response results →
    Told after.response (results ++ (delivered s before.envelope.requestId action).toList)

theorem hears_quiet {before after : Call} (quiet : delivered s before.envelope.requestId action = none)
    (same : after.envelope.requestId = before.envelope.requestId)
    (response : after.response = before.response ∨ after.response = before.response.dropSender) :
    Hears s action before after := by
  refine ⟨same, fun results told => ?_⟩
  rw [quiet, Option.toList_none, List.append_nil]
  rcases response with kept | dropped
  · rw [kept]
    exact told
  · rw [dropped]
    exact told_dropSender told

theorem hears_result {before : Call} (empty : before.response = .empty)
    (told : delivered s before.envelope.requestId action = some result) :
    Hears s action before { before with response := before.response.send result } := by
  refine ⟨rfl, fun results told' => ?_⟩
  rw [told, empty]
  rw [empty] at told'
  exact told_send told'

theorem index_unique {calls : List Call} {other : Nat} {call' : Call}
    (distinct : (calls.map fun call => call.envelope.requestId).Nodup) (listed : calls[index]? = some call)
    (listed' : calls[other]? = some call') (same : call.envelope.requestId = call'.envelope.requestId) :
    index = other := by
  have here : (calls.map fun call => call.envelope.requestId)[index]? = some call.envelope.requestId := by
    rw [List.getElem?_map, listed, Option.map_some]
  have there : (calls.map fun call => call.envelope.requestId)[other]? = some call'.envelope.requestId := by
    rw [List.getElem?_map, listed', Option.map_some]
  have below := (List.getElem?_eq_some_iff.mp here).1
  exact (List.getElem?_inj below distinct).mp (by rw [here, there, same])

theorem hears_receive {inbound : Inbound} {stored : Bool} (sound : Sound s)
    (distinct : (s.calls.map fun call => call.envelope.requestId).Nodup) (found : s.calls[index]? = some call) :
    ∃ after, (s.receive inbound stored).calls[index]? = some after ∧ Hears s (.inbound inbound stored) call after := by
  rcases receive_cases inbound stored with ⟨_, quiet, result⟩ | ⟨request, response, waiting, result⟩
  · rw [result]
    refine ⟨call, found, hears_quiet (if_neg ?_) rfl (.inl rfl)⟩
    rintro ⟨response, same, present⟩
    rw [← same, quiet response] at present
    cases present
  · obtain ⟨waiter, listed, same, -, empty, -⟩ := sound.waits _ _ waiting
    rw [result]
    by_cases own : request.responseTx = index
    · subst own
      cases listed.symm.trans found
      refine ⟨_, Slots.modify_self found, hears_result empty (if_pos ⟨response, same.symm, ?_⟩)⟩
      rw [same, waiting]
      rfl
    · refine ⟨call, (Slots.modify_other own).trans found, hears_quiet (if_neg ?_) rfl (.inl rfl)⟩
      rintro ⟨-, other, -⟩
      exact own (index_unique distinct listed found (same.trans other))

theorem mem_keysToRemove {peer : ActrId} (present : s.pendingRequests.lookup id = some request) :
    id ∈ s.keysToRemove peer ↔ request.target = peer := by
  unfold keysToRemove
  rw [List.mem_filterMap]
  constructor
  · rintro ⟨entry, stored, chosen⟩
    obtain ⟨target, rfl⟩ := of_guard chosen
    rw [AList.mem_lookup_iff.mpr stored] at present
    cases present
    exact target
  · intro target
    exact ⟨⟨id, request⟩, AList.mem_lookup_iff.mp present, if_pos target⟩

theorem hears_sweep {peer : ActrId} (sound : Sound s)
    (distinct : (s.calls.map fun call => call.envelope.requestId).Nodup) (found : s.calls[index]? = some call) :
    ∃ after, (s.sweep peer).calls[index]? = some after ∧ Hears s (.closed peer) call after := by
  have outcome := @calls_failAll { s with swept := peer :: s.swept } index call (s.keysToRemove peer) found
  by_cases failed : Failed s (s.keysToRemove peer) index
  · refine ⟨_, outcome.1 failed, ?_⟩
    obtain ⟨id, member, request, present, rfl⟩ := failed
    obtain ⟨waiter, listed, same, -, empty, -⟩ := sound.waits _ _ present
    cases listed.symm.trans found
    refine hears_result empty (if_pos ?_)
    rw [same, present]
    simpa using (mem_keysToRemove present).mp member
  · refine ⟨call, outcome.2 failed, hears_quiet (if_neg ?_) rfl (.inl rfl)⟩
    intro swept
    obtain ⟨request, present, target⟩ := (Option.any_eq_true ..).mp swept
    obtain ⟨waiter, listed, same, -⟩ := sound.waits _ _ present
    have own := index_unique distinct listed found same
    exact failed ⟨_, (mem_keysToRemove present).mpr (by simpa using target), request, present, own⟩

theorem setPhase_getElem? {other : Nat} (found : s.calls[index]? = some call) (phase : CallPhase) :
    ∃ phase', (s.setPhase other phase).calls[index]? = some { call with phase := phase' } := by
  by_cases same : other = index
  · subst same
    exact ⟨phase, Slots.modify_self found⟩
  · exact ⟨call.phase, (Slots.modify_other same).trans found⟩

theorem hears_step (sound : Sound s) (distinct : (s.calls.map fun call => call.envelope.requestId).Nodup)
    (taken : step s action = some t) (found : s.calls[index]? = some call) :
    ∃ after, t.calls[index]? = some after ∧ Hears s action call after := by
  cases gateStep_step taken with
  | started =>
    exact ⟨call, Slots.snoc found, hears_quiet rfl rfl (.inl rfl)⟩
  | moved moving before phase listed own =>
    obtain ⟨phase', kept⟩ := setPhase_getElem? found phase
    exact ⟨_, kept, hears_quiet ((quiet_callOf own).2 _) rfl (.inl rfl)⟩
  | registered moving before =>
    obtain ⟨response, used, dropped⟩ := dropResponseTx_getElem? found
      (s.pendingRequests.lookup before.envelope.requestId)
    obtain ⟨phase', kept⟩ := @setPhase_getElem? (s.insertPending before.envelope.requestId ⟨before.target, moving⟩)
      index _ moving dropped .sending
    exact ⟨_, kept, hears_quiet rfl rfl used⟩
  | cleaned moving before result =>
    obtain ⟨response, used, dropped⟩ := dropResponseTx_getElem? found
      (s.pendingRequests.lookup before.envelope.requestId)
    obtain ⟨phase', kept⟩ := @setPhase_getElem? (s.removePending before.envelope.requestId)
      index _ moving dropped (.returned result)
    exact ⟨_, kept, hears_quiet rfl rfl used⟩
  | received => exact hears_receive sound distinct found
  | swept => exact hears_sweep sound distinct found

def ids (s : PeerGate) : List String := s.calls.map fun call => call.envelope.requestId

theorem ids_dropResponseTx (request : Option PendingRequest) : ids (s.dropResponseTx request) = ids s := by
  cases request with
  | none => rfl
  | some => exact Slots.map_modify fun _ => rfl

theorem ids_failAll (keys : List String) : ids (keys.foldl failPending s) = ids s := by
  induction keys generalizing s with
  | nil => rfl
  | cons key rest ih =>
    rw [List.foldl_cons, ih]
    cases present : s.pendingRequests.lookup key with
    | none => rw [failPending_absent present]
    | some =>
      unfold ids
      rw [calls_failPending present]
      exact Slots.map_modify fun _ => rfl

theorem ids_receive (inbound : Inbound) (stored : Bool) : ids (s.receive inbound stored) = ids s := by
  rcases receive_cases inbound stored with ⟨_, -, result⟩ | ⟨request, -, -, result⟩
  · rw [result]
    rfl
  · rw [result]
    exact Slots.map_modify fun _ => rfl

theorem ids_step (taken : step s action = some t) : ids t = ids s ++ (requestId? action).toList := by
  have setPhase (s : PeerGate) (index : Nat) (phase : CallPhase) : ids (s.setPhase index phase) = ids s :=
    Slots.map_modify fun _ => rfl
  cases gateStep_step taken with
  | started => exact List.map_append
  | moved index call phase found own =>
    rw [(@quiet_callOf s _ _ own).1, setPhase]
    exact (List.append_nil _).symm
  | registered | cleaned =>
    rw [setPhase]
    exact (ids_dropResponseTx _).trans (List.append_nil _).symm
  | received inbound stored => exact (ids_receive inbound stored).trans (List.append_nil _).symm
  | swept => exact (ids_failAll _).trans (List.append_nil _).symm

theorem new_call (taken : step s action = some t) (old : s.calls[index]? = none)
    (listed : t.calls[index]? = some call) :
    call.response = .empty ∧ requestId? action = some call.envelope.requestId := by
  cases known : requestId? action with
  | none =>
    have grown := congrArg List.length (ids_step taken)
    simp only [known, ids, Option.toList_none, List.append_nil, List.length_map] at grown
    have below := (List.getElem?_eq_some_iff.mp listed).1
    have above := List.getElem?_eq_none_iff.mp old
    omega
  | some =>
    cases action with
    | request =>
      cases taken
      rcases Slots.of_snoc listed with before | ⟨-, rfl⟩
      · cases old.symm.trans before
      · exact ⟨rfl, known.symm⟩
    | _ => cases known

theorem deliveries_snoc {past : List Action} {start : PeerGate} (run : exec step start past = some s)
    (taken : step s action = some t) :
    deliveries id start (past ++ [action]) = deliveries id start past ++ (delivered s id action).toList := by
  induction past generalizing start with
  | nil =>
    cases run
    simp [deliveries, taken]
  | cons first rest ih =>
    obtain ⟨middle, moved, run⟩ := exec_cons.mp run
    simp only [List.cons_append, deliveries, moved, ih run, List.append_assoc]

structure Heard (past : List Action) (s : PeerGate) : Prop where
  same : ids s = requestIds past
  unknown : ∀ id, id ∉ requestIds past → deliveries id initial past = []
  told : ∀ (index : Nat) (call : Call), s.calls[index]? = some call →
    Told call.response (deliveries call.envelope.requestId initial past)

theorem delivered_known (sound : Sound s) (told : delivered s id action = some result) : id ∈ ids s := by
  have known {request : PendingRequest} (present : s.pendingRequests.lookup id = some request) : id ∈ ids s := by
    obtain ⟨call, listed, same, -⟩ := sound.waits id request present
    exact List.mem_map.mpr ⟨call, List.mem_of_getElem? listed, same⟩
  cases action with
  | inbound =>
    obtain ⟨⟨-, -, present⟩, -⟩ := Option.ite_none_right_eq_some.mp told
    obtain ⟨request, present⟩ := Option.isSome_iff_exists.mp present
    exact known present
  | closed =>
    obtain ⟨swept, -⟩ := Option.ite_none_right_eq_some.mp told
    obtain ⟨request, present, -⟩ := (Option.any_eq_true ..).mp swept
    exact known present
  | _ => cases told

theorem requestIds_snoc (past : List Action) (action : Action) :
    requestIds (past ++ [action]) = requestIds past ++ (requestId? action).toList := by
  unfold requestIds
  cases known : requestId? action <;> simp [known]

theorem heard_step {past : List Action} (sound : Sound s) (run : exec step initial past = some s)
    (heard : Heard past s) (taken : step s action = some t) (distinct : (requestIds (past ++ [action])).Nodup) :
    Heard (past ++ [action]) t := by
  have same : ids t = requestIds (past ++ [action]) := by rw [ids_step taken, heard.same, requestIds_snoc]
  have before : (ids s).Nodup := by
    rw [requestIds_snoc] at distinct
    rw [heard.same]
    exact distinct.of_append_left
  have fresh {id : String} (unknown : id ∉ requestIds past) : deliveries id initial (past ++ [action]) = [] := by
    rw [deliveries_snoc run taken, heard.unknown id unknown, List.nil_append]
    cases told : delivered s id action with
    | none => rfl
    | some => exact absurd (heard.same ▸ delivered_known sound told) unknown
  refine ⟨same, fun id unknown => fresh fun old => unknown ?_, fun index call listed => ?_⟩
  · rw [requestIds_snoc]
    exact List.mem_append_left _ old
  · cases old : s.calls[index]? with
    | some earlier =>
      obtain ⟨after, here, kept, hears⟩ := hears_step sound before taken old
      cases listed.symm.trans here
      rw [deliveries_snoc run taken, kept]
      exact hears _ (heard.told index earlier old)
    | none =>
      obtain ⟨empty, known⟩ := new_call taken old listed
      rw [requestIds_snoc, known] at distinct
      have unknown := List.disjoint_of_nodup_append distinct
      rw [fresh fun member => unknown member (List.mem_singleton.mpr rfl), empty]
      rfl

theorem sound_exec (run : exec step initial actions = some s) : Sound s :=
  sound_reachable ⟨actions, run⟩

def HeardIfDistinct (past : List Action) (s : PeerGate) : Prop := (requestIds past).Nodup → Heard past s

theorem heard_initial : HeardIfDistinct [] initial := by
  intro distinct
  refine ⟨rfl, fun _ _ => rfl, ?_⟩
  intro index call listed
  cases listed

theorem heard_run (run : exec step initial actions = some s) : HeardIfDistinct actions s := by
  refine exec_past_invariant heard_initial ?_ run
  intro past s action t before heard taken distinct
  refine heard_step (sound_exec before) before (heard ?_) taken distinct
  rw [requestIds_snoc] at distinct
  exact distinct.of_append_left

theorem returns_first (run : exec step initial actions = some s) (distinct : (requestIds actions).Nodup)
    (listed : s.calls[index]? = some call) (returned : call.phase = .returned result) :
    (deliveries call.envelope.requestId initial actions).head? = some result ∨ ∃ error, result = .error error := by
  cases result with
  | error error => exact .inr ⟨error, rfl⟩
  | ok payload =>
    have sent := ((sound_exec run).calls index call listed).2.2 payload (.inr returned)
    have told := (heard_run run distinct).told index call listed
    rw [sent] at told
    exact .inl told

structure SoundAndTidy (s : PeerGate) : Prop where
  sound : Sound s
  tidy : Tidy s

theorem soundAndTidy_initial : SoundAndTidy initial := by
  refine ⟨sound_reachable ⟨[], rfl⟩, ?_⟩
  intro id request present
  cases present

end Steps

theorem pending_requests_kept_in_progress (actions : List Action) (distinct : (requestIds actions).Nodup) :
    (Along step (fun _ _ t => Tidy t) initial actions ↔
      Along step (fun s action _ => dropsPending s action = false) initial actions) ∧
    ∀ s, exec step initial actions = some s → ∀ (index : Nat) (call : Call) (result : ActorResult Bytes),
      s.calls[index]? = some call → call.phase = .returned result →
        (deliveries call.envelope.requestId initial actions).head? = some result ∨ ∃ error, result = .error error := by
  constructor
  · refine along_iff soundAndTidy_initial ?_ ?_
    · intro s action t kept taken
      constructor
      · intro after
        by_contra dropped
        exact untidy_of_drop (by simpa using dropped) taken after
      · exact fun spared => tidy_step kept.sound kept.tidy spared taken
    · intro s action t kept taken spared
      exact ⟨sound_step kept.sound taken, tidy_step kept.sound kept.tidy spared taken⟩
  · exact fun s run index call result => returns_first run distinct

def askedResponse : Inbound := { strangersResponse with peer := asked }

theorem pending_requests_kept_in_progress_of_one :
    Along step (fun _ _ t => Tidy t) initial (oneRequest ++ [.inbound askedResponse true, .receive 0]) ∧
      ∃ s, exec step initial (oneRequest ++ [.inbound askedResponse true, .receive 0]) = some s ∧
        s.calls.map Call.phase = [.returned (.ok [1])] ∧
        deliveries "r" initial (oneRequest ++ [.inbound askedResponse true, .receive 0]) = [.ok [1]] := by
  have distinct : (requestIds (oneRequest ++ [.inbound askedResponse true, .receive 0])).Nodup := by decide +kernel
  refine ⟨(pending_requests_kept_in_progress _ distinct).1.mpr ?_, exec_of_any ?_⟩
  · decide +kernel
  · decide +kernel

theorem dropped_request_leaks : (requestIds (oneRequest ++ [.drop 0])).Nodup ∧
    ∃ s, exec step initial (oneRequest ++ [.drop 0]) = some s ∧
      s.pendingRequests.lookup "r" = some ⟨asked, 0⟩ ∧ s.calls.map Call.phase = [.dropped] :=
  ⟨by decide +kernel, exec_of_any (by decide +kernel)⟩

end Actr.Proof.Outbound
