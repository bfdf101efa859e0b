import Actr.Proof.Outbound.PeerGate

/-! # Which request a response completes -/

namespace Actr.Proof.Outbound
open Actr.Protocol Hyper.Wire Hyper.Outbound PeerGate Library.Machine
  Actr.Library

/-- Entries go only when the peer that was asked sends something. -/
def MatchesPeer (s t : PeerGate) (inbound : Inbound) : Prop :=
  ∀ id request, s.pendingRequests.lookup id = some request →
    t.pendingRequests.lookup id ≠ some request → request.target = inbound.peer

section Matching

variable {s : PeerGate} {inbound : Inbound}

theorem response_completes (sound : Sound s) {request : PendingRequest} (response : IsResponse inbound.envelope)
    (stored : Bool) (found : s.pendingRequests.lookup inbound.envelope.requestId = some request) :
    ∃ call, s.calls[request.responseTx]? = some call ∧
      call.envelope.requestId = inbound.envelope.requestId ∧ call.target = request.target ∧
      s.receive inbound stored =
        { s with
          pendingRequests := s.pendingRequests.erase inbound.envelope.requestId
          calls := s.calls.set request.responseTx { call with response := .sent (inboundResult inbound) }
          handled := inbound :: s.handled } := by
  obtain ⟨call, listed, id, target, empty, -⟩ := sound.waits _ _ found
  refine ⟨call, listed, id, target, ?_⟩
  rw [receive_woken response found, Slots.modify_eq_set listed, empty]
  rfl

theorem responseResult_ok {inconsistent : String} {envelope : RpcEnvelope} {payload : Bytes}
    (good : responseResult inconsistent envelope = .ok payload) :
    envelope.payload = some payload ∧ envelope.error = none := by
  unfold responseResult at good
  split at good
  · rename_i present absent
    cases good
    exact ⟨present, absent⟩
  · cases good
  · cases good

theorem receive_sender {other : Inbound} (reader : other.reader = inbound.reader)
    (envelope : other.envelope = inbound.envelope) (stored : Bool) :
    (s.receive other stored).pendingRequests = (s.receive inbound stored).pendingRequests ∧
      (s.receive other stored).calls = (s.receive inbound stored).calls := by
  rcases receive_cases inbound stored with ⟨_, quiet, here⟩ | ⟨request, response, found, here⟩
  · obtain ⟨_, there⟩ := receive_quiet other stored (envelope ▸ quiet)
    rw [here, there]
    exact ⟨rfl, rfl⟩
  · have same : inboundResult other = inboundResult inbound := by
      rw [inboundResult, inboundResult, reader, envelope]
    rw [here, receive_woken (envelope ▸ response) (envelope ▸ found), same, envelope]
    exact ⟨rfl, rfl⟩

end Matching

theorem responses_matched_by_id {s t : PeerGate} (reachable : Reachable step .initial s) {inbound : Inbound}
    {stored : Bool} (taken : step s (.inbound inbound stored) = some t) :
    (∀ request, IsResponse inbound.envelope →
      s.pendingRequests.lookup inbound.envelope.requestId = some request →
      t.pendingRequests = s.pendingRequests.erase inbound.envelope.requestId ∧
      ∃ call, s.calls[request.responseTx]? = some call ∧
        call.envelope.requestId = inbound.envelope.requestId ∧ call.target = request.target ∧
        t.calls = s.calls.set request.responseTx { call with response := .sent (inboundResult inbound) }) ∧
    ((IsResponse inbound.envelope → s.pendingRequests.lookup inbound.envelope.requestId = none) →
      t.pendingRequests = s.pendingRequests ∧ t.calls = s.calls) ∧
    (∀ peer fromBytes t', step s (.inbound { inbound with peer := peer, fromBytes := fromBytes } stored) = some t' →
      t'.pendingRequests = t.pendingRequests ∧ t'.calls = t.calls) ∧
    (∀ (index : Nat) call payload, s.calls[index]? = some call → call.phase = .returned (.ok payload) →
      ∃ seen ∈ s.handled, IsResponse seen.envelope ∧ seen.envelope.requestId = call.envelope.requestId ∧
        seen.envelope.payload = some payload ∧ seen.envelope.error = none) := by
  have sound := sound_reachable reachable
  cases taken
  refine ⟨?_, ?_, ?_, ?_⟩
  · intro request response found
    obtain ⟨call, listed, id, target, result⟩ := response_completes sound response stored found
    rw [result]
    exact ⟨rfl, call, listed, id, target, rfl⟩
  · intro quiet
    obtain ⟨mailbox, result⟩ := receive_quiet inbound stored quiet
    rw [result]
    exact ⟨rfl, rfl⟩
  · intro peer fromBytes t' taken
    cases taken
    refine receive_sender ?_ ?_ stored
    · rfl
    · rfl
  · intro index call payload listed returned
    have holds := sound.calls index call listed
    rcases holds.2.1 _ (holds.2.2 payload (.inr returned)) with ⟨seen, member, response, id, good⟩ | ⟨-, failed⟩
    · exact ⟨seen, member, response, id, responseResult_ok good.symm⟩
    · cases failed

def asked : ActrId := ⟨⟨1⟩, 7, ⟨"acme", "docs", "1.0.0"⟩⟩

def stranger : ActrId := ⟨⟨1⟩, 8, ⟨"acme", "docs", "1.0.0"⟩⟩

def call : RpcEnvelope := ⟨"doc.Docs.Read", some [0], none, none, "r", 60000⟩

def oneRequest : List Action :=
  [.request asked .rpcReliable call, .preflighted 0 (.ok ()), .register 0, .sent 0 (.ok ())]

def strangersResponse : Inbound :=
  ⟨.webRtcGate, stranger, [], [], .rpcReliable, ⟨"doc.Docs.Read", some [1], none, some 2, "r", 0⟩⟩

theorem foreign_response_completes : ∃ s t, Reachable step .initial s ∧
    step s (.inbound strangersResponse true) = some t ∧ ¬MatchesPeer s t strangersResponse ∧
    t.calls.map Call.response = [.sent (.ok [1])] := by
  refine ⟨_, _, ⟨oneRequest, rfl⟩, rfl, ?_, by decide⟩
  intro matches_
  exact absurd (matches_ "r" ⟨asked, 0⟩ rfl nofun) (by decide)

theorem responses_matched_by_id_once : ∃ s t, Reachable step .initial s ∧
    step s (.inbound strangersResponse true) = some t ∧ t.pendingRequests = s.pendingRequests.erase "r" := by
  have reachable : Reachable step .initial _ := ⟨oneRequest, rfl⟩
  refine ⟨_, _, reachable, rfl, ?_⟩
  exact ((@responses_matched_by_id _ _ reachable strangersResponse true rfl).1 ⟨asked, 0⟩ rfl rfl).1

end Actr.Proof.Outbound
