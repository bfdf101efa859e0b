import Actr.Proof.Transport.LaneReassembly

/-! # From `send` to `recv` -/

namespace Actr.Proof.Transport
open Hyper.Transport WebRtcDataLane

variable {message : Message}

def sentFrames (message : Message) : List Frame :=
  match framesOf message.msgId message.data with
  | .ok frames => frames
  | .error _ => []

theorem sentFrames_eq (sized : message.data.length ≤ messageLimit) :
    sentFrames message = framesOfMessage message := by
  rw [sentFrames, framesOf_ok sized]

theorem writeFrames_written (answer : Nat → Option (WebrtcError × RtcDataChannelState))
    (operation : Nat → String) (frames : List Frame) (fragIndex : Nat) :
    (writeFrames answer operation fragIndex frames).1 <+: frames ∧
      ((writeFrames answer operation fragIndex frames).2 = .ok () →
        (writeFrames answer operation fragIndex frames).1 = frames) := by
  induction frames generalizing fragIndex with
  | nil => simp [writeFrames]
  | cons frame frames ih =>
    obtain ⟨initial, all⟩ := ih (fragIndex + 1)
    cases refused : answer fragIndex with
    | some => simp [writeFrames, refused]
    | none =>
      simp only [writeFrames, refused]
      constructor
      · exact List.cons_prefix_cons.mpr ⟨rfl, initial⟩
      · intro done
        rw [all done]

theorem writeFrames_accepted {answer : Nat → Option (WebrtcError × RtcDataChannelState)} (accepts : ∀ k, answer k = none)
    (operation : Nat → String) (frames : List Frame) (fragIndex : Nat) :
    writeFrames answer operation fragIndex frames = (frames, .ok ()) := by
  induction frames generalizing fragIndex with
  | nil => rfl
  | cons frame frames ih => simp [writeFrames, accepts, ih]

section Send

variable {lane lane' : WebRtcDataLane} {polls : List Poll}
  {answer : Nat → Option (WebrtcError × RtcDataChannelState)} {data : List UInt8} {written : List Frame}
  {result : Except NetworkError Unit}

theorem send_written (sent : lane.send polls answer data = some (lane', written, result)) :
    written <+: sentFrames ⟨lane.msgIdCounter, data⟩ ∧
      (result = .ok () → written = sentFrames ⟨lane.msgIdCounter, data⟩) := by
  unfold send at sent
  split at sent
  · cases sent
  · simp only [Option.some.injEq, Prod.mk.injEq] at sent
    obtain ⟨-, rfl, rfl⟩ := sent
    simp
  · simp only at sent
    split at sent
    · simp only [Option.some.injEq, Prod.mk.injEq] at sent
      obtain ⟨-, rfl, rfl⟩ := sent
      simp
    · rename_i frames accepted
      have whole : sentFrames ⟨lane.msgIdCounter, data⟩ = frames := by rw [sentFrames, accepted]
      rw [Option.some.injEq, Prod.mk.injEq] at sent
      have write := writeFrames_written answer (sendOperation data) frames 0
      rw [sent.2] at write
      rw [whole]
      exact write

theorem send_accepted (sized : data.length ≤ messageLimit) (opened : awaitOpen polls = some (.ok ()))
    (accepts : ∀ k, answer k = none) : lane.send polls answer data =
      some ({ lane with msgIdCounter := lane.msgIdCounter + 1 }, sentFrames ⟨lane.msgIdCounter, data⟩, .ok ()) := by
  have frames := @framesOf_ok ⟨lane.msgIdCounter, data⟩ sized
  simp only [send, opened, frames, writeFrames_accepted accepts]
  rw [sentFrames_eq sized]

theorem send_too_large (large : data.length > messageLimit)
    (sent : lane.send polls answer data = some (lane', written, result)) :
    written = [] ∧ ∃ error, result = .error error ∧
      (awaitOpen polls = some (.ok ()) → ∃ message, error = .dataChannelError message) := by
  obtain ⟨message, refused⟩ := framesOf_too_large lane.msgIdCounter large
  unfold send at sent
  split at sent
  · cases sent
  · rename_i error waited
    obtain ⟨-, rfl, rfl⟩ := sent
    exact ⟨rfl, error, rfl, by simp [waited]⟩
  · simp only [refused, Option.some.injEq, Prod.mk.injEq] at sent
    obtain ⟨-, rfl, rfl⟩ := sent
    exact ⟨rfl, _, rfl, fun _ => ⟨message, rfl⟩⟩

end Send

theorem recvAll_eq_recv (buffer : ReassemblyBuffer) (deliveries : List Delivery) :
    recvAll buffer deliveries =
      match recv false buffer deliveries with
      | (none, _, _) => []
      | (some result, buffer, rest) => result :: recvAll buffer rest := by
  induction deliveries generalizing buffer with
  | nil => rfl
  | cons delivery rest ih =>
    rw [recvAll, recv]
    rcases round : recvRound buffer delivery with ⟨after, _ | result⟩
    · simpa using ih after
    · simp

theorem recv_rest {buffer after : ReassemblyBuffer} {deliveries rest : List Delivery}
    {result : Except NetworkError (List UInt8)} (received : recv false buffer deliveries = (some result, after, rest)) :
    rest.length < deliveries.length := by
  induction deliveries generalizing buffer with
  | nil => cases received
  | cons delivery others ih =>
    rw [recv] at received
    split at received
    · cases received
      exact Nat.lt_succ_self _
    · exact (ih received).trans (Nat.lt_succ_self _)

/-- What the calls of `recv` return until one waits, or `calls` of them have returned. -/
def recvCalls : Nat → ReassemblyBuffer → List Delivery → List (Except NetworkError (List UInt8))
  | 0, _, _ => []
  | calls + 1, buffer, deliveries =>
    match recv false buffer deliveries with
    | (none, _, _) => []
    | (some result, buffer, rest) => result :: recvCalls calls buffer rest

theorem recvCalls_eq_recvAll {calls : Nat} {buffer : ReassemblyBuffer} {deliveries : List Delivery}
    (enough : deliveries.length ≤ calls) : recvCalls calls buffer deliveries = recvAll buffer deliveries := by
  induction calls generalizing buffer deliveries with
  | zero =>
    rw [List.eq_nil_of_length_eq_zero (Nat.le_zero.mp enough)]
    rfl
  | succ calls ih =>
    rw [recvAll_eq_recv, recvCalls]
    rcases received : recv false buffer deliveries with ⟨_ | result, after, rest⟩
    · rfl
    · have shorter := recv_rest received
      simp only [ih (Nat.le_of_lt_succ (shorter.trans_le enough))]

def fragmentOf (raw : Frame) : Fragment :=
  match decodeFragmentHeader raw with
  | .ok fragment => fragment
  | .error _ => ⟨0, 0, 0, []⟩

theorem fragmentOf_encodeFrame (fragment : Fragment) : fragmentOf (encodeFrame fragment) = fragment := by
  rw [fragmentOf, decode_encodeFrame]

theorem encodeFrame_injective : Function.Injective encodeFrame := by
  intro a b same
  rw [← fragmentOf_encodeFrame a, same, fragmentOf_encodeFrame]

theorem map_fragmentOf_sentFrames (sized : message.data.length ≤ messageLimit) :
    (sentFrames message).map fragmentOf = fragmentsOf message := by
  have inverse : fragmentOf ∘ encodeFrame = id := funext fragmentOf_encodeFrame
  rw [sentFrames_eq sized, framesOfMessage, List.map_map, inverse, List.map_id]

def arrivalOf (delivery : Delivery) : Arrival :=
  ⟨fragmentOf delivery.raw, delivery.evictAt, delivery.createdAt⟩

/-- Two handled frames of one message are handled within the time to live, and the clock does not go back. -/
def Prompt (deliveries : List Delivery) : Prop :=
  deliveries.Pairwise fun earlier later => earlier.evictAt ≤ later.evictAt ∧
    ∀ a b, decodeFragmentHeader earlier.raw = .ok a → decodeFragmentHeader later.raw = .ok b →
      a.msgId = b.msgId → later.evictAt ≤ earlier.createdAt + reassemblyTtl

def Delivered (deliveries : List Delivery) (message : Message) : Prop :=
  ∀ frame ∈ sentFrames message, frame ∈ deliveries.map Delivery.raw
  deriving Decidable

section Deliveries

variable {messages : List Message} {deliveries : List Delivery}
variable (sized : ∀ message ∈ messages, message.data.length ≤ messageLimit)
include sized

theorem sent_encoded {raw : Frame}
    (member : raw ∈ messages.flatMap sentFrames) : ∃ fragment, encodeFrame fragment = raw := by
  obtain ⟨message, listed, frame⟩ := List.mem_flatMap.mp member
  rw [sentFrames_eq (sized message listed)] at frame
  obtain ⟨fragment, -, equal⟩ := List.mem_map.mp frame
  exact ⟨fragment, equal⟩

variable (delivered : (deliveries.map Delivery.raw).Subperm (messages.flatMap sentFrames))
include delivered

theorem delivery_arrivalOf {delivery : Delivery} (member : delivery ∈ deliveries) : (arrivalOf delivery).delivery = delivery := by
  obtain ⟨fragment, equal⟩ := sent_encoded sized (delivered.subset (List.mem_map_of_mem member))
  simp only [Arrival.delivery, arrivalOf]
  rw [← equal, fragmentOf_encodeFrame, equal]

theorem traffic_of_delivered (distinct : (messages.map Message.msgId).Nodup) (prompt : Prompt deliveries) :
    Traffic messages (deliveries.map arrivalOf) where
  distinct := distinct
  sized := sized
  sent := by
    have decoded : (messages.flatMap sentFrames).map fragmentOf = messages.flatMap fragmentsOf := by
      rw [List.map_flatMap]
      apply List.flatMap_congr
      intro message member
      exact map_fragmentOf_sentFrames (sized message member)
    obtain ⟨part, perm, sublist⟩ := delivered
    refine ⟨part.map fragmentOf, ?_, decoded ▸ sublist.map fragmentOf⟩
    simpa [Function.comp_def, arrivalOf] using perm.map fragmentOf
  timely := by
    rw [List.pairwise_map]
    apply prompt.imp_of_mem
    rintro earlier later first second ⟨clock, within⟩
    have decoded {delivery : Delivery} (member : delivery ∈ deliveries) :
        decodeFragmentHeader delivery.raw = .ok (arrivalOf delivery).fragment := by
      obtain ⟨fragment, equal⟩ := sent_encoded sized (delivered.subset (List.mem_map_of_mem member))
      rw [arrivalOf, ← equal, fragmentOf_encodeFrame, decode_encodeFrame]
    exact ⟨clock, within _ _ (decoded first) (decoded second)⟩

theorem complete_iff_delivered (member : message ∈ messages) :
    Complete (deliveries.map arrivalOf) message ↔ Delivered deliveries message := by
  have encoded : (deliveries.map arrivalOf).map (encodeFrame ∘ Arrival.fragment) = deliveries.map Delivery.raw := by
    rw [List.map_map]
    apply List.map_congr_left
    intro delivery listed
    exact congrArg Delivery.raw (delivery_arrivalOf sized delivered listed)
  rw [Delivered, sentFrames_eq (sized message member), ← encoded, ← List.map_map]
  simp only [Complete, framesOfMessage, List.forall_mem_map, List.mem_map_of_injective encodeFrame_injective]

end Deliveries

theorem sentFrames_header (sized : message.data.length ≤ messageLimit) {k : Nat} {frame : Frame}
    (at_k : (sentFrames message)[k]? = some frame) :
    frame.length ≤ dcMaxMessageSize ∧ ∃ fragment, decodeFragmentHeader frame = .ok fragment ∧
      fragment.msgId = message.msgId ∧ fragment.fragIndex.toNat = k ∧
      fragment.totalFrags.toNat = (sentFrames message).length := by
  rw [sentFrames_eq sized] at at_k ⊢
  have count := fragmentCount_le sized
  have member := frame_length_le (List.mem_of_getElem? at_k)
  simp only [framesOfMessage, fragmentsOf, List.map_map, List.getElem?_map, Option.map_eq_some_iff,
    List.getElem?_eq_some_iff, List.length_range, List.getElem_range, Function.comp_apply] at at_k
  obtain ⟨_, ⟨below, rfl⟩, rfl⟩ := at_k
  refine ⟨member, fragmentAt message k, decode_encodeFrame _, rfl, toNat_ofNat_of_le (by omega), ?_⟩
  rw [framesOfMessage, List.length_map, fragmentsOf_length]
  exact toNat_ofNat_of_le count

theorem not_complete_nil (message : Message) : ¬Complete [] message := by
  intro complete
  have first : fragmentAt message 0 ∈ fragmentsOf message :=
    mem_fragmentsOf.mpr ⟨0, Nat.lt_of_lt_of_le Nat.zero_lt_one (le_max_left _ _), rfl⟩
  have arrived := complete _ first
  cases arrived

end Actr.Proof.Transport
