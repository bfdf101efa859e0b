import Actr.Hyper.Transport.Lane

/-! # The frames of a message -/

namespace Actr.Proof.Transport
open Hyper.Transport Library.Bytes

structure Message where
  msgId : UInt32
  data : List UInt8
  deriving DecidableEq, Repr

def messageLimit : Nat := 65535 * 65527

def fragmentCount (message : Message) : Nat := max 1 (divCeil message.data.length dcMaxPayloadSize)

def fragmentAt (message : Message) (k : Nat) : Fragment where
  msgId := message.msgId
  fragIndex := UInt16.ofNat k
  totalFrags := UInt16.ofNat (fragmentCount message)
  payload := chunk dcMaxPayloadSize message.data k

def fragmentsOf (message : Message) : List Fragment :=
  (List.range (fragmentCount message)).map (fragmentAt message)

def encodeFrame (fragment : Fragment) : Frame :=
  encodeFragmentHeader fragment.msgId fragment.fragIndex fragment.totalFrags ++ fragment.payload

def framesOfMessage (message : Message) : List Frame := (fragmentsOf message).map encodeFrame

variable {message : Message}

theorem dcMaxPayloadSize_pos : 0 < dcMaxPayloadSize := by decide

theorem encodeFragmentHeader_length (msgId : UInt32) (fragIndex totalFrags : UInt16) :
    (encodeFragmentHeader msgId fragIndex totalFrags).length = fragmentHeaderSize := by
  simp [encodeFragmentHeader, fragmentHeaderSize]

theorem decode_encodeFrame (fragment : Fragment) : decodeFragmentHeader (encodeFrame fragment) = .ok fragment := by
  have id := beValue_beBytes 4 fragment.msgId.toNat_lt
  have index := beValue_beBytes 2 fragment.fragIndex.toNat_lt
  have total := beValue_beBytes 2 fragment.totalFrags.toNat_lt
  have long : ¬(encodeFrame fragment).length < fragmentHeaderSize := by
    simp [encodeFrame, encodeFragmentHeader_length]
  rw [decodeFragmentHeader, if_neg long]
  simp [encodeFrame, encodeFragmentHeader, fragmentHeaderSize, List.drop_append,
    List.drop_eq_nil_of_le, id, index, total]

theorem fragmentCount_le (sized : message.data.length ≤ messageLimit) : fragmentCount message ≤ 65535 := by
  have bound : divCeil message.data.length dcMaxPayloadSize ≤ 65535 :=
    (divCeil_le dcMaxPayloadSize_pos).mpr sized
  exact max_le (by decide) bound

theorem fragmentCount_single (short : message.data.length ≤ dcMaxPayloadSize) : fragmentCount message = 1 := by
  have bound : divCeil message.data.length dcMaxPayloadSize ≤ 1 :=
    (divCeil_le dcMaxPayloadSize_pos).mpr (by simpa using short)
  exact max_eq_left bound

theorem fragmentCount_several (long : ¬message.data.length ≤ dcMaxPayloadSize) :
    fragmentCount message = divCeil message.data.length dcMaxPayloadSize ∧ 1 < fragmentCount message := by
  have bound : ¬divCeil message.data.length dcMaxPayloadSize ≤ 1 := by
    rw [divCeil_le dcMaxPayloadSize_pos]
    simpa using long
  unfold fragmentCount
  omega

theorem toNat_ofNat_of_le {k : Nat} (bound : k ≤ 65535) : (UInt16.ofNat k).toNat = k :=
  UInt16.toNat_ofNat_of_lt' (Nat.lt_succ_of_le bound)

theorem flatten_fragments (message : Message) :
    ((fragmentsOf message).map Fragment.payload).flatten = message.data := by
  have whole : message.data.length ≤ fragmentCount message * dcMaxPayloadSize :=
    (le_divCeil_mul dcMaxPayloadSize_pos).trans (Nat.mul_le_mul_right _ (le_max_right _ _))
  calc ((fragmentsOf message).map Fragment.payload).flatten
      = ((List.range (fragmentCount message)).map (chunk dcMaxPayloadSize message.data)).flatten := by
        simp [fragmentsOf, fragmentAt, Function.comp_def]
    _ = message.data := by rw [flatten_chunk, List.take_of_length_le whole]

theorem framesOf_ok (sized : message.data.length ≤ messageLimit) :
    framesOf message.msgId message.data = .ok (framesOfMessage message) := by
  unfold framesOf framesOfMessage fragmentsOf
  by_cases short : message.data.length ≤ dcMaxPayloadSize
  · rw [if_pos short, fragmentCount_single short]
    simp [fragmentAt, encodeFrame, chunk, fragmentCount_single short, List.take_of_length_le short]
  · obtain ⟨count, -⟩ := fragmentCount_several short
    have bound := fragmentCount_le sized
    rw [if_neg short, if_neg (by omega), count]
    simp only [chunks, Except.ok.injEq, List.map_map]
    apply List.ext_getElem
    · simp
    · intro k _ _
      simp [fragmentAt, encodeFrame, count]

theorem framesOf_too_large (msgId : UInt32) {data : List UInt8} (large : data.length > messageLimit) :
    ∃ message, framesOf msgId data = .error (.dataChannelError message) := by
  have long : ¬data.length ≤ dcMaxPayloadSize := by
    have : dcMaxPayloadSize ≤ messageLimit := by decide
    omega
  have excess : divCeil data.length dcMaxPayloadSize > 65535 := by
    rw [gt_iff_lt, ← not_le, divCeil_le dcMaxPayloadSize_pos, not_le]
    exact large
  exact ⟨_, by rw [framesOf, if_neg long, if_pos excess]⟩

theorem frame_length_le {frame : Frame} (member : frame ∈ framesOfMessage message) :
    frame.length ≤ dcMaxMessageSize := by
  simp only [framesOfMessage, fragmentsOf, List.map_map, List.mem_map, List.mem_range] at member
  obtain ⟨k, -, rfl⟩ := member
  have piece := chunk_length_le dcMaxPayloadSize message.data k
  simp only [Function.comp_apply, encodeFrame, fragmentAt, List.length_append, encodeFragmentHeader_length]
  simp only [dcMaxPayloadSize, fragmentHeaderSize, dcMaxMessageSize] at *
  omega

end Actr.Proof.Transport
