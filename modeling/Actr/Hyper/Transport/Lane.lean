import Actr.Hyper.Transport.Error
import Actr.Library.Bytes
import Mathlib.Data.List.AList
import Mathlib.Data.List.Sort

/-!
# The WebRTC data lane

`WebRtcDataLane::send` with the frames it writes, and `recv` with the reassembly buffer under it. Instants and
durations are nanoseconds.
-/

namespace Actr.Hyper.Transport
open Library.Bytes

abbrev Frame := List UInt8

def dcMaxMessageSize : Nat := 65535

def fragmentHeaderSize : Nat := 8

def dcMaxPayloadSize : Nat := dcMaxMessageSize - fragmentHeaderSize

def nanosPerSecond : Nat := 1000000000

def reassemblyTtl : Nat := 6 * 60 * 60 * nanosPerSecond

def initialConnectionTimeout : Nat := 10 * nanosPerSecond

def encodeFragmentHeader (msgId : UInt32) (fragIndex totalFrags : UInt16) : List UInt8 :=
  beBytes 4 msgId.toNat ++ beBytes 2 fragIndex.toNat ++ beBytes 2 totalFrags.toNat

structure Fragment where
  msgId : UInt32
  fragIndex : UInt16
  totalFrags : UInt16
  payload : List UInt8
  deriving DecidableEq, Repr

def decodeFragmentHeader (raw : Frame) : Except NetworkError Fragment :=
  if raw.length < fragmentHeaderSize then
    .error (.dataChannelError ("fragment too short: " ++ toString raw.length ++ " bytes (minimum " ++
      toString fragmentHeaderSize ++ ")"))
  else
    .ok {
      msgId := UInt32.ofNat (beValue (raw.take 4))
      fragIndex := UInt16.ofNat (beValue ((raw.drop 4).take 2))
      totalFrags := UInt16.ofNat (beValue ((raw.drop 6).take 2))
      payload := raw.drop fragmentHeaderSize }

inductive RtcDataChannelState where
  | unspecified | connecting | opened | closing | closed
  deriving DecidableEq, Repr

def RtcDataChannelState.debug : RtcDataChannelState → String
  | .unspecified => "Unspecified"
  | .connecting => "Connecting"
  | .opened => "Open"
  | .closing => "Closing"
  | .closed => "Closed"

structure WebrtcError where
  isClosed : Bool
  isNotOpen : Bool
  text : String
  deriving DecidableEq, Repr

def classifyDataChannelSendError (error : WebrtcError) (state : RtcDataChannelState) (operation : String) :
    NetworkError :=
  let detail := operation ++ ": " ++ error.text
  if error.isClosed || state == .closed || state == .closing then
    .dataChannelClosed (state.debug ++ ": " ++ detail)
  else if error.isNotOpen || state != .opened then .dataChannelNotOpen (state.debug ++ ": " ++ detail)
  else .dataChannelError detail

structure Poll where
  state : RtcDataChannelState
  elapsed : Nat
  deriving DecidableEq, Repr

/-- The loop that waits for the channel to open; `none` while it still waits. -/
def awaitOpen : List Poll → Option (Except NetworkError Unit)
  | [] => none
  | poll :: polls =>
    if poll.state = .opened then some (.ok ())
    else if poll.state = .closed ∨ poll.state = .closing then
      some (.error (.dataChannelClosed poll.state.debug))
    else if poll.elapsed > initialConnectionTimeout then
      some (.error (.dataChannelError ("DataChannel open timeout: " ++ poll.state.debug)))
    else awaitOpen polls

def framesOf (msgId : UInt32) (data : List UInt8) : Except NetworkError (List Frame) :=
  if data.length ≤ dcMaxPayloadSize then .ok [encodeFragmentHeader msgId 0 1 ++ data]
  else
    let totalFrags := divCeil data.length dcMaxPayloadSize
    if totalFrags > 65535 then
      .error (.dataChannelError ("message too large: " ++ toString data.length ++ " bytes would require " ++
        toString totalFrags ++ " fragments (max " ++ toString 65535 ++ ")"))
    else
      .ok ((chunks dcMaxPayloadSize data).zipIdx.map fun (chunk, fragIndex) =>
        encodeFragmentHeader msgId (UInt16.ofNat fragIndex) (UInt16.ofNat totalFrags) ++ chunk)

def sendOperation (data : List UInt8) (fragIndex : Nat) : String :=
  if data.length ≤ dcMaxPayloadSize then "Send failed" else "Send fragment " ++ toString fragIndex ++ " failed"

def writeFrames (answer : Nat → Option (WebrtcError × RtcDataChannelState)) (operation : Nat → String) :
    Nat → List Frame → List Frame × Except NetworkError Unit
  | _, [] => ([], .ok ())
  | fragIndex, frame :: frames =>
    match answer fragIndex with
    | some (error, state) => ([], .error (classifyDataChannelSendError error state (operation fragIndex)))
    | none =>
      let (written, result) := writeFrames answer operation (fragIndex + 1) frames
      (frame :: written, result)

abbrev FragmentMap := AList (fun _ : UInt16 => List UInt8)

structure FragmentEntry where
  total : UInt16
  createdAt : Nat
  fragments : FragmentMap

structure ReassemblyBuffer where
  pending : UInt32 → Option FragmentEntry

namespace ReassemblyBuffer

def new : ReassemblyBuffer := ⟨fun _ => none⟩

def evictStale (buffer : ReassemblyBuffer) (now : Nat) : ReassemblyBuffer where
  pending msgId := (buffer.pending msgId).filter fun entry => ¬now - entry.createdAt > reassemblyTtl

def assemble (fragments : FragmentMap) : List UInt8 :=
  ((fragments.entries.insertionSort fun a b => a.1 ≤ b.1).map Sigma.snd).flatten

/-- `evictAt` and `createdAt` are the readings of the clock in `evict_stale` and for a new entry. -/
def insert (buffer : ReassemblyBuffer) (evictAt createdAt : Nat) (fragment : Fragment) :
    ReassemblyBuffer × Option (List UInt8) :=
  let buffer := buffer.evictStale evictAt
  let entry := (buffer.pending fragment.msgId).getD ⟨fragment.totalFrags, createdAt, ∅⟩
  let entry := { entry with fragments := entry.fragments.insert fragment.fragIndex fragment.payload }
  if entry.fragments.keys.length = entry.total.toNat then
    (⟨Function.update buffer.pending fragment.msgId none⟩, some (assemble entry.fragments))
  else (⟨Function.update buffer.pending fragment.msgId (some entry)⟩, none)

end ReassemblyBuffer

structure WebRtcDataLane where
  msgIdCounter : UInt32
  reassembly : ReassemblyBuffer

namespace WebRtcDataLane

/-- `none` while the call waits for the channel to open; otherwise the lane afterwards, the frames written
to the channel and the result. -/
def send (lane : WebRtcDataLane) (polls : List Poll)
    (answer : Nat → Option (WebrtcError × RtcDataChannelState)) (data : List UInt8) :
    Option (WebRtcDataLane × List Frame × Except NetworkError Unit) :=
  match awaitOpen polls with
  | none => none
  | some (.error error) => some (lane, [], .error error)
  | some (.ok _) =>
    let msgId := lane.msgIdCounter
    let lane := { lane with msgIdCounter := msgId + 1 }
    match framesOf msgId data with
    | .error error => some (lane, [], .error error)
    | .ok frames => some (lane, writeFrames answer (sendOperation data) 0 frames)

structure Delivery where
  raw : Frame
  evictAt : Nat
  createdAt : Nat
  deriving DecidableEq, Repr

def recvRound (buffer : ReassemblyBuffer) (delivery : Delivery) :
    ReassemblyBuffer × Option (Except NetworkError (List UInt8)) :=
  match decodeFragmentHeader delivery.raw with
  | .error error => (buffer, some (.error error))
  | .ok fragment =>
    if fragment.totalFrags = 1 then (buffer, some (.ok fragment.payload))
    else
      let (buffer, complete) := buffer.insert delivery.evictAt delivery.createdAt fragment
      (buffer, complete.map .ok)

/-- `recv` on the frames waiting in the receiver: the result, or `none` while it waits for more, the
buffer and the frames it left. -/
def recv (closed : Bool) (buffer : ReassemblyBuffer) :
    List Delivery → Option (Except NetworkError (List UInt8)) × ReassemblyBuffer × List Delivery
  | [] => (if closed then some (.error (.channelClosed "DataLane receiver closed")) else none, buffer, [])
  | delivery :: rest =>
    match recvRound buffer delivery with
    | (buffer, some result) => (some result, buffer, rest)
    | (buffer, none) => recv closed buffer rest

end WebRtcDataLane

end Actr.Hyper.Transport
