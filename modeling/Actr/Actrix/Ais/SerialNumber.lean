import Actr.Library.Machine

/-!
# Serial numbers

The generator of 54-bit serial numbers: a packed timestamp and sequence in one atomic, advanced by a compare-exchange
loop.
-/

namespace Actr.Actrix.Ais

def bitsLenSerialNumber : UInt64 := 54

-- 2023-01-01 00:00:00 UTC in milliseconds
def customEpoch : UInt64 := 1672531200000
def workerIdBits : UInt64 := 5
def sequenceBits : UInt64 := 8
def workerIdShift : UInt64 := sequenceBits
def timestampShift : UInt64 := sequenceBits + workerIdBits
def maxWorkerId : UInt64 := (1 <<< workerIdBits) - 1
def maxSequence : UInt64 := (1 <<< sequenceBits) - 1

def decodeState (state : UInt64) : UInt64 × UInt64 := (state >>> 8, state &&& 0xFF)

def encodeState (timestamp sequence : UInt64) : UInt64 := (timestamp <<< 8) ||| (sequence &&& 0xFF)

structure Environment where
  hostname : Option String
  computername : Option String
  pid : Nat

def initWorkerId (environment : Environment) : UInt64 :=
  let hostname := (environment.hostname <|> environment.computername).getD "unknown"
  let combined := hostname ++ toString environment.pid
  combined.toUTF8.data.toList.foldl (fun hash byte => hash * 31 + byte.toUInt64) 0 &&& maxWorkerId

inductive SNError where
  | valueOverflow (value : UInt64)

def SerialNumber.maxValue : UInt64 := (1 <<< bitsLenSerialNumber) - 1

structure SerialNumber where
  value : UInt64
  bounded : value ≤ SerialNumber.maxValue

def SerialNumber.new (value : UInt64) : Except SNError SerialNumber :=
  if bounded : value ≤ maxValue then .ok ⟨value, bounded⟩ else .error (.valueOverflow value)

def nextState (timestamp state : UInt64) : UInt64 × UInt64 :=
  let (lastTimestamp, lastSequence) := decodeState state
  if timestamp < lastTimestamp then
    if lastSequence < maxSequence then (lastTimestamp, lastSequence + 1) else (lastTimestamp + 1, 0)
  else if timestamp = lastTimestamp then
    if lastSequence < maxSequence then (timestamp, lastSequence + 1) else (timestamp + 1, 0)
  else (timestamp, 0)

def buildSerial (timestamp workerId sequence : UInt64) : Except SNError SerialNumber :=
  let snValue := (timestamp <<< timestampShift) ||| (workerId <<< workerIdShift) ||| sequence
  SerialNumber.new (snValue &&& SerialNumber.maxValue)

-- `panicked` is where the `expect` on a masked value that is too large would end.
inductive SnPhase where
  | loading (timestamp : UInt64)
  | swapping (timestamp oldState : UInt64)
  | returned (serial : SerialNumber)
  | panicked

structure SnCall where
  workerId : UInt64
  phase : SnPhase

structure Issue where
  call : Nat
  timestamp : UInt64
  sequence : UInt64
  serial : SerialNumber

/-- The statics of the module and the calls of the process. `held` lists the values the atomic has had and
`issued` the successful compare-exchanges, both in their order. -/
structure Generator where
  snowflakeState : UInt64
  workerId : Option UInt64
  calls : List SnCall
  held : List UInt64
  issued : List Issue

namespace Generator

def initial : Generator where
  snowflakeState := 0
  workerId := none
  calls := []
  held := [0]
  issued := []

inductive Action where
  | sn (environment : Environment) (currentMillis : UInt64)
  | load (call : Nat) (state : UInt64)
  | compareExchange (call : Nat) (spurious : Bool) (currentMillis : UInt64)

def setPhase (s : Generator) (call : Nat) (phase : SnPhase) : Generator :=
  { s with calls := s.calls.modify call fun sn => { sn with phase := phase } }

-- A reading before the epoch counts as the epoch.
def start (s : Generator) (environment : Environment) (currentMillis : UInt64) : Generator :=
  let workerId := s.workerId.getD (initWorkerId environment)
  let timestamp := if currentMillis < customEpoch then 0 else currentMillis - customEpoch
  { s with workerId := some workerId, calls := s.calls ++ [⟨workerId, .loading timestamp⟩] }

def swap (s : Generator) (call : Nat) (workerId timestamp oldState : UInt64) : Generator :=
  let (newTimestamp, newSequence) := nextState timestamp oldState
  let newState := encodeState newTimestamp newSequence
  let stored := { s with snowflakeState := newState, held := s.held ++ [newState] }
  match buildSerial newTimestamp workerId newSequence with
  | .ok serial =>
    { stored.setPhase call (.returned serial) with
      issued := s.issued ++ [⟨call, newTimestamp, newSequence, serial⟩] }
  | .error _ => stored.setPhase call .panicked

-- The reading of a retry is not saturated: one before the epoch wraps around.
def step (s : Generator) : Action → Option Generator
  | .sn environment currentMillis => some (s.start environment currentMillis)
  | .load call state =>
    match s.calls[call]? with
    | some ⟨_, .loading timestamp⟩ =>
      if state ∈ s.held then some (s.setPhase call (.swapping timestamp state)) else none
    | _ => none
  | .compareExchange call spurious currentMillis =>
    match s.calls[call]? with
    | some ⟨workerId, .swapping timestamp oldState⟩ =>
      if s.snowflakeState = oldState ∧ spurious = false then some (s.swap call workerId timestamp oldState)
      else some (s.setPhase call (.loading (currentMillis - customEpoch)))
    | _ => none

end Generator

end Actr.Actrix.Ais
