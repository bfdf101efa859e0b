import Actr.Library.Protobuf
import Actr.Protocol.ActrId

/-!
# Conflict keys

`ConflictKey`, the table of `ConflictKeySpec` and the projection of a request to its key, with the byte scanner under
it. Every error of the scanner is `()`.
-/

namespace Actr.Hyper.Dispatch
open Protocol Library.Protobuf

inductive ConflictKey where
  | serial
  | scoped (domain : String) (value : List UInt8)
  deriving DecidableEq, Repr

def ConflictKey.isSerial : ConflictKey → Bool
  | .serial => true
  | .scoped _ _ => false

@[simp] theorem ConflictKey.isSerial_eq_false (key : ConflictKey) : key.isSerial = false ↔ key ≠ .serial := by
  cases key <;> simp [ConflictKey.isSerial]

inductive PayloadFieldKind where
  | bool | int32 | int64 | uint32 | uint64 | sint32 | sint64
  | fixed32 | fixed64 | sfixed32 | sfixed64 | enum | string | bytes
  deriving DecidableEq, Repr

inductive KeySource where
  | sender
  | payloadField (tag : Nat) (kind : PayloadFieldKind)
  deriving DecidableEq, Repr

structure KeyRule where
  source : KeySource
  domain : Option String
  deriving DecidableEq, Repr

inductive ConflictKeyError where
  | duplicateRoute (routeKey : String)
  deriving DecidableEq, Repr

def ConflictKeyError.message : ConflictKeyError → String
  | .duplicateRoute routeKey =>
    "duplicate conflict-key registration for route_key `" ++ routeKey ++ "`"

def maxConflictKeyBytes : Nat := 4 * 1024

/-- The loop of `read_varint`, with the number of iterations left and the index of the next byte. -/
def readVarintLoop (buf : List UInt8) (off : Nat) : Nat → Nat → Nat → Except Unit (Nat × Nat)
  | 0, _, _ => .error ()
  | left + 1, byteIndex, result =>
    match buf[off + byteIndex]? with
    | none => .error ()
    | some byte =>
      if byteIndex = 9 ∧ byte > 1 then .error ()
      else
        let result := result ||| ((byte &&& 0x7f).toNat <<< (byteIndex * 7)) % 2 ^ 64
        if byte &&& 0x80 = 0 then .ok (result, byteIndex + 1)
        else readVarintLoop buf off left (byteIndex + 1) result

def readVarint (buf : List UInt8) (off : Nat) : Except Unit (Nat × Nat) :=
  readVarintLoop buf off 10 0 0

def canonicalVarintLoop : Nat → Nat → List UInt8
  | 0, _ => []
  | room + 1, value =>
    let byte := UInt8.ofNat (value &&& 0x7f)
    let value := value >>> 7
    if value = 0 then [byte] else (byte ||| 0x80) :: canonicalVarintLoop room value

def canonicalVarint (value : Nat) : List UInt8 := canonicalVarintLoop 10 value

def canonicalTypedVarint (value : Nat) (kind : PayloadFieldKind) : Except Unit (List UInt8) :=
  match kind with
  | .bool => if value ≤ 1 then .ok (canonicalVarint value) else .error ()
  | .int32 | .enum =>
    if value ≤ 2 ^ 31 - 1 ∨ value ≥ 2 ^ 64 - 2 ^ 31 then .ok (canonicalVarint value) else .error ()
  | .uint32 | .sint32 => if value ≤ 2 ^ 32 - 1 then .ok (canonicalVarint value) else .error ()
  | .int64 | .uint64 | .sint64 => .ok (canonicalVarint value)
  | _ => .error ()

abbrev ScanResult := Except Unit (Option (List UInt8))

def PayloadFieldKind.isFixed64 (kind : PayloadFieldKind) : Bool := kind == .fixed64 || kind == .sfixed64

def PayloadFieldKind.isFixed32 (kind : PayloadFieldKind) : Bool := kind == .fixed32 || kind == .sfixed32

def PayloadFieldKind.isDelimited (kind : PayloadFieldKind) : Bool := kind == .string || kind == .bytes

/-- The `varint` arm. Like the other arms it starts behind the tag, and either moves past the value and
updates `found` or leaves the function. -/
def scanVarint (payload : List UInt8) (kind : PayloadFieldKind) (i : Nat) (isTarget : Bool)
    (found : Option (List UInt8)) : Except ScanResult (Nat × Option (List UInt8)) :=
  match readVarint payload i with
  | .error _ => .error (.error ())
  | .ok (value, m) =>
    if isTarget then
      if found.isSome then .error (.ok none)
      else
        match canonicalTypedVarint value kind with
        | .error _ => .error (.error ())
        | .ok key => .ok (i + m, some key)
    else .ok (i + m, found)

/-- The arms of `fixed64` and `fixed32`, which differ in the width and in the kinds they accept. -/
def scanFixed (width : Nat) (accepted : Bool) (payload : List UInt8) (i : Nat) (isTarget : Bool)
    (found : Option (List UInt8)) : Except ScanResult (Nat × Option (List UInt8)) :=
  if width > payload.length - i then .error (.error ())
  else if isTarget then
    if found.isSome then .error (.ok none)
    else if !accepted then .error (.error ())
    else .ok (i + width, some ((payload.drop i).take width))
  else .ok (i + width, found)

def scanDelimited (payload : List UInt8) (kind : PayloadFieldKind) (i : Nat) (isTarget : Bool)
    (found : Option (List UInt8)) : Except ScanResult (Nat × Option (List UInt8)) :=
  match readVarint payload i with
  | .error _ => .error (.error ())
  | .ok (len, m) =>
    let i := i + m
    if len > payload.length - i then .error (.error ())
    else if isTarget then
      if found.isSome then .error (.ok none)
      else if !kind.isDelimited then .error (.error ())
      else if len > maxConflictKeyBytes then .error (.error ())
      else if kind == .string && !validUtf8 ((payload.drop i).take len) then .error (.error ())
      else .ok (i + len, some ((payload.drop i).take len))
    else .ok (i + len, found)

def scanStep (payload : List UInt8) (target : Nat) (kind : PayloadFieldKind) (i : Nat)
    (found : Option (List UInt8)) : Except ScanResult (Nat × Option (List UInt8)) :=
  match readVarint payload i with
  | .error _ => .error (.error ())
  | .ok (tag, n) =>
    let i := i + n
    let fieldNo := tag >>> 3
    if fieldNo = 0 ∨ fieldNo > 0x1fffffff then .error (.error ())
    else
      let isTarget := fieldNo == target
      match tag &&& 0x7 with
      | 0 => scanVarint payload kind i isTarget found
      | 1 => scanFixed 8 kind.isFixed64 payload i isTarget found
      | 2 => scanDelimited payload kind i isTarget found
      | 5 => scanFixed 4 kind.isFixed32 payload i isTarget found
      -- groups and unknown wire types
      | _ => .error (.error ())

/-- The `while` loop. Every iteration moves the position forward, so that as many iterations as the
payload has bytes are enough. -/
def scanLoop (payload : List UInt8) (target : Nat) (kind : PayloadFieldKind) :
    Nat → Nat → Option (List UInt8) → Option ScanResult
  | fuel, i, found =>
    if i < payload.length then
      match fuel with
      | 0 => none
      | fuel + 1 =>
        match scanStep payload target kind i found with
        | .error result => some result
        | .ok (i, found) => scanLoop payload target kind fuel i found
    else some (.ok found)

def scanTopLevelField (payload : List UInt8) (target : Nat) (kind : PayloadFieldKind) : ScanResult :=
  (scanLoop payload target kind payload.length 0 none).getD (.error ())

/-- `payload[start..stop]`, `none` where the source panics. -/
def slice (payload : List UInt8) (start stop : Nat) : Option (List UInt8) :=
  if start ≤ stop ∧ stop ≤ payload.length then some ((payload.drop start).take (stop - start)) else none

/-! An iteration of the scanner once more, with its slices as the source takes them. -/

def scanFixedSliced (width : Nat) (accepted : Bool) (payload : List UInt8) (i : Nat) (isTarget : Bool)
    (found : Option (List UInt8)) : Option (Except ScanResult (Nat × Option (List UInt8))) := do
  if width > payload.length - i then return .error (.error ())
  else if isTarget then
    if found.isSome then return .error (.ok none)
    else if !accepted then return .error (.error ())
    else return .ok (i + width, some (← slice payload i (i + width)))
  else return .ok (i + width, found)

def scanDelimitedSliced (payload : List UInt8) (kind : PayloadFieldKind) (i : Nat) (isTarget : Bool)
    (found : Option (List UInt8)) : Option (Except ScanResult (Nat × Option (List UInt8))) := do
  match readVarint payload i with
  | .error _ => return .error (.error ())
  | .ok (len, m) =>
    let i := i + m
    if len > payload.length - i then return .error (.error ())
    else if isTarget then
      if found.isSome then return .error (.ok none)
      else if !kind.isDelimited then return .error (.error ())
      else if len > maxConflictKeyBytes then return .error (.error ())
      else if kind == .string && !validUtf8 (← slice payload i (i + len)) then return .error (.error ())
      else return .ok (i + len, some (← slice payload i (i + len)))
    else return .ok (i + len, found)

def scanStepSliced (payload : List UInt8) (target : Nat) (kind : PayloadFieldKind) (i : Nat)
    (found : Option (List UInt8)) : Option (Except ScanResult (Nat × Option (List UInt8))) :=
  match readVarint payload i with
  | .error _ => some (.error (.error ()))
  | .ok (tag, n) =>
    let i := i + n
    let fieldNo := tag >>> 3
    if fieldNo = 0 ∨ fieldNo > 0x1fffffff then some (.error (.error ()))
    else
      let isTarget := fieldNo == target
      match tag &&& 0x7 with
      | 0 => some (scanVarint payload kind i isTarget found)
      | 1 => scanFixedSliced 8 kind.isFixed64 payload i isTarget found
      | 2 => scanDelimitedSliced payload kind i isTarget found
      | 5 => scanFixedSliced 4 kind.isFixed32 payload i isTarget found
      | _ => some (.error (.error ()))

structure ConflictKeySpec where
  rules : List (String × KeyRule)

namespace ConflictKeySpec

def isEmpty (spec : ConflictKeySpec) : Bool := spec.rules.isEmpty

def extract (spec : ConflictKeySpec) (routeKey : String) (callerId : Option ActrId)
    (payload : List UInt8) : ConflictKey :=
  match spec.rules.lookup routeKey with
  | none => .serial
  | some rule =>
    let domain := rule.domain.getD routeKey
    match rule.source with
    | .sender =>
      match callerId with
      | some id => .scoped domain id.toStringRepr.toUTF8.data.toList
      | none => .scoped domain []
    | .payloadField tag kind =>
      match scanTopLevelField payload tag kind with
      | .ok (some value) => .scoped domain value
      | _ => .serial

end ConflictKeySpec

structure ConflictKeySpecBuilder where
  rules : List (String × KeyRule) := []
  error : Option ConflictKeyError := none

namespace ConflictKeySpecBuilder

def insert (builder : ConflictKeySpecBuilder) (routeKey : String) (source : KeySource)
    (domain : Option String) : ConflictKeySpecBuilder :=
  if (builder.rules.lookup routeKey).isSome then
    if builder.error.isNone then { builder with error := some (.duplicateRoute routeKey) } else builder
  else { builder with rules := (routeKey, ⟨source, domain⟩) :: builder.rules }

def method (builder : ConflictKeySpecBuilder) (routeKey : String) (source : KeySource) : ConflictKeySpecBuilder :=
  builder.insert routeKey source none

def methodInDomain (builder : ConflictKeySpecBuilder) (routeKey domain : String) (source : KeySource) :
    ConflictKeySpecBuilder :=
  builder.insert routeKey source (some domain)

def build (builder : ConflictKeySpecBuilder) : Except ConflictKeyError ConflictKeySpec :=
  match builder.error with
  | some err => .error err
  | none => .ok ⟨builder.rules⟩

end ConflictKeySpecBuilder

end Actr.Hyper.Dispatch
