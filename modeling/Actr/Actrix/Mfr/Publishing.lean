import Actr.Actrix.Mfr.Model
import Actr.Library.Checks
import Actr.Library.Json
import Actr.Library.Machine
import Actr.Library.Toml

/-!
# Publishing packages

`request_nonce`, `publish_package` and the cleanup of nonces, one step for each statement that they send to the
database.
-/

namespace Actr.Actrix.Mfr
open Library Checks

structure PublishRequest where
  manufacturer : String
  name : String
  version : String
  target : String
  manifest : String
  signature : String
  protoFiles : Option Json.Value
  nonce : Option String
  nonceSig : Option String

inductive NonceStatus where
  | pending
  | used
  deriving DecidableEq, Repr

structure PublishNonce where
  id : Nat
  mfrId : Nat
  nonce : List UInt8
  status : NonceStatus
  createdAt : Int
  expiresAt : Int
  deriving DecidableEq, Repr

def nonceTtlSecs : Int := 300

-- The fields in the order in which they are serialized; `proto_files` is skipped when there are none.
def signablePublishBody (req : PublishRequest) (nonce : String) : Json.Value :=
  .object ([("manufacturer", .string req.manufacturer), ("name", .string req.name), ("version", .string req.version),
    ("target", .string req.target), ("manifest", .string req.manifest), ("signature", .string req.signature)] ++
    (req.protoFiles.map fun files => ("proto_files", files)).toList ++ [("nonce", .string nonce)])

def signablePublishBodyBytes (req : PublishRequest) (nonce : String) : List UInt8 :=
  Text.utf8 (String.ofList (Json.print (signablePublishBody req nonce)))

def buildPublishAuthPayload (manufacturer nonceHex bodySha256Hex : String) : String :=
  "ACTR-PUBLISH-V1\nmanufacturer=" ++ manufacturer ++ "\nmethod=POST\npath=/mfr/pkg/publish" ++
    "\nnonce=" ++ nonceHex ++ "\nbody_sha256=" ++ bodySha256Hex

def publishAuthPayload (crypto : Crypto) (req : PublishRequest) (nonceB64 : String) (nonceBytes : List UInt8) : String :=
  buildPublishAuthPayload req.manufacturer (Text.hexEncode nonceBytes)
    (Text.hexEncode (crypto.sha256 (signablePublishBodyBytes req nonceB64)))

def findPending (nonces : List PublishNonce) (nonceBytes : List UInt8) (now : Int) : Except MfrError PublishNonce := do
  let entry ← okOr (nonces.find? fun row => row.nonce = nonceBytes) .unauthorized
  require (entry.status = .pending) .unauthorized
  require (now ≤ entry.expiresAt) .unauthorized
  return entry

def consume (nonces : List PublishNonce) (nonceId : Nat) : Except MfrError Unit × List PublishNonce :=
  let updated := nonces.map fun row =>
    if row.id = nonceId ∧ row.status = .pending then { row with status := .used } else row
  (require (nonces.countP (fun row => row.id = nonceId ∧ row.status = .pending) = 1) .unauthorized, updated)

def cleanup (nonces : List PublishNonce) (now retainSecs : Int) : List PublishNonce :=
  nonces.filter fun row => ¬ row.expiresAt < now - retainSecs

structure PublishStart where
  mfr : Manufacturer
  nonceB64 : String
  nonceSigB64 : String
  nonceBytes : List UInt8
  deriving DecidableEq, Repr

def startPublish (crypto : Crypto) (tables : MfrTables) (req : PublishRequest) (now : Int) :
    Except MfrError PublishStart := do
  let mfr ← okOr (tables.getByName req.manufacturer) .notFound
  require (mfr.status = .active) (.invalidStatus ("MFR '" ++ req.manufacturer ++ "' is not active"))
  let keyExpires ← okOr mfr.keyExpiresAt .certificateExpired
  require (now ≤ keyExpires) .certificateExpired
  let nonceB64 ← okOr req.nonce .unauthorized
  let nonceSigB64 ← okOr req.nonceSig .unauthorized
  let nonceBytes ← (crypto.base64Decode nonceB64).mapError fun _ => .invalidRequest "invalid nonce base64"
  return ⟨mfr, nonceB64, nonceSigB64, nonceBytes⟩

def verifyPublish (crypto : Crypto) (nonces : List PublishNonce) (req : PublishRequest) (start : PublishStart)
    (now : Int) : Except MfrError PublishNonce := do
  let entry ← findPending nonces start.nonceBytes now
  require (entry.mfrId = start.mfr.id) .unauthorized
  let payload := publishAuthPayload crypto req start.nonceB64 start.nonceBytes
  let valid ← crypto.verifySignature (Text.utf8 payload) start.nonceSigB64 start.mfr.publicKey
  require (valid = true) .unauthorized
  let valid ← crypto.verifySignature (Text.utf8 req.manifest) req.signature start.mfr.publicKey
  require (valid = true) .invalidSignature
  return entry

def checkField (field : String) (found : Option String) (given : String) : Except MfrError Unit := do
  let value ← okOr found (.invalidRequest ("manifest missing required field '" ++ field ++ "'"))
  require (value = given) (.invalidRequest ("manifest " ++ field ++ " '" ++ value ++ "' != request '" ++ given ++ "'"))

def checkManifest (parseToml : String → Except String Toml.Value) (req : PublishRequest) : Except MfrError Unit := do
  let manifestToml ← (parseToml req.manifest).mapError fun error =>
    MfrError.invalidRequest ("manifest is not valid TOML: " ++ error)
  checkField "manufacturer" (manifestToml.getStr "manufacturer") req.manufacturer
  checkField "name" (manifestToml.getStr "name") req.name
  checkField "version" (manifestToml.getStr "version") req.version
  checkField "binary.target" ((manifestToml.get "binary").bind (·.getStr "target")) req.target

def publishedRow (id mfrId : Nat) (req : PublishRequest) (now : Int) : ActrPackage :=
  { id, mfrId
    manufacturer := req.manufacturer
    name := req.name
    version := req.version
    typeStr := req.manufacturer ++ ":" ++ req.name ++ ":" ++ req.version
    target := req.target
    manifest := req.manifest
    signature := req.signature
    protoFiles := req.protoFiles.map fun files => String.ofList (Json.print files)
    status := .active
    publishedAt := now
    revokedAt := none }

inductive NoncePhase where
  | read
  | cleaned
  | ended
  deriving DecidableEq, Repr

structure NonceCall where
  mfr : Manufacturer
  phase : NoncePhase
  deriving DecidableEq, Repr

inductive PublishPhase where
  | started
  | verified (entry : PublishNonce)
  | consumed (entry : PublishNonce)
  | ended
  deriving DecidableEq, Repr

structure PublishCall where
  req : PublishRequest
  start : PublishStart
  phase : PublishPhase

structure Insertion where
  call : Nat
  req : PublishRequest
  start : PublishStart
  entry : PublishNonce
  row : ActrPackage

-- `issued` and `inserted` hold the rows that were created, in their order.
structure PublishService where
  mfr : List Manufacturer
  nonces : List PublishNonce
  nextNonceId : Nat
  packages : List ActrPackage
  nextPackageId : Nat
  requests : List NonceCall
  publishes : List PublishCall
  issued : List PublishNonce
  inserted : List Insertion

namespace PublishService

inductive Action where
  | setManufacturers (rows : List Manufacturer)
  | readForNonce (manufacturer : String)
  | cleanupForNonce (call : Nat) (now retainSecs : Int)
  | createNonce (call : Nat) (nonceBytes : List UInt8) (now : Int)
  | cleanup (now retainSecs : Int)
  | readForPublish (req : PublishRequest) (now : Int)
  | lookUpNonce (call : Nat) (now : Int)
  | consumeNonce (call : Nat)
  | insertPackage (call : Nat) (now : Int)

def tables (s : PublishService) : MfrTables := ⟨s.mfr, [], s.packages⟩

def setPhase (s : PublishService) (number : Nat) (call : PublishCall) (phase : PublishPhase) : PublishService :=
  { s with publishes := s.publishes.set number { call with phase } }

def readForNonce (s : PublishService) (manufacturer : String) : PublishService :=
  match s.tables.getByName manufacturer with
  | none => s
  | some mfr => if mfr.status = .active then { s with requests := s.requests ++ [⟨mfr, .read⟩] } else s

def cleanupForNonce (s : PublishService) (number : Nat) (now retainSecs : Int) : Option PublishService :=
  match s.requests[number]? with
  | some ⟨mfr, .read⟩ =>
    some { s with nonces := Mfr.cleanup s.nonces now retainSecs, requests := s.requests.set number ⟨mfr, .cleaned⟩ }
  | _ => none

-- The column `nonce` is unique.
def createNonce (s : PublishService) (number : Nat) (nonceBytes : List UInt8) (now : Int) : Option PublishService :=
  match s.requests[number]? with
  | some ⟨mfr, .cleaned⟩ =>
    let s := { s with requests := s.requests.set number ⟨mfr, .ended⟩ }
    if s.nonces.any fun row => row.nonce = nonceBytes then some s
    else
      let row := ⟨s.nextNonceId, mfr.id, nonceBytes, .pending, now, now + nonceTtlSecs⟩
      some { s with
        nonces := s.nonces ++ [row]
        nextNonceId := s.nextNonceId + 1
        issued := s.issued ++ [row] }
  | _ => none

def readForPublish (crypto : Crypto) (s : PublishService) (req : PublishRequest) (now : Int) : PublishService :=
  match startPublish crypto s.tables req now with
  | .error _ => s
  | .ok start => { s with publishes := s.publishes ++ [⟨req, start, .started⟩] }

def lookUpNonce (crypto : Crypto) (s : PublishService) (number : Nat) (now : Int) : Option PublishService :=
  match s.publishes[number]? with
  | some ⟨req, start, .started⟩ =>
    match verifyPublish crypto s.nonces req start now with
    | .error _ => some (s.setPhase number ⟨req, start, .started⟩ .ended)
    | .ok entry => some (s.setPhase number ⟨req, start, .started⟩ (.verified entry))
  | _ => none

def consumeNonce (parseToml : String → Except String Toml.Value) (s : PublishService) (number : Nat) :
    Option PublishService :=
  match s.publishes[number]? with
  | some ⟨req, start, .verified entry⟩ =>
    let (consumed, nonces) := consume s.nonces entry.id
    let s := { s with nonces }
    match consumed with
    | .error _ => some (s.setPhase number ⟨req, start, .verified entry⟩ .ended)
    | .ok () =>
      match checkManifest parseToml req with
      | .error _ => some (s.setPhase number ⟨req, start, .verified entry⟩ .ended)
      | .ok () => some (s.setPhase number ⟨req, start, .verified entry⟩ (.consumed entry))
  | _ => none

-- The four columns of the identity of a package are unique.
def insertPackage (s : PublishService) (number : Nat) (now : Int) : Option PublishService :=
  match s.publishes[number]? with
  | some ⟨req, start, .consumed entry⟩ =>
    let s := s.setPhase number ⟨req, start, .consumed entry⟩ .ended
    if s.packages.any fun row => row.manufacturer = req.manufacturer ∧ row.name = req.name ∧
        row.version = req.version ∧ row.target = req.target then some s
    else
      let row := publishedRow s.nextPackageId start.mfr.id req now
      some { s with
        packages := s.packages ++ [row]
        nextPackageId := s.nextPackageId + 1
        inserted := s.inserted ++ [⟨number, req, start, entry, row⟩] }
  | _ => none

def step (crypto : Crypto) (parseToml : String → Except String Toml.Value) (s : PublishService) :
    Action → Option PublishService
  | .setManufacturers rows => some { s with mfr := rows }
  | .readForNonce manufacturer => some (s.readForNonce manufacturer)
  | .cleanupForNonce call now retainSecs => s.cleanupForNonce call now retainSecs
  | .createNonce call nonceBytes now => s.createNonce call nonceBytes now
  | .cleanup now retainSecs => some { s with nonces := Mfr.cleanup s.nonces now retainSecs }
  | .readForPublish req now => some (s.readForPublish crypto req now)
  | .lookUpNonce call now => s.lookUpNonce crypto call now
  | .consumeNonce call => s.consumeNonce parseToml call
  | .insertPackage call now => s.insertPackage call now

end PublishService

end Actr.Actrix.Mfr
