import Actr.Actrix.Mfr.Publishing
import Actr.Proof.Mfr.KeyRenewal

/-! # A publish nonce authorises one package -/

namespace Actr.Proof.Mfr
open Actrix.Mfr Library Checks Machine PublishService

variable {crypto : Crypto} {parseToml : String → Except String Toml.Value} {opening s t : PublishService}
  {past : List Action} {action : Action} {number number' call : Nat} {req req' : PublishRequest} {start : PublishStart}
  {entry entry' : PublishNonce} {phase : PublishPhase} {publishCall : PublishCall} {now retainSecs : Int}
  {nonceB64 nonceB64' : String} {nonceBytes nonceBytes' : List UInt8} {nonces : List PublishNonce}
variable {requests : List NonceCall} {nextPackageId : Nat} {id : Nat}

/-! ## What a call has verified -/

def Verifies (crypto : Crypto) (publicKey : String) (message : List UInt8) (signatureB64 : String) : Prop :=
  crypto.verifySignature message signatureB64 publicKey = .ok true

theorem findPending_eq_ok (found : findPending nonces nonceBytes now = .ok entry) :
    entry ∈ nonces ∧ entry.nonce = nonceBytes ∧ entry.status = .pending ∧ now ≤ entry.expiresAt := by
  unfold findPending at found
  simp only [bind_eq_ok, okOr_eq_ok, require_eq_ok, pure_eq_ok] at found
  obtain ⟨row, listed, -, pending, -, unexpired, rfl⟩ := found
  have matched := List.find?_some listed
  simp only [decide_eq_true_eq] at matched
  exact ⟨List.mem_of_find?_eq_some listed, matched, pending, unexpired⟩

theorem verifyPublish_eq_ok (verified : verifyPublish crypto nonces req start now = .ok entry) :
    findPending nonces start.nonceBytes now = .ok entry ∧ entry.mfrId = start.mfr.id ∧
      Verifies crypto start.mfr.publicKey (Text.utf8 (publishAuthPayload crypto req start.nonceB64 start.nonceBytes))
        start.nonceSigB64 ∧ Verifies crypto start.mfr.publicKey (Text.utf8 req.manifest) req.signature := by
  unfold verifyPublish at verified
  simp only [bind_eq_ok, require_eq_ok, pure_eq_ok] at verified
  obtain ⟨row, found, -, own, valid, payload, -, rfl, valid', manifest, -, rfl, rfl⟩ := verified
  exact ⟨found, own, payload, manifest⟩

theorem startPublish_eq_ok {tables : MfrTables} (started : startPublish crypto tables req now = .ok start) :
    tables.getByName req.manufacturer = some start.mfr ∧ start.mfr.status = .active ∧
      req.nonce = some start.nonceB64 ∧ req.nonceSig = some start.nonceSigB64 ∧
      crypto.base64Decode start.nonceB64 = .ok start.nonceBytes := by
  unfold startPublish at started
  simp only [bind_eq_ok, okOr_eq_ok, require_eq_ok, pure_eq_ok, mapError_eq_ok] at started
  obtain ⟨mfr, found, -, active, keyExpires, -, -, -, nonceB64, nonce, nonceSigB64, nonceSig, nonceBytes, decoded,
    rfl⟩ := started
  exact ⟨found, active, nonce, nonceSig, decoded⟩

def CommitsTo (crypto : Crypto) (payload : String) (req : PublishRequest) (nonceBytes : List UInt8) : Prop :=
  ∀ req' nonceB64' nonceBytes', publishAuthPayload crypto req' nonceB64' nonceBytes' = payload →
    nonceBytes' = nonceBytes ∧ req'.manufacturer = req.manufacturer ∧ req'.name = req.name ∧
      req'.version = req.version ∧ req'.target = req.target ∧ req'.manifest = req.manifest ∧
      req'.signature = req.signature ∧ req'.protoFiles = req.protoFiles

theorem signablePublishBody_inj (same : signablePublishBody req nonceB64 = signablePublishBody req' nonceB64') :
    req.manufacturer = req'.manufacturer ∧ req.name = req'.name ∧ req.version = req'.version ∧
      req.target = req'.target ∧ req.manifest = req'.manifest ∧ req.signature = req'.signature ∧
      req.protoFiles = req'.protoFiles := by
  simp only [signablePublishBody, Json.Value.object.injEq, List.cons_append, List.nil_append, List.cons.injEq,
    Prod.mk.injEq, Json.Value.string.injEq, true_and] at same
  obtain ⟨manufacturer, name, version, target, manifest, signature, rest⟩ := same
  refine ⟨manufacturer, name, version, target, manifest, signature, ?_⟩
  cases files : req.protoFiles with
  | none =>
    cases files' : req'.protoFiles with
    | none => rfl
    | some => simp [files, files'] at rest
  | some =>
    cases files' : req'.protoFiles with
    | none => simp [files, files'] at rest
    | some =>
      simp only [files, files', Option.map_some, Option.toList_some, List.cons_append, List.cons.injEq,
        Prod.mk.injEq, true_and] at rest
      rw [rest.1]

theorem publishAuthPayload_commits (collisionFree : Function.Injective crypto.sha256) :
    CommitsTo crypto (publishAuthPayload crypto req nonceB64 nonceBytes) req nonceBytes := by
  intro req' nonceB64' nonceBytes' same
  obtain ⟨same, hash⟩ := Text.last_field_inj '=' "\nbody_sha256".toList (by rfl)
    (Text.notMem_hexEncode rfl) (Text.notMem_hexEncode rfl) same
  obtain ⟨-, nonce⟩ := Text.last_field_inj '=' "\nnonce".toList (by rfl)
    (Text.notMem_hexEncode rfl) (Text.notMem_hexEncode rfl) same
  have bodies := Text.utf8_injective (collisionFree (Text.hexEncode_injective hash))
  exact ⟨Text.hexEncode_injective nonce,
    signablePublishBody_inj (Json.print_injective (String.ofList_injective bodies))⟩

/-! ## Nonces are taken once -/

def Consumed (s : PublishService) (number : Nat) (entry : PublishNonce) : Prop :=
  ∃ call, s.publishes[number]? = some call ∧ call.phase = .consumed entry

def Holds (s : PublishService) (number : Nat) (entry : PublishNonce) : Prop :=
  ∃ call, s.publishes[number]? = some call ∧ (call.phase = .verified entry ∨ call.phase = .consumed entry)

def Untaken (nonces : List PublishNonce) (id : Nat) : Prop := ∃ row ∈ nonces, row.id = id ∧ row.status = .pending

structure Ledger (s : PublishService) : Prop where
  bounded : ∀ row ∈ s.nonces, row.id < s.nextNonceId
  issuedBounded : ∀ row ∈ s.issued, row.id < s.nextNonceId
  pendingIssued : ∀ row ∈ s.nonces, row.status = .pending → row ∈ s.issued
  held : ∀ number entry, Holds s number entry → entry ∈ s.issued
  taken : ∀ number entry, Consumed s number entry → ¬ Untaken s.nonces entry.id
  insertedTaken : ∀ insertion ∈ s.inserted, insertion.entry ∈ s.issued ∧ ¬ Untaken s.nonces insertion.entry.id
  distinct : ∀ number number' entry entry', Consumed s number entry → Consumed s number' entry' →
    entry.id = entry'.id → number = number'
  separate : ∀ number entry, Consumed s number entry → ∀ insertion ∈ s.inserted, insertion.entry.id ≠ entry.id
  once : (s.inserted.map fun insertion => insertion.entry.id).Nodup

theorem Consumed.holds (consumed : Consumed s number entry) : Holds s number entry := by
  obtain ⟨call, listed, phase⟩ := consumed
  exact ⟨call, listed, .inr phase⟩

theorem ledger_frame (ledger : Ledger s) (next : t.nextNonceId = s.nextNonceId) (issued : t.issued = s.issued)
    (inserted : t.inserted = s.inserted)
    (rows : ∀ row ∈ t.nonces, ∃ old ∈ s.nonces, old.id = row.id ∧ (row.status = .pending → old = row))
    (held : ∀ number entry, Holds t number entry → entry ∈ s.issued)
    (consumed : ∀ number entry, Consumed t number entry → Consumed s number entry) : Ledger t := by
  have untaken : ∀ id, Untaken t.nonces id → Untaken s.nonces id := by
    rintro id ⟨row, listed, same, pending⟩
    obtain ⟨old, member, -, unchanged⟩ := rows row listed
    cases unchanged pending
    exact ⟨row, member, same, pending⟩
  constructor
  case bounded =>
    intro row listed
    obtain ⟨old, member, same, -⟩ := rows row listed
    rw [next, ← same]
    exact ledger.bounded old member
  case issuedBounded =>
    rw [next, issued]
    exact ledger.issuedBounded
  case pendingIssued =>
    intro row listed pending
    obtain ⟨old, member, -, unchanged⟩ := rows row listed
    cases unchanged pending
    rw [issued]
    exact ledger.pendingIssued row member pending
  case held =>
    rw [issued]
    exact held
  case taken =>
    intro number entry taken contrary
    exact ledger.taken number entry (consumed number entry taken) (untaken _ contrary)
  case insertedTaken =>
    rw [inserted, issued]
    intro insertion listed
    obtain ⟨known, taken⟩ := ledger.insertedTaken insertion listed
    exact ⟨known, mt (untaken _) taken⟩
  case distinct =>
    intro number number' entry entry' first second
    exact ledger.distinct number number' entry entry' (consumed number entry first) (consumed number' entry' second)
  case separate =>
    rw [inserted]
    intro number entry taken
    exact ledger.separate number entry (consumed number entry taken)
  case once =>
    rw [inserted]
    exact ledger.once

theorem holds_setPhase (held : Holds (s.setPhase number publishCall phase) number' entry) :
    (number' = number ∧ (phase = .verified entry ∨ phase = .consumed entry)) ∨ Holds s number' entry := by
  obtain ⟨call, listed, holds⟩ := held
  rcases Slots.of_set listed with ⟨rfl, rfl⟩ | ⟨-, old⟩
  · exact .inl ⟨rfl, holds⟩
  · exact .inr ⟨call, old, holds⟩

theorem consumed_setPhase (consumed : Consumed (s.setPhase number publishCall phase) number' entry) :
    (number' = number ∧ phase = .consumed entry) ∨ (number' ≠ number ∧ Consumed s number' entry) := by
  obtain ⟨call, listed, taken⟩ := consumed
  rcases Slots.of_set listed with ⟨rfl, rfl⟩ | ⟨other, old⟩
  · exact .inl ⟨rfl, taken⟩
  · exact .inr ⟨other, call, old, taken⟩

theorem ledger_setPhase (ledger : Ledger s) (unconsumed : ∀ entry, phase ≠ .consumed entry)
    (issued : ∀ entry, phase = .verified entry → entry ∈ s.issued) :
    Ledger (s.setPhase number publishCall phase) := by
  refine ledger_frame ledger rfl rfl rfl ?_ ?_ ?_
  · intro row listed
    exact ⟨row, listed, rfl, fun _ => rfl⟩
  · intro number' entry held
    rcases holds_setPhase held with ⟨-, same | contrary⟩ | old
    · exact issued entry same
    · exact absurd contrary (unconsumed entry)
    · exact ledger.held number' entry old
  · intro number' entry consumed
    rcases consumed_setPhase consumed with ⟨-, contrary⟩ | ⟨-, old⟩
    · exact absurd contrary (unconsumed entry)
    · exact old

theorem ledger_ended (ledger : Ledger s) : Ledger (s.setPhase number publishCall .ended) :=
  ledger_setPhase ledger nofun nofun

theorem ledger_started (ledger : Ledger s) :
    Ledger { s with publishes := s.publishes ++ [⟨req, start, .started⟩] } := by
  refine ledger_frame ledger rfl rfl rfl ?_ ?_ ?_
  · intro row listed
    exact ⟨row, listed, rfl, fun _ => rfl⟩
  · rintro number entry ⟨call, listed, holds⟩
    rcases Slots.of_snoc listed with old | ⟨-, rfl⟩
    · exact ledger.held number entry ⟨call, old, holds⟩
    · rcases holds with contrary | contrary
      · cases contrary
      · cases contrary
  · rintro number entry ⟨call, listed, consumed⟩
    rcases Slots.of_snoc listed with old | ⟨-, rfl⟩
    · exact ⟨call, old, consumed⟩
    · cases consumed

theorem ledger_cleanup (ledger : Ledger s) :
    Ledger { s with nonces := cleanup s.nonces now retainSecs, requests } := by
  refine ledger_frame ledger rfl rfl rfl ?_ ?_ ?_
  · intro row listed
    exact ⟨row, List.mem_of_mem_filter listed, rfl, fun _ => rfl⟩
  · exact ledger.held
  · exact fun _ _ consumed => consumed

theorem ledger_create {row : PublishNonce} (ledger : Ledger s) (fresh : row.id = s.nextNonceId) :
    Ledger { s with
      nonces := s.nonces ++ [row], nextNonceId := s.nextNonceId + 1, issued := s.issued ++ [row], requests } := by
  have untaken : ∀ id < s.nextNonceId, Untaken (s.nonces ++ [row]) id → Untaken s.nonces id := by
    rintro id below ⟨other, listed, same, pending⟩
    rcases Slots.mem_snoc listed with old | rfl
    · exact ⟨other, old, same, pending⟩
    · exact absurd (same.symm.trans fresh) (Nat.ne_of_lt below)
  have bounded {rows : List PublishNonce} (below : ∀ other ∈ rows, other.id < s.nextNonceId) :
      ∀ other ∈ rows ++ [row], other.id < s.nextNonceId + 1 := by
    intro other listed
    rcases Slots.mem_snoc listed with old | rfl
    · exact Nat.lt_succ_of_lt (below other old)
    · exact fresh ▸ Nat.lt_succ_self _
  refine { ledger with
    bounded := bounded ledger.bounded
    issuedBounded := bounded ledger.issuedBounded
    pendingIssued := ?pendingIssued, held := ?held, taken := ?taken, insertedTaken := ?insertedTaken }
  case pendingIssued =>
    intro other listed pending
    rcases List.mem_append.mp listed with old | new
    · exact List.mem_append_left _ (ledger.pendingIssued other old pending)
    · exact List.mem_append_right _ new
  case held =>
    intro number entry held
    exact List.mem_append_left _ (ledger.held number entry held)
  case taken =>
    intro number entry consumed contrary
    have below := ledger.issuedBounded entry (ledger.held number entry consumed.holds)
    exact ledger.taken number entry consumed (untaken _ below contrary)
  case insertedTaken =>
    intro insertion listed
    obtain ⟨known, taken⟩ := ledger.insertedTaken insertion listed
    exact ⟨List.mem_append_left _ known, mt (untaken _ (ledger.issuedBounded _ known)) taken⟩

theorem mem_consumed {row : PublishNonce} (listed : row ∈ (consume nonces id).2) :
    ∃ old ∈ nonces, old.id = row.id ∧ (row.status = .pending → old = row ∧ row.id ≠ id) := by
  obtain ⟨old, member, rfl⟩ := List.mem_map.mp listed
  refine ⟨old, member, ?_, ?_⟩
  · split
    · rfl
    · rfl
  · split
    · nofun
    · next other =>
      intro pending
      exact ⟨rfl, fun same => other ⟨same, pending⟩⟩

theorem ledger_consume_frame (ledger : Ledger s) (id : Nat) :
    Ledger { s with nonces := (consume s.nonces id).2 } := by
  refine ledger_frame ledger rfl rfl rfl ?_ ?_ ?_
  · intro row listed
    obtain ⟨old, member, same, unchanged⟩ := mem_consumed listed
    exact ⟨old, member, same, fun pending => (unchanged pending).1⟩
  · exact ledger.held
  · exact fun _ _ consumed => consumed

theorem untaken_of_consume {done : Unit} (consumed : (consume nonces id).1 = .ok done) : Untaken nonces id := by
  have count := require_eq_ok.mp consumed
  have positive : 0 < nonces.countP fun row => row.id = id ∧ row.status = .pending := by omega
  obtain ⟨row, listed, matched⟩ := List.countP_pos_iff.mp positive
  simp only [decide_eq_true_eq] at matched
  exact ⟨row, listed, matched⟩

theorem ledger_consumed {done : Unit} (ledger : Ledger s)
    (listed : s.publishes[number]? = some ⟨req, start, .verified entry⟩)
    (consumed : (consume s.nonces entry.id).1 = .ok done) :
    Ledger (setPhase { s with nonces := (consume s.nonces entry.id).2 } number ⟨req, start, .verified entry⟩
      (.consumed entry)) := by
  have untaken := untaken_of_consume consumed
  have framed := ledger_consume_frame ledger entry.id
  have known : entry ∈ s.issued := ledger.held number entry ⟨_, listed, .inl rfl⟩
  -- No call and no insertion had taken the nonce before, for its row was pending.
  have fresh : ∀ number' entry', Consumed s number' entry' → entry'.id ≠ entry.id := by
    intro number' entry' earlier same
    exact ledger.taken number' entry' earlier (same ▸ untaken)
  refine { framed with held := ?held, taken := ?taken, distinct := ?distinct, separate := ?separate }
  case held =>
    intro number' entry' held
    rcases holds_setPhase held with ⟨-, contrary | same⟩ | old
    · cases contrary
    · cases same
      exact known
    · exact framed.held number' entry' old
  case taken =>
    intro number' entry' taken contrary
    rcases consumed_setPhase taken with ⟨-, same⟩ | ⟨-, old⟩
    · cases same
      obtain ⟨row, member, same, pending⟩ := contrary
      obtain ⟨_, -, -, unchanged⟩ := mem_consumed member
      exact (unchanged pending).2 same
    · exact framed.taken number' entry' old contrary
  case distinct =>
    intro first second entry₁ entry₂ taken taken' same
    rcases consumed_setPhase taken with ⟨rfl, one⟩ | ⟨-, old⟩
    · rcases consumed_setPhase taken' with ⟨rfl, -⟩ | ⟨-, old'⟩
      · rfl
      · cases one
        exact absurd same.symm (fresh second entry₂ old')
    · rcases consumed_setPhase taken' with ⟨rfl, two⟩ | ⟨-, old'⟩
      · cases two
        exact absurd same (fresh first entry₁ old)
      · exact framed.distinct first second entry₁ entry₂ old old' same
  case separate =>
    intro number' entry' taken insertion member same
    rcases consumed_setPhase taken with ⟨-, one⟩ | ⟨-, old⟩
    · cases one
      exact (ledger.insertedTaken insertion member).2 (same ▸ untaken)
    · exact framed.separate number' entry' old insertion member same

theorem ledger_insert {row : ActrPackage} {packages : List ActrPackage} (ledger : Ledger s)
    (listed : s.publishes[number]? = some ⟨req, start, .consumed entry⟩) :
    Ledger { s.setPhase number ⟨req, start, .consumed entry⟩ .ended with
      packages, nextPackageId, inserted := s.inserted ++ [⟨number, req, start, entry, row⟩] } := by
  have ended : Ledger (s.setPhase number ⟨req, start, .consumed entry⟩ .ended) := ledger_ended ledger
  have consumed : Consumed s number entry := ⟨_, listed, rfl⟩
  refine { ended with insertedTaken := ?insertedTaken, separate := ?separate, once := ?once }
  case insertedTaken =>
    intro insertion member
    rcases Slots.mem_snoc member with old | rfl
    · exact ledger.insertedTaken insertion old
    · exact ⟨ledger.held number entry consumed.holds, ledger.taken number entry consumed⟩
  case separate =>
    intro number' entry' taken insertion member
    rcases Slots.mem_snoc member with old | rfl
    · exact ended.separate number' entry' taken insertion old
    · rcases consumed_setPhase taken with ⟨-, contrary⟩ | ⟨other, earlier⟩
      · cases contrary
      · intro same
        exact other (ledger.distinct number' number entry' entry earlier consumed same.symm)
  case once =>
    rw [List.map_append]
    refine Slots.nodup_snoc ledger.once ?_
    intro member
    obtain ⟨insertion, old, same⟩ := List.mem_map.mp member
    exact ledger.separate number entry consumed insertion old same

/-! ## The statements -/

inductive PublishStep (crypto : Crypto) (s : PublishService) : Action → PublishService → Prop
  | read {action : Action} (mfr : List Manufacturer) (requests : List NonceCall) :
      PublishStep crypto s action { s with mfr, requests }
  | cleaned {action : Action} (now retainSecs : Int) (requests : List NonceCall) :
      PublishStep crypto s action { s with nonces := cleanup s.nonces now retainSecs, requests }
  | created {action : Action} {row : PublishNonce} (requests : List NonceCall) (fresh : row.id = s.nextNonceId) :
      PublishStep crypto s action { s with
        nonces := s.nonces ++ [row], nextNonceId := s.nextNonceId + 1, issued := s.issued ++ [row], requests }
  | started {req : PublishRequest} {now : Int} {start : PublishStart}
      (started : startPublish crypto s.tables req now = .ok start) :
      PublishStep crypto s (.readForPublish req now) { s with publishes := s.publishes ++ [⟨req, start, .started⟩] }
  | verified {number : Nat} {now : Int} {req : PublishRequest} {start : PublishStart} {entry : PublishNonce}
      (listed : s.publishes[number]? = some ⟨req, start, .started⟩)
      (verified : verifyPublish crypto s.nonces req start now = .ok entry) :
      PublishStep crypto s (.lookUpNonce number now) (s.setPhase number ⟨req, start, .started⟩ (.verified entry))
  | consumed {action : Action} {number : Nat} {req : PublishRequest} {start : PublishStart} {entry : PublishNonce}
      (listed : s.publishes[number]? = some ⟨req, start, .verified entry⟩)
      (consumed : (consume s.nonces entry.id).1 = .ok ()) :
      PublishStep crypto s action (setPhase { s with nonces := (consume s.nonces entry.id).2 } number
        ⟨req, start, .verified entry⟩ (.consumed entry))
  | ended {action : Action} {number : Nat} {call : PublishCall} {nonces : List PublishNonce}
      (listed : s.publishes[number]? = some call) (rows : nonces = s.nonces ∨ ∃ id, nonces = (consume s.nonces id).2) :
      PublishStep crypto s action (setPhase { s with nonces } number call .ended)
  | inserted {action : Action} {number : Nat} {req : PublishRequest} {start : PublishStart} {entry : PublishNonce}
      {id : Nat} {now : Int} (listed : s.publishes[number]? = some ⟨req, start, .consumed entry⟩) :
      PublishStep crypto s action { s.setPhase number ⟨req, start, .consumed entry⟩ .ended with
        packages := s.packages ++ [publishedRow id start.mfr.id req now]
        nextPackageId := s.nextPackageId + 1
        inserted := s.inserted ++ [⟨number, req, start, entry, publishedRow id start.mfr.id req now⟩] }

theorem publishStep_step (taken : step crypto parseToml s action = some t) : PublishStep crypto s action t := by
  cases action with
  | setManufacturers rows =>
    cases taken
    exact .read rows s.requests
  | readForNonce =>
    cases taken
    unfold readForNonce
    split
    · exact .read s.mfr s.requests
    · split <;> exact .read s.mfr _
  | cleanupForNonce call now retainSecs =>
    simp only [step, cleanupForNonce] at taken
    split at taken <;> cases taken
    exact .cleaned now retainSecs _
  | createNonce =>
    simp only [step, createNonce] at taken
    split at taken
    · split at taken <;> cases taken
      · exact .read s.mfr _
      · exact .created _ rfl
    · cases taken
  | cleanup now retainSecs =>
    cases taken
    exact .cleaned now retainSecs s.requests
  | readForPublish =>
    cases taken
    unfold readForPublish
    split
    · exact .read s.mfr s.requests
    · next started => exact .started started
  | lookUpNonce =>
    simp only [step, lookUpNonce] at taken
    split at taken
    · next listed =>
      split at taken <;> cases taken
      · exact .ended listed (.inl rfl)
      · next verified => exact .verified listed verified
    · cases taken
  | consumeNonce =>
    simp only [step, consumeNonce] at taken
    split at taken
    · next listed =>
      split at taken
      · cases taken
        exact .ended listed (.inr ⟨_, rfl⟩)
      · next consumed =>
        split at taken <;> cases taken
        · exact .ended listed (.inr ⟨_, rfl⟩)
        · exact .consumed listed consumed
    · cases taken
  | insertPackage =>
    simp only [step, insertPackage] at taken
    split at taken
    · next listed =>
      split at taken <;> cases taken
      · exact .ended listed (.inl rfl)
      · exact .inserted listed
    · cases taken

theorem ledger_step (ledger : Ledger s) (taken : step crypto parseToml s action = some t) : Ledger t := by
  cases publishStep_step taken with
  | read => exact { ledger with }
  | cleaned => exact ledger_cleanup ledger
  | created _ fresh => exact ledger_create ledger fresh
  | started => exact ledger_started ledger
  | @verified _ _ _ _ entry _ verified =>
    obtain ⟨member, -, pending, -⟩ := findPending_eq_ok (verifyPublish_eq_ok verified).1
    refine ledger_setPhase ledger nofun ?_
    rintro _ ⟨⟩
    exact ledger.pendingIssued entry member pending
  | consumed listed consumed => exact ledger_consumed ledger listed consumed
  | ended _ rows =>
    rcases rows with rfl | ⟨id, rfl⟩
    · exact ledger_ended ledger
    · exact ledger_ended (ledger_consume_frame ledger id)
  | inserted listed => exact ledger_insert ledger listed

/-! ## What the calls of a run have read -/

section Reads

variable (crypto parseToml opening)

def ReadFirst (past : List Action) (number : Nat) (req : PublishRequest) (start : PublishStart) : Prop :=
  ∃ u now, Taken (step crypto parseToml) opening past (.readForPublish req now) u ∧ u.publishes.length = number ∧
    startPublish crypto u.tables req now = .ok start

def LookedUp (past : List Action) (number : Nat) (req : PublishRequest) (start : PublishStart) (entry : PublishNonce) :
    Prop :=
  ∃ u now, Taken (step crypto parseToml) opening past (.lookUpNonce number now) u ∧
    verifyPublish crypto u.nonces req start now = .ok entry

structure Reads (past : List Action) (s : PublishService) : Prop where
  started : ∀ (number : Nat) call, s.publishes[number]? = some call →
    ReadFirst crypto parseToml opening past number call.req call.start
  verified : ∀ (number : Nat) call entry, s.publishes[number]? = some call →
    call.phase = .verified entry ∨ call.phase = .consumed entry →
    LookedUp crypto parseToml opening past number call.req call.start entry
  inserted : ∀ insertion ∈ s.inserted,
    ReadFirst crypto parseToml opening past insertion.call insertion.req insertion.start ∧
      LookedUp crypto parseToml opening past insertion.call insertion.req insertion.start insertion.entry ∧
      ∃ id now, insertion.row = publishedRow id insertion.start.mfr.id insertion.req now
  packages : s.packages = opening.packages ++ s.inserted.map fun insertion => insertion.row

end Reads

theorem ReadFirst.later (read : ReadFirst crypto parseToml opening past number req start) :
    ReadFirst crypto parseToml opening (past ++ [action]) number req start := by
  obtain ⟨u, now, taken, rest⟩ := read
  exact ⟨u, now, taken.later, rest⟩

theorem LookedUp.later (looked : LookedUp crypto parseToml opening past number req start entry) :
    LookedUp crypto parseToml opening (past ++ [action]) number req start entry := by
  obtain ⟨u, now, taken, rest⟩ := looked
  exact ⟨u, now, taken.later, rest⟩

section

variable (reads : Reads crypto parseToml opening past s)
include reads

theorem reads_frame
    (calls : ∀ (number : Nat) call, t.publishes[number]? = some call → ∃ old, s.publishes[number]? = some old ∧
      old.req = call.req ∧ old.start = call.start ∧ ∀ entry, call.phase = .verified entry ∨ call.phase = .consumed entry →
        old.phase = .verified entry ∨ old.phase = .consumed entry)
    (inserted : t.inserted = s.inserted) (packages : t.packages = s.packages) :
    Reads crypto parseToml opening (past ++ [action]) t := by
  constructor
  case started =>
    intro number call listed
    obtain ⟨old, found, sameReq, sameStart, -⟩ := calls number call listed
    rw [← sameReq, ← sameStart]
    exact (reads.started number old found).later
  case verified =>
    intro number call entry listed held
    obtain ⟨old, found, sameReq, sameStart, kept⟩ := calls number call listed
    rw [← sameReq, ← sameStart]
    exact (reads.verified number old entry found (kept entry held)).later
  case inserted =>
    rw [inserted]
    intro insertion listed
    obtain ⟨read, looked, row⟩ := reads.inserted insertion listed
    exact ⟨read.later, looked.later, row⟩
  case packages =>
    rw [inserted, packages]
    exact reads.packages

theorem reads_same (publishes : t.publishes = s.publishes) (inserted : t.inserted = s.inserted)
    (packages : t.packages = s.packages) : Reads crypto parseToml opening (past ++ [action]) t := by
  refine reads_frame reads ?_ inserted packages
  intro number call listed
  rw [publishes] at listed
  exact ⟨call, listed, rfl, rfl, fun _ held => held⟩

theorem reads_setPhase (listed : s.publishes[number]? = some publishCall)
    (kept : ∀ entry, phase = .verified entry ∨ phase = .consumed entry →
      publishCall.phase = .verified entry ∨ publishCall.phase = .consumed entry) :
    Reads crypto parseToml opening (past ++ [action]) (s.setPhase number publishCall phase) := by
  refine reads_frame reads ?_ rfl rfl
  intro number' call found
  rcases Slots.of_set found with ⟨rfl, rfl⟩ | ⟨-, old⟩
  · exact ⟨publishCall, listed, rfl, rfl, kept⟩
  · exact ⟨call, old, rfl, rfl, fun _ held => held⟩

theorem reads_ended (listed : s.publishes[number]? = some publishCall) :
    Reads crypto parseToml opening (past ++ [action]) (s.setPhase number publishCall .ended) := by
  apply reads_setPhase reads listed
  rintro entry (contrary | contrary)
  · cases contrary
  · cases contrary

theorem reads_started (run : exec (step crypto parseToml) opening past = some s)
    (started : startPublish crypto s.tables req now = .ok start) :
    Reads crypto parseToml opening (past ++ [.readForPublish req now])
      { s with publishes := s.publishes ++ [⟨req, start, .started⟩] } := by
  have framed : Reads crypto parseToml opening (past ++ [.readForPublish req now]) s := reads_same reads rfl rfl rfl
  refine { framed with started := ?started, verified := ?verified }
  case started =>
    intro number call listed
    rcases Slots.of_snoc listed with old | ⟨rfl, rfl⟩
    · exact framed.started number call old
    · exact ⟨s, now, .last run, rfl, started⟩
  case verified =>
    intro number call entry listed held
    rcases Slots.of_snoc listed with old | ⟨rfl, rfl⟩
    · exact framed.verified number call entry old held
    · rcases held with contrary | contrary
      · cases contrary
      · cases contrary

theorem reads_verified (run : exec (step crypto parseToml) opening past = some s)
    (listed : s.publishes[number]? = some ⟨req, start, .started⟩)
    (verified : verifyPublish crypto s.nonces req start now = .ok entry) :
    Reads crypto parseToml opening (past ++ [.lookUpNonce number now])
      (s.setPhase number ⟨req, start, .started⟩ (.verified entry)) := by
  have framed : Reads crypto parseToml opening (past ++ [.lookUpNonce number now]) s := reads_same reads rfl rfl rfl
  refine { framed with started := ?started, verified := ?verified }
  case started =>
    intro number' call found
    rcases Slots.of_set found with ⟨rfl, rfl⟩ | ⟨-, old⟩
    · exact framed.started number' ⟨req, start, .started⟩ listed
    · exact framed.started number' call old
  case verified =>
    intro number' call entry' found held
    rcases Slots.of_set found with ⟨rfl, rfl⟩ | ⟨-, old⟩
    · rcases held with same | contrary
      · cases same
        exact ⟨s, now, .last run, verified⟩
      · cases contrary
    · exact framed.verified number' call entry' old held

theorem reads_inserted (listed : s.publishes[number]? = some ⟨req, start, .consumed entry⟩) :
    Reads crypto parseToml opening (past ++ [action]) { s.setPhase number ⟨req, start, .consumed entry⟩ .ended with
        packages := s.packages ++ [publishedRow id start.mfr.id req now]
        nextPackageId
        inserted := s.inserted ++ [⟨number, req, start, entry, publishedRow id start.mfr.id req now⟩] } := by
  have ended : Reads crypto parseToml opening (past ++ [action])
      (s.setPhase number ⟨req, start, .consumed entry⟩ .ended) := reads_ended reads listed
  refine { ended with inserted := ?inserted, packages := ?packages }
  case inserted =>
    intro insertion member
    rcases Slots.mem_snoc member with old | rfl
    · exact ended.inserted insertion old
    · exact ⟨(reads.started number _ listed).later, (reads.verified number _ entry listed (.inr rfl)).later,
        id, now, rfl⟩
  case packages =>
    rw [List.map_append, ← List.append_assoc, ← reads.packages]
    rfl

theorem reads_step (run : exec (step crypto parseToml) opening past = some s)
    (taken : step crypto parseToml s action = some t) : Reads crypto parseToml opening (past ++ [action]) t := by
  cases publishStep_step taken with
  | read | cleaned | created => exact reads_same reads rfl rfl rfl
  | started started => exact reads_started reads run started
  | verified listed verified => exact reads_verified reads run listed verified
  | consumed listed =>
    refine reads_setPhase { reads with } listed ?_
    rintro entry' (contrary | same)
    · cases contrary
    · cases same
      exact .inl rfl
  | ended listed => exact reads_ended { reads with } listed
  | inserted listed => exact reads_inserted reads listed

end

/-! ## The run -/

structure Opens (s : PublishService) : Prop where
  requests : s.requests = []
  publishes : s.publishes = []
  inserted : s.inserted = []
  issued : s.issued = s.nonces
  bounded : ∀ row ∈ s.nonces, row.id < s.nextNonceId

theorem Opens.idle (opens : Opens s) : ¬ Holds s number entry := by
  rintro ⟨call, listed, -⟩
  rw [opens.publishes] at listed
  cases listed

theorem ledger_opens (opens : Opens s) : Ledger s where
  bounded := opens.bounded
  issuedBounded := opens.issued ▸ opens.bounded
  pendingIssued _ listed _ := opens.issued ▸ listed
  held _ _ held := absurd held opens.idle
  taken _ _ consumed := absurd consumed.holds opens.idle
  insertedTaken insertion listed := by
    rw [opens.inserted] at listed
    cases listed
  distinct _ _ _ _ consumed := absurd consumed.holds opens.idle
  separate _ _ consumed := absurd consumed.holds opens.idle
  once := by
    rw [opens.inserted]
    exact List.nodup_nil

theorem reads_opens (opens : Opens opening) : Reads crypto parseToml opening [] opening where
  started number call listed := by
    rw [opens.publishes] at listed
    cases listed
  verified number call entry listed := by
    rw [opens.publishes] at listed
    cases listed
  inserted insertion listed := by
    rw [opens.inserted] at listed
    cases listed
  packages := by simp [opens.inserted]

/-- What stands behind a row of a package. -/
structure Authorised (crypto : Crypto) (parseToml : String → Except String Toml.Value) (opening t : PublishService)
    (actions : List Action) (insertion : Insertion) : Prop where
  manufacturer : insertion.row.manufacturer = insertion.req.manufacturer
  name : insertion.row.name = insertion.req.name
  version : insertion.row.version = insertion.req.version
  target : insertion.row.target = insertion.req.target
  manifest : insertion.row.manifest = insertion.req.manifest
  signature : insertion.row.signature = insertion.req.signature
  protoFiles : insertion.row.protoFiles = insertion.req.protoFiles.map fun files => String.ofList (Json.print files)
  read : ∃ u now, Taken (step crypto parseToml) opening actions (.readForPublish insertion.req now) u ∧
    u.publishes.length = insertion.call ∧ u.tables.getByName insertion.req.manufacturer = some insertion.start.mfr
  nonceSigned : insertion.req.nonce = some insertion.start.nonceB64 ∧
    insertion.req.nonceSig = some insertion.start.nonceSigB64 ∧
    crypto.base64Decode insertion.start.nonceB64 = .ok insertion.start.nonceBytes
  manifestSigned : Verifies crypto insertion.start.mfr.publicKey (Text.utf8 insertion.req.manifest)
    insertion.req.signature
  bodySigned :
    let payload := publishAuthPayload crypto insertion.req insertion.start.nonceB64 insertion.start.nonceBytes
    Verifies crypto insertion.start.mfr.publicKey (Text.utf8 payload) insertion.start.nonceSigB64 ∧
      CommitsTo crypto payload insertion.req insertion.start.nonceBytes
  issued : insertion.entry ∈ t.issued ∧ insertion.entry.mfrId = insertion.start.mfr.id ∧
    insertion.entry.nonce = insertion.start.nonceBytes
  pending : ∃ u now, Taken (step crypto parseToml) opening actions (.lookUpNonce insertion.call now) u ∧
    insertion.entry ∈ u.nonces ∧ insertion.entry.status = .pending ∧ now ≤ insertion.entry.expiresAt

theorem publish_nonces_authorise_once (collisionFree : Function.Injective crypto.sha256) (opens : Opens opening)
    {actions : List Action} (run : exec (step crypto parseToml) opening actions = some t) :
    (t.inserted.map fun insertion => insertion.entry.id).Nodup ∧
      t.packages = opening.packages ++ (t.inserted.map fun insertion => insertion.row) ∧
      ∀ insertion ∈ t.inserted, Authorised crypto parseToml opening t actions insertion := by
  have ledger : Ledger t := exec_invariant (fun _ _ _ inv taken => ledger_step inv taken) (ledger_opens opens) run
  have reads : Reads crypto parseToml opening actions t :=
    exec_past_invariant (reads_opens opens) (fun _ _ _ _ before inv taken => reads_step inv before taken) run
  refine ⟨ledger.once, reads.packages, ?_⟩
  intro insertion listed
  obtain ⟨⟨u, now, begun, first, started⟩, ⟨u', now', looked, verified⟩, id, inserted, row⟩ :=
    reads.inserted insertion listed
  obtain ⟨found, -, nonce, nonceSig, decoded⟩ := startPublish_eq_ok started
  obtain ⟨pending, own, body, manifest⟩ := verifyPublish_eq_ok verified
  obtain ⟨member, sameNonce, status, unexpired⟩ := findPending_eq_ok pending
  constructor
  case manufacturer => exact congrArg ActrPackage.manufacturer row
  case name => exact congrArg ActrPackage.name row
  case version => exact congrArg ActrPackage.version row
  case target => exact congrArg ActrPackage.target row
  case manifest => exact congrArg ActrPackage.manifest row
  case signature => exact congrArg ActrPackage.signature row
  case protoFiles => exact congrArg ActrPackage.protoFiles row
  case read => exact ⟨u, now, begun, first, found⟩
  case nonceSigned => exact ⟨nonce, nonceSig, decoded⟩
  case manifestSigned => exact manifest
  case bodySigned => exact ⟨body, publishAuthPayload_commits collisionFree⟩
  case issued => exact ⟨(ledger.insertedTaken insertion listed).1, own, sameNonce⟩
  case pending => exact ⟨u', now', looked, member, status, unexpired⟩

section Runs

def echoToml : Toml.Value :=
  .table [("manufacturer", .string "acme"), ("name", .string "echo"), ("version", .string "1.0"),
    ("binary", .table [("target", .string "wasm32")])]

def echoPublish : PublishRequest :=
  ⟨"acme", "echo", "1.0", "wasm32", "manifest", String.ofList (List.replicate 64 's'), none, some "nonce",
    some (String.ofList (List.replicate 64 'n'))⟩

def idle : PublishService :=
  ⟨[⟨1, "acme", keyText '0', firstKeyId, .active, 0, none, some 10, some 5000⟩], [], 1, [], 1, [], [], [], []⟩

def publishedTwice : List PublishService.Action :=
  [.readForNonce "acme", .cleanupForNonce 0 100 86400, .createNonce 0 (Text.utf8 "nonce") 100,
    .readForPublish echoPublish 110, .readForPublish echoPublish 111, .lookUpNonce 0 120, .lookUpNonce 1 121,
    .consumeNonce 1, .consumeNonce 0, .insertPackage 1 130]

theorem echo_published_once : Function.Injective plainCrypto.sha256 ∧ Opens idle ∧
      ∃ t, exec (PublishService.step plainCrypto fun _ => .ok echoToml) idle publishedTwice = some t ∧
        (t.inserted.map fun insertion => insertion.entry.id) = [1] ∧ ∀ insertion ∈ t.inserted,
          Authorised plainCrypto (fun _ => .ok echoToml) idle t publishedTwice insertion := by
  have collisionFree : Function.Injective plainCrypto.sha256 := fun _ _ same => same
  have opens : Opens idle := ⟨rfl, rfl, rfl, rfl, nofun⟩
  have ran : (exec (PublishService.step plainCrypto fun _ => .ok echoToml) idle publishedTwice).map
      (fun t => t.inserted.map fun insertion => insertion.entry.id) = some [1] := by decide +kernel
  obtain ⟨t, run, inserted⟩ := Option.map_eq_some_iff.mp ran
  exact ⟨collisionFree, opens, t, run, inserted, (publish_nonces_authorise_once collisionFree opens run).2.2⟩

end Runs

end Actr.Proof.Mfr
