import Actr.Actrix.Mfr.KeyRenewal
import Actr.Library.Slots

/-! # Resolving the keys of a manufacturer -/

namespace Actr.Proof.Mfr
open Actrix.Mfr Library Machine KeyRegistry

variable {crypto : Crypto} {s t : KeyRegistry} {keyId publicKey : String} {known : List (String × String)}
  {result : Except MfrError MfrPublicInfo} {call historyId : Nat} {now : Int} {action : Action}
variable {row : MfrKeyHistory} {mfr : Manufacturer} {nextHistoryId : Nat}

def Revoked (s : KeyRegistry) (keyId : String) : Prop :=
  ∃ row ∈ s.history, row.mfrId = s.mfr.id ∧ row.keyId = keyId ∧ row.status = .revoked

def firstRow (s : KeyRegistry) (keyId : String) : Option MfrKeyHistory :=
  s.history.find? fun row => row.mfrId = s.mfr.id ∧ row.keyId = keyId

/-- A known key that is not revoked is answered with its public key, and a revoked one is not answered. -/
structure Correct (s : KeyRegistry) (known : List (String × String)) (keyId : String)
    (result : Except MfrError MfrPublicInfo) : Prop where
  resolves : ∀ publicKey, (keyId, publicKey) ∈ known → ¬ Revoked s keyId →
    ∃ info, result = .ok info ∧ info.keyId = keyId ∧ info.publicKey = publicKey
  refuses : Revoked s keyId → ∀ info, result ≠ .ok info

def Resolvable (s : KeyRegistry) : Prop :=
  ∀ keyId, Correct s s.returned keyId (s.tables.resolveKeyById s.mfr.name keyId)

def AnswersKeys (s : KeyRegistry) : Action → KeyRegistry → Prop
  | .finishResolve call, _ =>
    ∀ resolution, s.resolutions[call]? = some resolution →
      Correct s resolution.known resolution.keyId (s.answer resolution)
  | _, t => Resolvable t

/-- What a write, a revocation and a resolution of a key must keep to. -/
def KeepsKeys (crypto : Crypto) (s : KeyRegistry) : Action → KeyRegistry → Prop
  | .update call _, _ =>
    ∀ mfr newPublicKey newKeyId, s.renewals[call]? = some ⟨mfr, newPublicKey, .archived⟩ →
      crypto.computeKeyIdFromB64 newPublicKey = .ok newKeyId →
      ¬ Revoked s newKeyId ∧ (∀ publicKey, (newKeyId, publicKey) ∈ s.returned → publicKey = newPublicKey) ∧
        (s.mfr.keyId = newKeyId ∨ (firstRow s s.mfr.keyId).isSome)
  | .revoke historyId, _ =>
    ∀ row ∈ s.history, row.id = historyId → row.keyId ≠ s.mfr.keyId ∧
      ∀ first, firstRow s row.keyId = some first → first.id = historyId ∨ first.status = .revoked
  | .finishResolve call, _ =>
    ∀ resolution, s.resolutions[call]? = some resolution → resolution.mfr.keyId = resolution.keyId →
      s.mfr.keyId = resolution.keyId
  | _, _ => True

structure Archived (s : KeyRegistry) : Prop where
  active : s.mfr.status = .active
  expires : s.mfr.keyExpiresAt.isSome
  current : (s.mfr.keyId, s.mfr.publicKey) ∈ s.returned
  functional : ∀ keyId publicKey publicKey', (keyId, publicKey) ∈ s.returned → (keyId, publicKey') ∈ s.returned →
    publicKey = publicKey'
  archived : ∀ keyId publicKey, (keyId, publicKey) ∈ s.returned → s.mfr.keyId = keyId ∨ (firstRow s keyId).isSome
  rows : ∀ row ∈ s.history, row.mfrId = s.mfr.id ∧ (row.keyId, row.publicKey) ∈ s.returned
  revoked : ∀ keyId, Revoked s keyId → s.mfr.keyId ≠ keyId ∧
    ∀ first, firstRow s keyId = some first → first.status = .revoked
  renewals : ∀ (number : Nat) renewal, s.renewals[number]? = some renewal →
    renewal.mfr.id = s.mfr.id ∧ (renewal.mfr.keyId, renewal.mfr.publicKey) ∈ s.returned
  resolutions : ∀ (number : Nat) resolution, s.resolutions[number]? = some resolution →
    (resolution.mfr.id = s.mfr.id ∧ resolution.mfr.name = s.mfr.name) ∧ resolution.known ⊆ s.returned ∧
      (resolution.mfr.keyId = resolution.keyId → ∃ publicKey, (resolution.keyId, publicKey) ∈ resolution.known) ∧
      (resolution.mfr.keyId ≠ resolution.keyId →
        ∀ publicKey, (resolution.keyId, publicKey) ∈ resolution.known → (firstRow s resolution.keyId).isSome)

theorem firstRow_eq_some (first : firstRow s keyId = some row) :
    row ∈ s.history ∧ row.mfrId = s.mfr.id ∧ row.keyId = keyId := by
  have found := List.find?_some first
  simp only [decide_eq_true_eq] at found
  exact ⟨List.mem_of_find?_eq_some first, found⟩

theorem firstRow_isSome : (firstRow s keyId).isSome ↔ ∃ row ∈ s.history, row.mfrId = s.mfr.id ∧ row.keyId = keyId := by
  simp [firstRow]

theorem firstRow_isSome_of_revoked (revoked : Revoked s keyId) : (firstRow s keyId).isSome := by
  obtain ⟨row, member, mfrId, same, -⟩ := revoked
  exact firstRow_isSome.mpr ⟨row, member, mfrId, same⟩

theorem getByName_self : s.tables.getByName s.mfr.name = some s.mfr := by
  simp [tables, MfrTables.getByName]

theorem resolveByName_self (active : s.mfr.status = .active) (expires : s.mfr.keyExpiresAt.isSome) :
    ∃ info, s.tables.resolveByName s.mfr.name = .ok info ∧ info.keyId = s.mfr.keyId ∧
      info.publicKey = s.mfr.publicKey := by
  obtain ⟨expiresAt, written⟩ := Option.isSome_iff_exists.mp expires
  unfold MfrTables.resolveByName
  rw [getByName_self]
  simp [active, written]

theorem resolveKeyById_current (current : s.mfr.keyId = keyId) :
    s.tables.resolveKeyById s.mfr.name keyId = s.tables.resolveByName s.mfr.name := by
  unfold MfrTables.resolveKeyById
  rw [getByName_self]
  simp [current]

theorem resolveKeyById_other (other : s.mfr.keyId ≠ keyId) :
    s.tables.resolveKeyById s.mfr.name keyId = s.tables.resolveHistorical s.mfr keyId := by
  unfold MfrTables.resolveKeyById
  rw [getByName_self]
  simp [other]

theorem resolveHistorical_none (same : mfr.id = s.mfr.id) (missing : firstRow s keyId = none) :
    s.tables.resolveHistorical mfr keyId = .error .notFound := by
  unfold firstRow at missing
  simp only [MfrTables.resolveHistorical, MfrTables.getByKeyId, same, tables, missing]

theorem resolveHistorical_revoked (same : mfr.id = s.mfr.id) (first : firstRow s keyId = some row)
    (revoked : row.status = .revoked) : s.tables.resolveHistorical mfr keyId = .error (.keyRevoked keyId) := by
  unfold firstRow at first
  simp only [MfrTables.resolveHistorical, MfrTables.getByKeyId, same, tables, first, revoked, if_true]

theorem resolveHistorical_retired (same : mfr.id = s.mfr.id) (first : firstRow s keyId = some row)
    (retired : row.status ≠ .revoked) :
    ∃ info, s.tables.resolveHistorical mfr keyId = .ok info ∧ info.keyId = row.keyId ∧
      info.publicKey = row.publicKey := by
  unfold firstRow at first
  simp only [MfrTables.resolveHistorical, MfrTables.getByKeyId, same, tables, first, retired, if_false]
  exact ⟨_, rfl, rfl, rfl⟩

theorem correct_current (inv : Archived s) (current : s.mfr.keyId = keyId) (returned : known ⊆ s.returned) :
    Correct s known keyId (s.tables.resolveByName s.mfr.name) := by
  obtain ⟨info, resolved, sameId, sameKey⟩ := resolveByName_self inv.active inv.expires
  constructor
  case resolves =>
    intro publicKey member _
    refine ⟨info, resolved, sameId.trans current, ?_⟩
    rw [sameKey]
    exact inv.functional keyId _ _ (current ▸ inv.current) (returned member)
  case refuses =>
    intro revoked
    exact absurd current (inv.revoked keyId revoked).1

theorem correct_historical (inv : Archived s) (same : mfr.id = s.mfr.id) (returned : known ⊆ s.returned)
    (archived : ∀ publicKey, (keyId, publicKey) ∈ known → (firstRow s keyId).isSome) :
    Correct s known keyId (s.tables.resolveHistorical mfr keyId) := by
  constructor
  case resolves =>
    intro publicKey member unrevoked
    obtain ⟨row, first⟩ := Option.isSome_iff_exists.mp (archived publicKey member)
    obtain ⟨listed, mfrId, sameId⟩ := firstRow_eq_some first
    have retired : row.status ≠ .revoked := fun revoked => unrevoked ⟨row, listed, mfrId, sameId, revoked⟩
    obtain ⟨info, resolved, infoId, infoKey⟩ := resolveHistorical_retired same first retired
    refine ⟨info, resolved, infoId.trans sameId, ?_⟩
    rw [infoKey]
    exact inv.functional keyId _ _ (sameId ▸ (inv.rows row listed).2) (returned member)
  case refuses =>
    intro revoked info
    obtain ⟨row, first⟩ := Option.isSome_iff_exists.mp (firstRow_isSome_of_revoked revoked)
    rw [resolveHistorical_revoked same first ((inv.revoked keyId revoked).2 row first)]
    exact nofun

theorem resolvable_of_archived (inv : Archived s) : Resolvable s := by
  intro keyId
  by_cases current : s.mfr.keyId = keyId
  · rw [resolveKeyById_current current]
    exact correct_current inv current (List.Subset.refl _)
  · rw [resolveKeyById_other current]
    apply correct_historical inv rfl (List.Subset.refl _)
    intro publicKey member
    exact (inv.archived keyId publicKey member).resolve_left current

theorem archived_activate (activated : activate crypto mfr publicKey now = .ok s) : Archived s := by
  unfold activate at activated
  split at activated
  · cases activated
  · cases computed : crypto.computeKeyIdFromB64 publicKey with
    | error =>
      rw [computed] at activated
      cases activated
    | ok keyId =>
      rw [computed] at activated
      cases activated
      constructor
      case active | expires => rfl
      case current => exact List.mem_cons_self
      case functional =>
        intro keyId key key' member member'
        cases List.mem_singleton.mp member
        cases List.mem_singleton.mp member'
        rfl
      case archived =>
        intro keyId key member
        cases List.mem_singleton.mp member
        exact .inl rfl
      case rows => exact nofun
      case revoked =>
        rintro keyId ⟨row, listed, -⟩
        cases listed
      case renewals | resolutions =>
        intro number entry listed
        cases listed

theorem archived_readRow (inv : Archived s) (taken : s.readRow crypto publicKey = some t) : Archived t := by
  unfold readRow at taken
  split at taken
  · cases taken
  · rw [if_neg (not_not_intro inv.active)] at taken
    cases taken
    refine { inv with renewals := ?_ }
    intro number renewal listed
    rcases Slots.of_snoc listed with old | ⟨-, rfl⟩
    · exact inv.renewals number renewal old
    · exact ⟨rfl, inv.current⟩

theorem archived_renewals {phase : RenewalPhase} (inv : Archived s)
    (listed : s.renewals[call]? = some ⟨mfr, publicKey, phase⟩) (phase' : RenewalPhase) :
    Archived { s with renewals := s.renewals.set call ⟨mfr, publicKey, phase'⟩ } := by
  refine { inv with renewals := ?_ }
  intro number renewal found
  rcases Slots.of_set found with ⟨-, rfl⟩ | ⟨-, old⟩
  · exact inv.renewals call ⟨mfr, publicKey, phase⟩ listed
  · exact inv.renewals number renewal old

theorem firstRow_append (retired : row.status ≠ .revoked) :
    let t := { s with history := s.history ++ [row], nextHistoryId }
    ((firstRow s keyId).isSome → firstRow t keyId = firstRow s keyId) ∧ (Revoked t keyId ↔ Revoked s keyId) := by
  constructor
  · intro found
    obtain ⟨first, found⟩ := Option.isSome_iff_exists.mp found
    simp only [firstRow] at found ⊢
    rw [List.find?_append, found]
    rfl
  · simp [Revoked, or_and_right, exists_or, retired]

theorem archived_insert (inv : Archived s) (own : row.mfrId = s.mfr.id)
    (returned : (row.keyId, row.publicKey) ∈ s.returned) (retired : row.status ≠ .revoked) :
    Archived { s with history := s.history ++ [row], nextHistoryId } := by
  refine { inv with archived := ?_, rows := ?_, revoked := ?_, resolutions := ?_ }
  · intro keyId publicKey member
    apply (inv.archived keyId publicKey member).imp_right
    intro found
    rw [(firstRow_append retired).1 found]
    exact found
  · intro other listed
    rcases Slots.mem_snoc listed with old | rfl
    · exact inv.rows other old
    · exact ⟨own, returned⟩
  · intro keyId revoked
    have revoked := (firstRow_append retired).2.mp revoked
    rw [(firstRow_append retired).1 (firstRow_isSome_of_revoked revoked)]
    exact inv.revoked keyId revoked
  · intro number resolution listed
    obtain ⟨same, subset, viaName, viaHistory⟩ := inv.resolutions number resolution listed
    refine ⟨same, subset, viaName, fun other publicKey member => ?_⟩
    have found := viaHistory other publicKey member
    rw [(firstRow_append retired).1 found]
    exact found

theorem archived_archive (inv : Archived s) (taken : s.archive call now = some t) : Archived t := by
  unfold archive at taken
  split at taken
  case h_1 mfr newPublicKey listed =>
    obtain ⟨own, returned⟩ := inv.renewals call _ listed
    have marked := archived_renewals inv listed .archived
    split at taken
    · cases taken
      exact archived_insert marked own returned nofun
    · cases taken
      exact marked
  case h_2 => cases taken

def renewed (s : KeyRegistry) (publicKey keyId : String) (now : Int) : KeyRegistry :=
  { s with
    mfr := { s.mfr with publicKey, keyId, keyExpiresAt := some (now + yearSecs), updatedAt := some now }
    returned := s.returned ++ [(keyId, publicKey)] }

theorem archived_renewed (inv : Archived s) (unrevoked : ¬ Revoked s keyId)
    (unique : ∀ other, (keyId, other) ∈ s.returned → other = publicKey)
    (kept : s.mfr.keyId = keyId ∨ (firstRow s s.mfr.keyId).isSome) : Archived (renewed s publicKey keyId now) := by
  have belongs : ∀ other, (keyId, other) ∈ s.returned ++ [(keyId, publicKey)] → other = publicKey := by
    intro other member
    rcases Slots.mem_snoc member with old | new
    · exact unique other old
    · cases new
      rfl
  have old : ∀ other key, (other, key) ∈ s.returned ++ [(keyId, publicKey)] → other ≠ keyId →
      (other, key) ∈ s.returned := by
    intro other key member different
    apply (List.mem_append.mp member).resolve_right
    intro new
    cases List.mem_singleton.mp new
    exact different rfl
  constructor
  case active => exact inv.active
  case expires => rfl
  case current => exact List.mem_append_right _ List.mem_cons_self
  case functional =>
    intro other key key' member member'
    by_cases same : other = keyId
    · subst same
      rw [belongs key member, belongs key' member']
    · exact inv.functional other key key' (old other key member same) (old other key' member' same)
  case archived =>
    intro other key member
    by_cases same : other = keyId
    · exact .inl same.symm
    · refine .inr ?_
      rcases inv.archived other key (old other key member same) with current | found
      · exact current ▸ kept.resolve_left (current ▸ same)
      · exact found
  case rows =>
    intro row listed
    exact ⟨(inv.rows row listed).1, List.mem_append_left _ (inv.rows row listed).2⟩
  case revoked =>
    intro other revoked
    refine ⟨?_, (inv.revoked other revoked).2⟩
    rintro rfl
    exact unrevoked revoked
  case renewals =>
    intro number renewal listed
    obtain ⟨own, returned⟩ := inv.renewals number renewal listed
    exact ⟨own, List.mem_append_left _ returned⟩
  case resolutions =>
    intro number resolution listed
    obtain ⟨same, subset, rest⟩ := inv.resolutions number resolution listed
    exact ⟨same, List.subset_append_of_subset_left _ subset, rest⟩

theorem renewed_keyId : (renewed s publicKey keyId now).mfr.keyId = keyId := rfl

theorem keeps_of_renewed_resolvable (inv : Archived s) (correct : Resolvable (renewed s publicKey keyId now)) :
    ¬ Revoked s keyId ∧ (∀ other, (keyId, other) ∈ s.returned → other = publicKey) ∧
      (s.mfr.keyId = keyId ∨ (firstRow s s.mfr.keyId).isSome) := by
  have answer := correct keyId
  rw [resolveKeyById_current renewed_keyId] at answer
  obtain ⟨info, resolved, -, sameKey⟩ := resolveByName_self (s := renewed s publicKey keyId now) inv.active rfl
  have unrevoked : ¬ Revoked s keyId := fun revoked => answer.refuses revoked info resolved
  refine ⟨unrevoked, ?_, ?_⟩
  · intro other member
    obtain ⟨info', resolved', -, sameKey'⟩ := answer.resolves other (List.mem_append_left _ member) unrevoked
    cases resolved.symm.trans resolved'
    exact sameKey'.symm.trans sameKey
  · by_contra lost
    rw [not_or, Option.not_isSome_iff_eq_none] at lost
    obtain ⟨replaced, missing⟩ := lost
    have answer := correct s.mfr.keyId
    have other : (renewed s publicKey keyId now).mfr.keyId ≠ s.mfr.keyId := Ne.symm replaced
    rw [resolveKeyById_other other,
      resolveHistorical_none (s := renewed s publicKey keyId now) rfl missing] at answer
    obtain ⟨info, resolved, -⟩ := answer.resolves s.mfr.publicKey (List.mem_append_left _ inv.current) (by
      intro revoked
      have found := firstRow_isSome_of_revoked (s := s) revoked
      rw [missing] at found
      cases found)
    cases resolved

theorem update_cases (taken : s.update crypto call now = some t) :
    ∃ mfr newPublicKey, s.renewals[call]? = some ⟨mfr, newPublicKey, .archived⟩ ∧
      let marked := { s with renewals := s.renewals.set call ⟨mfr, newPublicKey, .ended⟩ }
      ((∃ error, crypto.computeKeyIdFromB64 newPublicKey = .error error ∧ t = marked) ∨
        ∃ newKeyId, crypto.computeKeyIdFromB64 newPublicKey = .ok newKeyId ∧
          t = renewed marked newPublicKey newKeyId now) := by
  unfold update at taken
  split at taken
  case h_1 mfr newPublicKey listed =>
    refine ⟨mfr, newPublicKey, listed, ?_⟩
    cases computed : crypto.computeKeyIdFromB64 newPublicKey with
    | error error =>
      simp only [computed, Option.some.injEq] at taken
      exact .inl ⟨error, rfl, taken.symm⟩
    | ok newKeyId =>
      simp only [computed, Option.some.injEq] at taken
      exact .inr ⟨newKeyId, rfl, taken.symm⟩
  case h_2 => cases taken

theorem archived_update (inv : Archived s) (taken : s.update crypto call now = some t)
    (guarded : KeepsKeys crypto s (.update call now) t) : Archived t := by
  obtain ⟨mfr, newPublicKey, listed, outcome⟩ := update_cases taken
  have marked := archived_renewals inv listed .ended
  rcases outcome with ⟨error, -, rfl⟩ | ⟨newKeyId, computed, rfl⟩
  · exact marked
  · obtain ⟨unrevoked, unique, kept⟩ := guarded mfr newPublicKey newKeyId listed computed
    exact archived_renewed marked unrevoked unique kept

theorem keeps_of_update_resolvable (inv : Archived s) (taken : s.update crypto call now = some t)
    (correct : Resolvable t) : KeepsKeys crypto s (.update call now) t := by
  intro mfr newPublicKey newKeyId listed computed
  obtain ⟨mfr', newPublicKey', listed', outcome⟩ := update_cases taken
  cases listed.symm.trans listed'
  have marked := archived_renewals inv listed .ended
  rcases outcome with ⟨error, failed, rfl⟩ | ⟨newKeyId', computed', rfl⟩
  · cases computed.symm.trans failed
  · cases computed.symm.trans computed'
    have kept := keeps_of_renewed_resolvable marked correct
    exact kept

def withdraw (historyId : Nat) (row : MfrKeyHistory) : MfrKeyHistory :=
  if row.id = historyId then { row with status := .revoked } else row

theorem withdraw_keeps (historyId : Nat) (row : MfrKeyHistory) :
    (withdraw historyId row).mfrId = row.mfrId ∧ (withdraw historyId row).keyId = row.keyId ∧
      (withdraw historyId row).publicKey = row.publicKey := by
  unfold withdraw
  split <;> exact ⟨rfl, rfl, rfl⟩

theorem withdraw_revoked :
    (withdraw historyId row).status = .revoked ↔ row.id = historyId ∨ row.status = .revoked := by
  unfold withdraw
  split
  case isTrue same => simp [same]
  case isFalse other => simp [other]

theorem mem_revoke : row ∈ (s.revoke historyId).history ↔ ∃ old ∈ s.history, withdraw historyId old = row :=
  List.mem_map

theorem firstRow_revoke : firstRow (s.revoke historyId) keyId = (firstRow s keyId).map (withdraw historyId) := by
  unfold firstRow
  rw [show (s.revoke historyId).history = s.history.map (withdraw historyId) from rfl, List.find?_map]
  congr 2
  funext row
  obtain ⟨mfrId, sameId, -⟩ := withdraw_keeps historyId row
  simp only [Function.comp_apply, mfrId, sameId]
  rfl

theorem revoked_revoke : Revoked (s.revoke historyId) keyId ↔ ∃ row ∈ s.history,
    row.mfrId = s.mfr.id ∧ row.keyId = keyId ∧ (row.id = historyId ∨ row.status = .revoked) := by
  have kept := withdraw_keeps historyId
  simp only [Revoked, mem_revoke, exists_exists_and_eq_and, (kept _).1, (kept _).2.1, withdraw_revoked]
  rfl

section

variable (inv : Archived s)
include inv

theorem archived_revoke (guarded : KeepsKeys crypto s (.revoke historyId) t) : Archived (s.revoke historyId) := by
  refine { inv with archived := ?_, rows := ?_, revoked := ?_, resolutions := ?_ }
  · intro keyId publicKey member
    rw [firstRow_revoke, Option.isSome_map]
    exact inv.archived keyId publicKey member
  · intro row listed
    obtain ⟨old, before, rfl⟩ := mem_revoke.mp listed
    obtain ⟨keptId, keptKey, keptPublic⟩ := withdraw_keeps historyId old
    obtain ⟨own, returned⟩ := inv.rows old before
    exact ⟨keptId.trans own, keptKey ▸ keptPublic ▸ returned⟩
  · intro keyId revoked
    rw [firstRow_revoke]
    obtain ⟨row, listed, mfrId, rfl, named | already⟩ := revoked_revoke.mp revoked
    · obtain ⟨other, behind⟩ := guarded row listed named
      refine ⟨other.symm, ?_⟩
      intro first found
      obtain ⟨old, before, rfl⟩ := Option.map_eq_some_iff.mp found
      exact withdraw_revoked.mpr (behind old before)
    · obtain ⟨other, behind⟩ := inv.revoked row.keyId ⟨row, listed, mfrId, rfl, already⟩
      refine ⟨other, ?_⟩
      intro first found
      obtain ⟨old, before, rfl⟩ := Option.map_eq_some_iff.mp found
      exact withdraw_revoked.mpr (.inr (behind old before))
  · intro number resolution listed
    rw [firstRow_revoke, Option.isSome_map]
    exact inv.resolutions number resolution listed

theorem keeps_of_revoke_resolvable (correct : Resolvable (s.revoke historyId)) :
    KeepsKeys crypto s (.revoke historyId) t := by
  intro row listed named
  have revoked : Revoked (s.revoke historyId) row.keyId :=
    revoked_revoke.mpr ⟨row, listed, (inv.rows row listed).1, rfl, .inl named⟩
  have refused := (correct row.keyId).refuses revoked
  have other : row.keyId ≠ s.mfr.keyId := by
    intro current
    rw [resolveKeyById_current (s := s.revoke historyId) current.symm] at refused
    obtain ⟨info, resolved, -⟩ := resolveByName_self (s := s.revoke historyId) inv.active inv.expires
    exact refused info resolved
  refine ⟨other, ?_⟩
  intro first found
  by_contra behind
  rw [resolveKeyById_other (s := s.revoke historyId) other.symm] at refused
  have after : firstRow (s.revoke historyId) row.keyId = some (withdraw historyId first) := by
    rw [firstRow_revoke, found]
    rfl
  obtain ⟨info, resolved, -⟩ := resolveHistorical_retired (s := s.revoke historyId) rfl after fun revoked =>
    behind (withdraw_revoked.mp revoked)
  exact refused info resolved

theorem archived_beginResolve : Archived { s with resolutions := s.resolutions ++ [⟨keyId, s.mfr, s.returned⟩] } := by
  refine { inv with resolutions := ?_ }
  intro number resolution listed
  rcases Slots.of_snoc listed with old | ⟨-, rfl⟩
  · exact inv.resolutions number resolution old
  · refine ⟨⟨rfl, rfl⟩, List.Subset.refl _, ?_, ?_⟩
    · intro current
      exact ⟨s.mfr.publicKey, current ▸ inv.current⟩
    · intro other publicKey member
      exact (inv.archived keyId publicKey member).resolve_left other

theorem answer_correct_iff {resolution : Resolution} (listed : s.resolutions[call]? = some resolution) :
    Correct s resolution.known resolution.keyId (s.answer resolution) ↔
      (resolution.mfr.keyId = resolution.keyId → s.mfr.keyId = resolution.keyId) := by
  obtain ⟨⟨sameId, sameName⟩, subset, viaName, viaHistory⟩ := inv.resolutions call resolution listed
  unfold answer
  by_cases current : resolution.mfr.keyId = resolution.keyId
  · rw [if_pos current, sameName]
    constructor
    · intro correct _
      obtain ⟨info, resolved, ownId, -⟩ := resolveByName_self inv.active inv.expires
      obtain ⟨publicKey, member⟩ := viaName current
      by_cases revoked : Revoked s resolution.keyId
      · exact absurd resolved (correct.refuses revoked info)
      · obtain ⟨info', resolved', asked, -⟩ := correct.resolves publicKey member revoked
        cases resolved.symm.trans resolved'
        exact ownId.symm.trans asked
    · intro still
      exact correct_current inv (still current) subset
  · rw [if_neg current]
    constructor
    · intro _ contrary
      exact absurd contrary current
    · intro _
      exact correct_historical inv sameId subset (viaHistory current)

theorem archived_step (taken : step crypto s action = some t) (guarded : KeepsKeys crypto s action t) :
    Archived t := by
  cases action with
  | readRow => exact archived_readRow inv taken
  | archive => exact archived_archive inv taken
  | update => exact archived_update inv taken guarded
  | beginResolve =>
    cases taken
    exact archived_beginResolve inv
  | finishResolve =>
    obtain ⟨-, rfl⟩ := of_guard taken
    exact inv
  | revoke =>
    cases taken
    exact archived_revoke inv guarded

theorem answers_iff_keeps (taken : step crypto s action = some t) :
    AnswersKeys s action t ↔ KeepsKeys crypto s action t := by
  have kept (guarded : KeepsKeys crypto s action t) : Resolvable t :=
    resolvable_of_archived (archived_step inv taken guarded)
  cases action with
  | readRow | archive | beginResolve => exact iff_of_true (kept trivial) trivial
  | update => exact ⟨keeps_of_update_resolvable inv taken, kept⟩
  | finishResolve =>
    apply forall_congr'
    intro resolution
    apply forall_congr'
    intro listed
    exact answer_correct_iff inv listed
  | revoke =>
    refine ⟨fun correct => ?_, kept⟩
    cases taken
    exact keeps_of_revoke_resolvable inv correct

end

theorem returned_keys_resolve_iff {mfr : Manufacturer} (activated : activate crypto mfr publicKey now = .ok s)
    (actions : List Action) :
    Along (step crypto) AnswersKeys s actions ↔ Along (step crypto) (KeepsKeys crypto) s actions :=
  along_iff (archived_activate activated) (fun _ _ _ inv taken => answers_iff_keeps inv taken)
    fun _ _ _ inv taken guarded => archived_step inv taken guarded

section Runs

def plainCrypto : Crypto where
  sha256 := id
  base64Decode text := .ok (Text.utf8 text)
  base64Encode _ := ""
  verifyingKeyFromBytes _ := .ok ()
  verify _ _ _ := true

def applicant : Manufacturer := ⟨1, "acme", "", "", .pending, 0, none, none, none⟩

def keyText (digit : Char) : String := String.ofList (List.replicate 32 digit)

def firstKeyId : String := "mfr-3030303030303030"

def secondKeyId : String := "mfr-3131313131313131"

def activated : KeyRegistry :=
  ⟨⟨1, "acme", keyText '0', firstKeyId, .active, 0, some 10, some 10, some (10 + yearSecs)⟩, [], 1, [], [],
    [(firstKeyId, keyText '0')]⟩

def overlapping : List Action :=
  [.readRow (keyText '1'), .readRow (keyText '2'), .archive 0 20, .archive 1 21, .update 0 22, .update 1 23]

def renewedBack : List Action :=
  [.readRow (keyText '1'), .archive 0 20, .update 0 20, .readRow (keyText '0'), .archive 1 30, .update 1 30, .revoke 1]

theorem activate_applicant : activate plainCrypto applicant (keyText '0') 10 = .ok activated := by
  decide +kernel

theorem single_renewal_keeps_keys : activate plainCrypto applicant (keyText '0') 10 = .ok activated ∧
      Along (step plainCrypto) AnswersKeys activated (renewedBack.take 3) := by
  refine ⟨activate_applicant, (returned_keys_resolve_iff activate_applicant _).mpr ?_⟩
  refine along_cons rfl trivial (along_cons rfl trivial (along_cons rfl ?_ trivial))
  intro mfr newPublicKey newKeyId listed computed
  cases listed
  cases computed
  refine ⟨?_, ?_, .inr rfl⟩
  · rintro ⟨row, member, -, -, revoked⟩
    cases List.mem_singleton.mp member
    cases revoked
  · intro publicKey member
    have same := (Prod.mk.inj (List.mem_singleton.mp member)).1
    exact absurd same (by decide +kernel)

theorem renewed_key_is_lost :
    (∃ s, exec (step plainCrypto) activated overlapping = some s ∧ (secondKeyId, keyText '1') ∈ s.returned ∧
        (∀ row ∈ s.history, row.status = .retired) ∧ s.tables.resolveKeyById "acme" secondKeyId = .error .notFound) ∧
      ∃ s, exec (step plainCrypto) activated renewedBack = some s ∧
        (∃ row ∈ s.history, row.keyId = firstKeyId ∧ row.status = .revoked) ∧
        ∃ info, s.tables.resolveKeyById "acme" firstKeyId = .ok info := by
  refine ⟨⟨_, rfl, ?_, ?_, ?_⟩, ⟨_, rfl, ?_, _, rfl⟩⟩ <;> decide +kernel

end Runs

end Actr.Proof.Mfr
