import Actr.Actrix.Platform.Realm
import Actr.Library.Slots

/-! # Updates of a realm that undo each other -/

namespace Actr.Proof.Platform
open Actrix.Platform RealmTable Library Machine

variable {call : Nat} {validUntil : UInt64} {graceSecs : Option UInt64}

def Accepts (sha256 : List UInt8 → Vector UInt8 32) (realm : Realm) (secret : String) : Prop :=
  (∀ now, realm.verifySecret sha256 (some secret) now = .validCurrent) ∨
    ∃ hash validUntil, realm.secretPrevious = some (hash, validUntil) ∧
      ∀ now ≤ validUntil, realm.verifySecret sha256 (some secret) now = .validPrevious

def Standing (s : RealmTable) (i : Nat) : Prop := ∀ rotation ∈ s.returned, rotation.seen ≤ i

def Disabled (realm : Realm) : Prop := realm.enabled = false ∧ realm.status = .inactive

structure Upheld (sha256 : List UInt8 → Vector UInt8 32) (s : RealmTable) : Prop where
  deleted : s.deleted = true → ∃ realm, s.get = some realm ∧ Disabled realm
  accepted : ∀ (i : Nat) rotation, s.returned[i]? = some rotation → Standing s i →
    ∃ realm, s.get = some realm ∧ Accepts sha256 realm rotation.newSecret

/-- No rotation has returned since the call read the row and, if it is a rotation, no `soft_delete` has. -/
def Undisturbed (s : RealmTable) (update : RealmUpdate) : Prop :=
  update.seen = s.returned.length ∧ (update.change ≠ .softDelete → s.deleted = true → update.deleted = true)
deriving Decidable

def ordered (s : RealmTable) : Action → Bool
  | .save call _ => s.updates[call]?.all fun update => Undisturbed s update
  | _ => true

variable {sha256 : List UInt8 → Vector UInt8 32} {s t : RealmTable} {realm realm' : Realm} {secret : String}
  {update : RealmUpdate} {rotation : RealmRotation} {bytes : Vector UInt8 24} {now : UInt64} {i : Nat}

theorem fromStr_display (status : RealmStatus) : RealmStatus.fromStr status.display = some status := by
  cases status <;> rfl

theorem fromRow_toRow {now : Int64}
    (named : ∀ hash validUntil, realm.secretPrevious = some (hash, validUntil) → hash ≠ "") :
    Realm.fromRow (realm.toRow now) = { realm with updatedAt := some now.toUInt64 } := by
  obtain ⟨name, status, enabled, expiresAt, updatedAt, secretCurrent, secretPrevious⟩ := realm
  simp only [Realm.fromRow, Realm.toRow, fromStr_display, Option.getD_some, Realm.mk.injEq, true_and]
  refine ⟨?_, ?_, rfl, ?_⟩
  · cases enabled <;> rfl
  · cases expiresAt <;> simp
  · cases secretPrevious with
    | none => rfl
    | some previous => simp [named previous.1 previous.2 rfl]

theorem accepts_congr (current : realm'.secretCurrent = realm.secretCurrent)
    (previous : realm'.secretPrevious = realm.secretPrevious) :
    Accepts sha256 realm' secret ↔ Accepts sha256 realm secret := by
  unfold Accepts Realm.verifySecret
  rw [current, previous]

theorem accepts_updatedAt {updatedAt : Option UInt64} :
    Accepts sha256 { realm with updatedAt } secret ↔ Accepts sha256 realm secret := accepts_congr rfl rfl

theorem generated_solid {char : Char} (member : char ∈ (generateRealmSecret bytes).toList) :
    Text.isWhitespace char = false := by
  simp only [generateRealmSecret, String.toList_append, List.mem_append] at member
  rcases member with front | back
  · have solid : "rs_".toList.all (fun char => !Text.isWhitespace char) = true := by decide
    simpa using List.all_eq_true.mp solid char front
  · exact Text.urlSafeNoPad_solid back

theorem generated_nonempty : generateRealmSecret bytes ≠ "" := by
  intro empty
  have chars := congrArg String.toList empty
  simp [generateRealmSecret, String.toList_append] at chars

theorem hash_nonempty : hashRealmSecret sha256 secret ≠ "" := by
  intro empty
  have size := congrArg String.utf8ByteSize empty
  rw [hashRealmSecret, Text.utf8ByteSize_hexEncode, Vector.length_toList] at size
  cases size

theorem accepts_current (current : realm.secretCurrent = hashRealmSecret sha256 (generateRealmSecret bytes)) :
    Accepts sha256 realm (generateRealmSecret bytes) := by
  left
  intro now
  have trimmed : Text.trim (generateRealmSecret bytes) = generateRealmSecret bytes :=
    Text.trim_eq_self fun _ => generated_solid
  simp [Realm.verifySecret, current, hash_nonempty, trimmed, Option.filter, generated_nonempty]

structure Sound (sha256 : List UInt8 → Vector UInt8 32) (s : RealmTable) : Prop where
  upheld : Upheld sha256 s
  found : ∀ update ∈ s.updates, s.row ≠ none
  rotated : ∀ update ∈ s.updates, ∀ secret, update.change = .rotation secret →
    (∃ bytes, secret = generateRealmSecret bytes) ∧ update.realm.secretCurrent = hashRealmSecret sha256 secret
  disabled : ∀ update ∈ s.updates, update.change = .softDelete ∨ update.deleted = true → Disabled update.realm
  named : ∀ update ∈ s.updates, ∀ hash validUntil, update.realm.secretPrevious = some (hash, validUntil) → hash ≠ ""
  seen : ∀ update ∈ s.updates, update.seen ≤ s.returned.length
  loaded : ∀ update ∈ s.updates, update.change = .softDelete → ∀ (i : Nat) rotation, i < update.seen →
    s.returned[i]? = some rotation → Standing s i → Accepts sha256 update.realm rotation.newSecret

theorem sound_initial (row : Option RealmRow) : Sound sha256 (initial row) := by
  refine ⟨⟨nofun, nofun⟩, ?_, ?_, ?_, ?_, ?_, ?_⟩ <;> exact fun _ member => absurd member List.not_mem_nil

theorem named_fromRow {row : RealmRow} {hash : String}
    (previous : (Realm.fromRow row).secretPrevious = some (hash, validUntil)) : hash ≠ "" := by
  simp only [Realm.fromRow] at previous
  split at previous
  · split at previous
    · next nonempty =>
      cases previous
      exact nonempty
    · cases previous
  · cases previous

theorem named_rotated {hash : String}
    (previous : (realm.rotated sha256 graceSecs now secret).secretPrevious = some (hash, validUntil)) :
    hash ≠ "" := by
  simp only [Realm.rotated] at previous
  split at previous
  · next nonempty =>
    cases previous
    exact nonempty
  · cases previous

theorem sound_read {change : RealmChange} {edit : Realm → Realm} (sound : Sound sha256 s)
    (rotated : ∀ realm secret, change = .rotation secret →
      (∃ bytes, secret = generateRealmSecret bytes) ∧ (edit realm).secretCurrent = hashRealmSecret sha256 secret)
    (deleting : change = .softDelete → edit = Realm.softDeleted)
    (keeps : ∀ realm, Disabled realm → Disabled (edit realm))
    (named : ∀ realm, (∀ hash validUntil, realm.secretPrevious = some (hash, validUntil) → hash ≠ "") →
      ∀ hash validUntil, (edit realm).secretPrevious = some (hash, validUntil) → hash ≠ "") :
    Sound sha256 (s.read change edit) := by
  unfold RealmTable.read
  cases found : s.get with
  | none => exact sound
  | some realm =>
    obtain ⟨row, present, rfl⟩ := Option.map_eq_some_iff.mp found
    constructor
    case upheld => exact ⟨sound.upheld.deleted, sound.upheld.accepted⟩
    case found =>
      intro update _ absent
      cases present.symm.trans absent
    case rotated =>
      intro update member secret kind
      rcases Slots.mem_snoc member with old | rfl
      · exact sound.rotated update old secret kind
      · exact rotated _ secret kind
    case disabled =>
      intro update member kind
      rcases Slots.mem_snoc member with old | rfl
      · exact sound.disabled update old kind
      · rcases kind with kind | deleted
        · cases deleting kind
          exact ⟨rfl, rfl⟩
        · obtain ⟨realm, got, disabled⟩ := sound.upheld.deleted deleted
          cases found.symm.trans got
          exact keeps _ disabled
    case named =>
      intro update member
      rcases Slots.mem_snoc member with old | rfl
      · exact sound.named update old
      · exact named _ fun hash validUntil => named_fromRow
    case seen =>
      intro update member
      rcases Slots.mem_snoc member with old | rfl
      · exact sound.seen update old
      · exact le_rfl
    case loaded =>
      intro update member kind i rotation before listed standing
      rcases Slots.mem_snoc member with old | rfl
      · exact sound.loaded update old kind i rotation before listed standing
      · cases deleting kind
        obtain ⟨realm, got, accepts⟩ := sound.upheld.accepted i rotation listed standing
        cases found.symm.trans got
        refine (accepts_congr ?_ ?_).mpr accepts <;> rfl

theorem sound_rotate (sound : Sound sha256 s) :
    Sound sha256 (s.read (.rotation (generateRealmSecret bytes))
      fun realm => realm.rotated sha256 graceSecs now (generateRealmSecret bytes)) := by
  apply sound_read sound
  · intro realm secret kind
    cases kind
    exact ⟨⟨bytes, rfl⟩, rfl⟩
  · intro kind
    cases kind
  · exact fun realm disabled => disabled
  · intro realm _ hash validUntil
    exact named_rotated

theorem sound_softDelete (sound : Sound sha256 s) : Sound sha256 (s.read .softDelete Realm.softDeleted) := by
  apply sound_read sound
  · intro realm secret kind
    cases kind
  · intro _
    rfl
  · exact fun realm _ => ⟨rfl, rfl⟩
  · intro realm named
    exact named

theorem sound_ended (sound : Sound sha256 s) (listed : s.updates[call]? = some update) :
    Sound sha256 { s with updates := s.updates.set call { update with saved := true } } := by
  have member := List.mem_of_getElem? listed
  have same : ∀ other ∈ s.updates.set call { update with saved := true }, ∃ old ∈ s.updates,
      old.change = other.change ∧ old.realm = other.realm ∧ old.seen = other.seen ∧ old.deleted = other.deleted := by
    intro other ended
    rcases List.mem_or_eq_of_mem_set ended with old | rfl
    · exact ⟨other, old, rfl, rfl, rfl, rfl⟩
    · exact ⟨update, member, rfl, rfl, rfl, rfl⟩
  constructor
  case upheld => exact ⟨sound.upheld.deleted, sound.upheld.accepted⟩
  case found => exact fun _ _ => sound.found update member
  case rotated =>
    intro other ended secret kind
    obtain ⟨old, member, change, realm, -⟩ := same other ended
    rw [← realm]
    exact sound.rotated old member secret (change.trans kind)
  case disabled =>
    intro other ended kind
    obtain ⟨old, member, change, realm, -, deleted⟩ := same other ended
    rw [← realm]
    exact sound.disabled old member (by rwa [change, deleted])
  case named =>
    intro other ended
    obtain ⟨old, member, -, realm, -⟩ := same other ended
    rw [← realm]
    exact sound.named old member
  case seen =>
    intro other ended
    obtain ⟨old, member, -, -, seen, -⟩ := same other ended
    rw [← seen]
    exact sound.seen old member
  case loaded =>
    intro other ended kind i rotation before listed standing
    obtain ⟨old, member, change, realm, seen, -⟩ := same other ended
    rw [← realm]
    exact sound.loaded old member (change.trans kind) i rotation (seen ▸ before) listed standing

def written (s : RealmTable) (update : RealmUpdate) (now : Int64) : RealmTable :=
  { s with row := s.row.map fun _ => update.realm.toRow now }

section Written

variable {now : Int64} {newSecret : String}

theorem get_written (sound : Sound sha256 s) (member : update ∈ s.updates) :
    (written s update now).get = some { update.realm with updatedAt := some now.toUInt64 } := by
  obtain ⟨row, present⟩ := Option.ne_none_iff_exists'.mp (sound.found update member)
  simp only [written, RealmTable.get, present, Option.map_some]
  rw [fromRow_toRow (sound.named update member)]

theorem standing_append : Standing { s with returned := s.returned ++ [rotation] } i ↔ Standing s i ∧ rotation.seen ≤ i := by
  simp [Standing, or_imp, forall_and]

section

variable (sound : Sound sha256 s) (member : update ∈ s.updates) (undisturbed : Undisturbed s update)
include sound member undisturbed

theorem upheld_rotation (kind : update.change = .rotation newSecret) :
    Upheld sha256 { written s update now with returned := s.returned ++ [⟨newSecret, update.seen⟩] } where
  deleted deleted :=
    ⟨_, get_written sound member,
      sound.disabled update member (.inr (undisturbed.2 (by simp [kind]) deleted))⟩
  accepted := by
    intro i rotation listed standing
    refine ⟨_, get_written sound member, accepts_updatedAt.mpr ?_⟩
    rcases Slots.of_snoc listed with old | ⟨rfl, rfl⟩
    · -- A rotation that returned before this one read the row is no longer standing.
      have late : update.seen ≤ i := (standing_append.mp standing).2
      have early := (List.getElem?_eq_some_iff.mp old).1
      exact absurd (undisturbed.1.ge.trans late) early.not_ge
    · obtain ⟨⟨bytes, rfl⟩, current⟩ := sound.rotated update member newSecret kind
      exact accepts_current current

theorem upheld_softDelete (kind : update.change = .softDelete) :
    Upheld sha256 { written s update now with deleted := true } where
  deleted _ := ⟨_, get_written sound member, sound.disabled update member (.inl kind)⟩
  accepted := by
    intro i rotation listed standing
    have early : i < update.seen := (List.getElem?_eq_some_iff.mp listed).1.trans_eq undisturbed.1.symm
    exact ⟨_, get_written sound member,
      accepts_updatedAt.mpr (sound.loaded update member kind i rotation early listed standing)⟩

theorem sound_rotation (kind : update.change = .rotation newSecret) :
    Sound sha256 { written s update now with returned := s.returned ++ [⟨newSecret, update.seen⟩] } := by
  refine { sound with
    upheld := upheld_rotation sound member undisturbed kind
    found := fun other listed absent => sound.found other listed (Option.map_eq_none_iff.mp absent)
    seen := ?seen, loaded := ?loaded }
  case seen =>
    intro other listed
    rw [List.length_append]
    exact Nat.le_add_right_of_le (sound.seen other listed)
  case loaded =>
    intro other listed deleting i rotation before found standing
    have bound : i < s.returned.length := Nat.lt_of_lt_of_le before (sound.seen other listed)
    rw [List.getElem?_append_left bound] at found
    exact sound.loaded other listed deleting i rotation before found (standing_append.mp standing).1

theorem sound_deletion (kind : update.change = .softDelete) :
    Sound sha256 { written s update now with deleted := true } where
  __ := sound
  upheld := upheld_softDelete sound member undisturbed kind
  found other listed absent := sound.found other listed (Option.map_eq_none_iff.mp absent)

end

end Written

theorem save_cases {now : Int64} (taken : s.save call now = some t) :
    ∃ update, s.updates[call]? = some update ∧
      let ended := { update with saved := true }
      let after := written { s with updates := s.updates.set call ended } ended now
      (∃ newSecret, update.change = .rotation newSecret ∧
          t = { after with returned := s.returned ++ [⟨newSecret, update.seen⟩] }) ∨
        update.change = .softDelete ∧ t = { after with deleted := true } := by
  unfold RealmTable.save at taken
  split at taken
  · next change realm seen deleted listed =>
    refine ⟨_, listed, ?_⟩
    cases change with
    | rotation newSecret =>
      cases taken
      exact .inl ⟨newSecret, rfl, rfl⟩
    | softDelete =>
      cases taken
      exact .inr ⟨rfl, rfl⟩
  · cases taken

theorem fail_cases (taken : s.fail call = some t) :
    ∃ update, s.updates[call]? = some update ∧
      t = { s with updates := s.updates.set call { update with saved := true } } := by
  unfold RealmTable.fail at taken
  split at taken
  · next listed =>
    cases taken
    exact ⟨_, listed, rfl⟩
  · cases taken

theorem mem_ended (listed : s.updates[call]? = some update) :
    { update with saved := true } ∈ s.updates.set call { update with saved := true } :=
  List.mem_of_getElem? (Slots.set_self listed)

theorem sound_step {action : Action} (sound : Sound sha256 s) (free : ordered s action = true)
    (taken : step sha256 s action = some t) : Sound sha256 t := by
  cases action with
  | rotate =>
    cases taken
    exact sound_rotate sound
  | softDelete =>
    cases taken
    exact sound_softDelete sound
  | save call now =>
    obtain ⟨update, listed, outcome⟩ := save_cases taken
    have ended := sound_ended sound listed
    have undisturbed : Undisturbed s update := by simpa [ordered, listed] using free
    rcases outcome with ⟨newSecret, kind, rfl⟩ | ⟨kind, rfl⟩
    · exact sound_rotation ended (mem_ended listed) undisturbed kind
    · exact sound_deletion ended (mem_ended listed) undisturbed kind
  | fail =>
    obtain ⟨update, listed, rfl⟩ := fail_cases taken
    exact sound_ended sound listed
  | verify =>
    cases taken
    exact sound

theorem realm_updates_kept_when_ordered (sha256 : List UInt8 → Vector UInt8 32) (row : Option RealmRow)
    (actions : List Action) (free : Along (step sha256) (fun s action _ => ordered s action = true) (initial row) actions) :
    Along (step sha256) (fun _ _ t => Upheld sha256 t) (initial row) actions := by
  have start : Sound sha256 (initial row) := sound_initial row
  refine along_of_guarded start ?_ free
  intro s action t sound free taken
  have next := sound_step sound free taken
  exact ⟨next.upheld, next⟩

section Example

def firstBytes (bytes : List UInt8) : Vector UInt8 32 := Vector.ofFn fun i => bytes.getD i 0

def openRow : RealmRow := ⟨"acme", "Active", 1, none, none, "old", none, none⟩

def firstRandom : Vector UInt8 24 := .replicate 24 1

def secondRandom : Vector UInt8 24 := .replicate 24 2

def undeleting : List Action := [.rotate none 100 firstRandom, .softDelete, .save 1 101, .save 0 102]

def deletingLate : List Action := [.softDelete, .rotate none 100 firstRandom, .save 1 101, .save 0 102]

def inTurn : List Action :=
  [.rotate none 100 firstRandom, .softDelete, .fail 1, .save 0 101, .rotate none 102 secondRandom, .save 2 103,
    .softDelete, .save 3 104]

theorem realm_updates_kept_in_turn :
    Along (step firstBytes) (fun s action _ => ordered s action = true) (initial (some openRow)) inTurn ∧
      Along (step firstBytes) (fun _ _ t => Upheld firstBytes t) (initial (some openRow)) inTurn ∧
      ∃ s, exec (step firstBytes) (initial (some openRow)) inTurn = some s ∧ s.deleted = true ∧
        s.returned = [⟨generateRealmSecret firstRandom, 0⟩, ⟨generateRealmSecret secondRandom, 1⟩] := by
  have free : Along (step firstBytes) (fun s action _ => ordered s action = true) (initial (some openRow)) inTurn := by
    decide +kernel
  refine ⟨free, realm_updates_kept_when_ordered firstBytes (some openRow) inTurn free, exec_of_any ?_⟩
  decide +kernel

def overtaken : List Action :=
  [.rotate none 100 firstRandom, .rotate none 101 secondRandom, .save 1 102, .save 0 103]

theorem realm_updates_undone :
    (∃ s, exec (step firstBytes) (initial (some openRow)) undeleting = some s ∧ s.deleted = true ∧
      s.get.map (fun realm => (realm.enabled, realm.status)) = some (true, .active)) ∧
    (∃ s, exec (step firstBytes) (initial (some openRow)) deletingLate = some s ∧
      s.returned = [⟨generateRealmSecret firstRandom, 0⟩] ∧
      s.verifyRealmSecret firstBytes (some (generateRealmSecret firstRandom)) 103 = some .invalid) ∧
    ∃ s, exec (step firstBytes) (initial (some openRow)) overtaken = some s ∧
      s.returned = [⟨generateRealmSecret secondRandom, 0⟩, ⟨generateRealmSecret firstRandom, 0⟩] ∧
      s.verifyRealmSecret firstBytes (some (generateRealmSecret secondRandom)) 104 = some .invalid := by
  refine ⟨exec_of_any ?_, exec_of_any ?_, exec_of_any ?_⟩
  all_goals decide +kernel

end Example

end Actr.Proof.Platform
