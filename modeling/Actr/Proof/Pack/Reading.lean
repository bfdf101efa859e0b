import Actr.Pack.Load

/-! # Bounded reads of an entry -/

namespace Actr.Proof.Pack
open Actr.Pack Library.Checks

variable {formats : Formats} {archive : ZipArchive} {entry : ZipEntry} {name : String} {maxBytes limit total total' : Nat}
  {pieces : List (List UInt8)} {bytes hashed hashed' : List UInt8} {hash : String}

theorem takePieces_flatten : (takePieces limit pieces).flatten = pieces.flatten.take limit := by
  induction pieces generalizing limit with
  | nil => simp [takePieces]
  | cons piece rest ih =>
    cases limit with
    | zero => simp [takePieces]
    | succ =>
      rw [takePieces, List.flatten_cons, ih, List.flatten_cons, List.take_append]
      exact nofun

theorem take_readLimit (short : (bytes.take (readLimit maxBytes)).length ≤ maxBytes)
    (counted : bytes.length ≤ usizeMax) : bytes.take (readLimit maxBytes) = bytes := by
  apply List.take_of_length_le
  rw [List.length_take] at short
  unfold readLimit at short ⊢
  omega

theorem takePieces_readLimit (counted : pieces.flatten.length ≤ usizeMax) (fits : pieces.flatten.length ≤ maxBytes) :
    (takePieces (readLimit maxBytes) pieces).flatten = pieces.flatten := by
  rw [takePieces_flatten]
  apply take_readLimit _ counted
  rw [List.length_take]
  omega

theorem byName_eq_ok : byName archive name maxBytes = .ok entry ↔ archive name = .ok entry ∧ entry.size ≤ maxBytes := by
  unfold byName
  simp only [bind_eq_ok, mapError_eq_ok, require_eq_ok, pure_eq_ok]
  constructor
  · rintro ⟨found, listed, -, declared, rfl⟩
    exact ⟨listed, declared⟩
  · rintro ⟨listed, declared⟩
    exact ⟨entry, listed, (), declared, rfl⟩

theorem finish_of_sound (sound : entry.fault = none) : entry.finish limit = .ok () := by
  unfold ZipEntry.finish
  rw [sound]

theorem readZipEntryBounded_eq_ok (read : readZipEntryBounded archive name maxBytes = .ok bytes) :
    ∃ entry, archive name = .ok entry ∧ entry.bytes = bytes ∧ bytes.length ≤ maxBytes := by
  unfold readZipEntryBounded at read
  simp only [bind_eq_ok, byName_eq_ok, require_eq_ok, pure_eq_ok] at read
  obtain ⟨entry, ⟨listed, -⟩, _, -, -, short, rfl⟩ := read
  rw [takePieces_flatten] at short ⊢
  have whole := take_readLimit short entry.counted
  rw [whole] at short ⊢
  exact ⟨entry, listed, rfl, short⟩

theorem readZipEntryBounded_of_fits (listed : archive name = .ok entry) (declared : entry.size ≤ maxBytes)
    (sound : entry.fault = none) (fits : entry.bytes.length ≤ maxBytes) :
    readZipEntryBounded archive name maxBytes = .ok entry.bytes := by
  unfold ZipEntry.bytes at fits ⊢
  have whole := takePieces_readLimit entry.counted fits
  unfold readZipEntryBounded
  rw [byName_eq_ok.mpr ⟨listed, declared⟩, ok_bind, finish_of_sound sound, ok_bind, whole, require_of fits]
  rfl

theorem hashPieces_eq_ok (read : hashPieces name maxBytes total hashed pieces = .ok (hashed', total')) :
    hashed' = hashed ++ pieces.flatten ∧ total' = total + pieces.flatten.length ∧
      (total ≤ maxBytes → total' ≤ maxBytes) := by
  induction pieces generalizing total hashed with
  | nil =>
    cases read
    simp
  | cons piece rest ih =>
    unfold hashPieces at read
    split at read
    · cases read
    · split at read
      · cases read
      · next fits =>
        obtain ⟨bytes, length, bounded⟩ := ih read
        rw [List.flatten_cons, List.length_append, ← List.append_assoc]
        refine ⟨bytes, ?_, fun _ => bounded (Nat.le_of_not_lt fits)⟩
        omega

theorem hashPieces_of_fits (counted : total + pieces.flatten.length ≤ usizeMax)
    (fits : total + pieces.flatten.length ≤ maxBytes) :
    hashPieces name maxBytes total hashed pieces = .ok (hashed ++ pieces.flatten, total + pieces.flatten.length) := by
  induction pieces generalizing total hashed with
  | nil => simp [hashPieces]
  | cons piece rest ih =>
    rw [List.flatten_cons, List.length_append] at counted fits ⊢
    unfold hashPieces
    rw [if_neg (by omega), if_neg (by omega), ih (by omega) (by omega), List.append_assoc, Nat.add_assoc]

theorem sha256ZipEntryBounded_eq_ok (read : formats.sha256ZipEntryBounded archive name maxBytes = .ok (hash, total)) :
    ∃ entry, archive name = .ok entry ∧ hash = formats.sha256Hex entry.bytes ∧ total = entry.bytes.length ∧
      total ≤ maxBytes := by
  unfold Formats.sha256ZipEntryBounded at read
  simp only [bind_eq_ok, byName_eq_ok, pure_eq_ok, Prod.exists, Prod.mk.injEq] at read
  obtain ⟨entry, ⟨listed, -⟩, hashed, length, loop, _, -, rfl, rfl⟩ := read
  obtain ⟨bytes, count, bounded⟩ := hashPieces_eq_ok loop
  have short := bounded (Nat.zero_le _)
  rw [List.nil_append, takePieces_flatten] at bytes
  rw [Nat.zero_add, takePieces_flatten] at count
  have whole := take_readLimit (count ▸ short) entry.counted
  rw [whole] at bytes count
  subst bytes
  exact ⟨entry, listed, rfl, count, short⟩

theorem sha256ZipEntryBounded_of_fits (listed : archive name = .ok entry) (declared : entry.size ≤ maxBytes)
    (sound : entry.fault = none) (fits : entry.bytes.length ≤ maxBytes) :
    formats.sha256ZipEntryBounded archive name maxBytes =
      .ok (formats.sha256Hex entry.bytes, entry.bytes.length) := by
  have whole := takePieces_readLimit entry.counted fits
  have counted : 0 + (takePieces (readLimit maxBytes) entry.pieces).flatten.length ≤ usizeMax := by
    rw [whole, Nat.zero_add]
    exact entry.counted
  have short : 0 + (takePieces (readLimit maxBytes) entry.pieces).flatten.length ≤ maxBytes := by
    rw [whole, Nat.zero_add]
    exact fits
  have loop : hashPieces name maxBytes 0 [] _ = _ := hashPieces_of_fits counted short
  unfold Formats.sha256ZipEntryBounded
  rw [byName_eq_ok.mpr ⟨listed, declared⟩, ok_bind, loop, ok_bind]
  dsimp only
  rw [finish_of_sound sound, ok_bind, whole, Nat.zero_add]
  rfl

end Actr.Proof.Pack
