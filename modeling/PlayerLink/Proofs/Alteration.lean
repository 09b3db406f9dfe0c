import PlayerLink.Firmware.Header
import PlayerLink.Proofs.Checksum
import PlayerLink.Proofs.Container.Validity

/-!
# One octet is not what it was

Each sum covers one part of a run and is stored in another. An octet that is changed for another one
changes the sum or the word that stores it, and not both, so the two no longer agree. The two sums
over a firmware header tell the sector of the octet: one covers the first sector, where both are
stored, the other the rest.
-/

namespace PlayerLink

/-! ### Where the sums stand -/

namespace FirmwareHeader

@[simp] theorem length_toOctets (h : FirmwareHeader) : h.toOctets.length = size :=
  layout.length_encode h

theorem toOctets_decode {bs : List UInt8} (length : bs.length = size) :
    (layout.decode bs).toOctets = bs := by
  rw [toOctets, layout.encode_decode bs length.ge, size_layout, List.take_of_length_le length.le]

theorem directoryChecksum_eq (h : FirmwareHeader) :
    h.directoryChecksum = Word.ofLe32 ((h.toOctets.drop 16).take 4) := by
  have place (bs : List UInt8) :
      (layout.decode bs).directoryChecksum = Word.ofLe32 (bs.drop 16) := by
    simp only [layout, Layout.via, Layout.pair, Layout.word32, Layout.word16, Layout.field,
      List.drop_drop]
  rw [← congrArg directoryChecksum (layout.decode_encode h), place, Word.ofLe32, Word.ofLe32,
    List.take_take]
  rfl

theorem headerChecksum_eq (h : FirmwareHeader) :
    h.headerChecksum = Word.ofLe16 ((h.toOctets.drop summed).take 2) := by
  have place (bs : List UInt8) :
      (layout.decode bs).headerChecksum = Word.ofLe16 (bs.drop summed) := by
    simp only [layout, Layout.via, Layout.pair, Layout.word32, Layout.word16, Layout.field,
      Layout.octet, CommonValues.layout, CountedText.layout, List.drop_drop]
    rfl
  rw [← congrArg headerChecksum (layout.decode_encode h), place, Word.ofLe16, Word.ofLe16,
    List.take_take]
  rfl

theorem encode_directory_eq (h : FirmwareHeader) :
    directoryLayout.encode h.directory =
      (h.toOctets.drop sectorSize).take directoryLayout.size := by
  have place (bs : List UInt8) :
      (layout.decode bs).directory = directoryLayout.decode (bs.drop sectorSize) := by
    simp only [layout, Layout.via, Layout.pair, Layout.word32, Layout.word16, Layout.field,
      Layout.octet, CommonValues.layout, CountedText.layout, List.drop_drop]
    rfl
  have long : directoryLayout.size ≤ (h.toOctets.drop sectorSize).length := by
    rw [List.length_drop, length_toOctets]
    decide
  rw [← congrArg directory (layout.decode_encode h), place, directoryLayout.encode_decode]
  · rfl
  · exact long

theorem headerSumOk_iff (h : FirmwareHeader) :
    h.HeaderSumOk ↔ Checksum.sum16 ((h.toOctets.drop 0).take summed) =
      Word.ofLe16 ((h.toOctets.drop summed).take 2) := by
  rw [HeaderSumOk, computedHeaderChecksum, headerChecksum_eq, List.drop_zero]

theorem directorySumOk_iff (h : FirmwareHeader) :
    h.DirectorySumOk ↔
      Checksum.sum32 ((h.toOctets.drop sectorSize).take directoryLayout.size) =
        Word.ofLe32 ((h.toOctets.drop 16).take 4) := by
  rw [DirectorySumOk, computedDirectoryChecksum, directoryChecksum_eq, encode_directory_eq]

end FirmwareHeader

namespace ContainerHeader

/-- A run that is a header and nothing else is that of the header read from it. -/
theorem toOctets_of_read {h : ContainerHeader} {bs : List UInt8} (read : ofOctets bs = .ok h)
    (length : bs.length = size) : h.toOctets = bs := by
  rw [ofOctets] at read
  split at read
  · cases read
    rw [toOctets, layout.encode_decode bs length.ge, size_layout, List.take_of_length_le length.le]
  · cases read

theorem checksum_eq (h : ContainerHeader) :
    h.checksum = Word.ofLe32 ((h.toOctets.drop summed).take 4) := by
  obtain ⟨body, length, octets⟩ := toOctets_eq h
  have whole : h.toOctets = body ++ Word.le32 h.checksum := octets h.checksum
  rw [whole, List.drop_left' length, ← Word.length_le32 h.checksum, List.take_length]
  simpa using (Word.ofLe32_append h.checksum []).symm

theorem sumOk_iff (h : ContainerHeader) :
    h.SumOk ↔ Checksum.sum32 ((h.toOctets.drop 0).take summed) =
      Word.ofLe32 ((h.toOctets.drop summed).take 4) := by
  rw [SumOk, computedChecksum, checksum_eq, List.drop_zero]

end ContainerHeader

/-! ### What a changed octet does -/

open Checksum

variable {i : Nat} {b : UInt8}

namespace FirmwareHeader

/-- The header whose octet at a place is another one. -/
def altered (h : FirmwareHeader) (i : Nat) (b : UInt8) : FirmwareHeader :=
  layout.decode (h.toOctets.set i b)

@[simp] theorem toOctets_altered (h : FirmwareHeader) (i : Nat) (b : UInt8) :
    (h.altered i b).toOctets = h.toOctets.set i b :=
  toOctets_decode (by rw [List.length_set, length_toOctets])

variable {h : FirmwareHeader}

theorem headerSumOk_altered_iff (ok : h.HeaderSumOk) (changed : h.toOctets[i]? ≠ some b) :
    (h.altered i b).HeaderSumOk ↔ ¬ i < sectorSize := by
  have long : 0 + summed ≤ h.toOctets.length := by
    rw [length_toOctets]
    decide
  have long' : summed + 2 ≤ h.toOctets.length := by
    rw [length_toOctets]
    decide
  rw [headerSumOk_iff] at ok ⊢
  rw [toOctets_altered, sum_eq_stored_set_iff (sensitive_sum16 summed) sensitive_ofLe16
    (Or.inl (by decide)) long long' changed ok]
  simp only [summed, sectorSize]
  omega

theorem directorySumOk_altered_iff (ok : h.DirectorySumOk) (inside : i < size)
    (changed : h.toOctets[i]? ≠ some b) :
    (h.altered i b).DirectorySumOk ↔ ¬ (sectorSize ≤ i ∨ 16 ≤ i ∧ i < 20) := by
  have long : sectorSize + directoryLayout.size ≤ h.toOctets.length := by
    rw [length_toOctets]
    decide
  have long' : 16 + 4 ≤ h.toOctets.length := by
    rw [length_toOctets]
    decide
  have whole : sectorSize + directoryLayout.size = size := by decide
  rw [directorySumOk_iff] at ok ⊢
  rw [toOctets_altered, sum_eq_stored_set_iff (sensitive_sum32 directoryLayout.size)
    sensitive_ofLe32 (Or.inr (by decide)) long long' changed ok]
  omega

end FirmwareHeader

/-- Every octet of a container header is covered by the sum or stores it. -/
theorem ContainerHeader.not_valid_set {h : ContainerHeader} (ok : h.SumOk) (inside : i < size)
    (changed : h.toOctets[i]? ≠ some b) : ¬ Valid (h.toOctets.set i b) := by
  rw [Valid]
  split
  next h' read =>
    have octets : h'.toOctets = h.toOctets.set i b :=
      toOctets_of_read read (by rw [List.length_set, length_toOctets])
    have long : 0 + summed ≤ h.toOctets.length := by
      rw [length_toOctets]
      decide
    have long' : summed + 4 ≤ h.toOctets.length := by
      rw [length_toOctets]
      decide
    have whole : summed + 4 = size := by decide
    rw [sumOk_iff] at ok ⊢
    rw [octets, sum_eq_stored_set_iff (sensitive_sum32 summed) sensitive_ofLe32
      (Or.inl (by decide)) long long' changed ok]
    omega
  next => exact not_false

namespace DirectoryEntry

variable {e : DirectoryEntry} {data data' : List UInt8}

theorem not_verifies_set (ok : e.Verifies data) (whole : e.length.toNat ≤ data.length)
    (inside : i < e.length.toNat) (changed : data[i]? ≠ some b) : ¬ e.Verifies (data.set i b) := by
  have count : (data.take e.length.toNat).length = e.length.toNat := List.length_take_of_le whole
  rw [Verifies] at ok ⊢
  rw [← ok, List.take_set]
  refine sensitive_sum32 _ _ i b count inside ?_
  rwa [List.getElem?_take_of_lt inside]

/-- Only the octets that the entry counts have a say. -/
theorem verifies_congr (same : ∀ j < e.length.toNat, data'[j]? = data[j]?) :
    e.Verifies data' ↔ e.Verifies data := by
  have counted : data'.take e.length.toNat = data.take e.length.toNat := by
    apply List.ext_getElem?
    intro j
    rw [List.getElem?_take, List.getElem?_take]
    split
    next lt => exact same j lt
    next => rfl
  rw [Verifies, Verifies, counted]

end DirectoryEntry

/-- Nothing that guards a run misses a changed octet. In a firmware header whose sums are both right
the sum over the first sector fails exactly for the octets of this sector, and the sum over the
directory exactly for those of the directory and of the word that stores it. A container header
whose sum is right cannot be read any more, or its sum is wrong. Data that agree with their entry do
so no longer if the octet is one that the entry counts, and any others may change at will. -/
theorem changed_octet_detected :
    (∀ (h : FirmwareHeader) (i : Nat) (b : UInt8), h.HeaderSumOk → h.DirectorySumOk →
      i < FirmwareHeader.size → h.toOctets[i]? ≠ some b →
        (h.altered i b).toOctets = h.toOctets.set i b ∧
        (¬ (h.altered i b).HeaderSumOk ↔ i < 512) ∧
        (¬ (h.altered i b).DirectorySumOk ↔ 512 ≤ i ∨ i = 16 ∨ i = 17 ∨ i = 18 ∨ i = 19)) ∧
    (∀ (h : ContainerHeader) (i : Nat) (b : UInt8), h.SumOk → i < ContainerHeader.size →
      h.toOctets[i]? ≠ some b → ¬ ContainerHeader.Valid (h.toOctets.set i b)) ∧
    ∀ (e : DirectoryEntry) (data : List UInt8), e.Verifies data → e.length.toNat ≤ data.length →
      (∀ (i : Nat) (b : UInt8), i < e.length.toNat → data[i]? ≠ some b →
        ¬ e.Verifies (data.set i b)) ∧
      ∀ data', (∀ j < e.length.toNat, data'[j]? = data[j]?) → e.Verifies data' := by
  refine ⟨?_, ?_, ?_⟩
  · intro h i b headerOk directoryOk inside changed
    refine ⟨h.toOctets_altered i b, ?_⟩
    rw [FirmwareHeader.headerSumOk_altered_iff headerOk changed,
      FirmwareHeader.directorySumOk_altered_iff directoryOk inside changed, sectorSize]
    omega
  · intro h i b ok inside changed
    exact ContainerHeader.not_valid_set ok inside changed
  · intro e data ok whole
    refine ⟨fun i b inside changed => ?_, fun data' same => ?_⟩
    · exact DirectoryEntry.not_verifies_set ok whole inside changed
    · exact (DirectoryEntry.verifies_congr same).mpr ok

/-- An octet of the word that stores the sum over the directory, the first octet of a container
header, and the last octet that an entry counts. -/
theorem changed_octet_detected_ends :
    let bs : List UInt8 :=
      .replicate 16 0 ++ [5, 0, 0, 0] ++ .replicate 490 0 ++ [5, 0, 5] ++ .replicate 7679 0
    let h := FirmwareHeader.layout.decode bs
    let e : DirectoryEntry :=
      { filename := .ofList 11 [0x46, 0x57], kind := 0x49, reserved₁ := .zero 2, version := 0
        offset := 16, length := 3, reserved₂ := .zero 4, checksum := 0x030201 }
    (¬ (h.altered 17 1).HeaderSumOk ∧ ¬ (h.altered 17 1).DirectorySumOk) ∧
      ¬ ContainerHeader.Valid ((ContainerHeader.empty 0x10D6 0x1101).toOctets.set 0 0x42) ∧
      ¬ e.Verifies [1, 2, 4, 4] ∧ e.Verifies [1, 2, 3] := by
  obtain ⟨firmware, container, entry⟩ := changed_octet_detected
  intro bs h e
  have octets : h.toOctets = bs := FirmwareHeader.toOctets_decode (by decide +kernel)
  have headerOk : h.HeaderSumOk := by
    rw [h.headerSumOk_iff, octets]
    decide +kernel
  have directoryOk : h.DirectorySumOk := by
    rw [h.directorySumOk_iff, octets]
    decide +kernel
  obtain ⟨-, header, directory⟩ :=
    firmware h 17 1 headerOk directoryOk (by decide) (by rw [octets]; decide)
  obtain ⟨counted, others⟩ := entry e [1, 2, 3, 4] (by decide) (by decide)
  exact ⟨⟨header.mpr (by decide), directory.mpr (by decide)⟩,
    container _ 0 0x42 (ContainerHeader.sumOk_empty _ _) (by decide) (by decide +kernel),
    counted 2 4 (by decide) (by decide), others [1, 2, 3] (by decide)⟩

end PlayerLink
