import PlayerLink.Proofs.Alteration

/-!
# Setting the sums of a firmware header right

The sum over the directory stands in the first sector, so the sum over this sector covers it, and it
stands behind everything that it covers itself. Neither sum depends on the word that stores it. So
if the sum over the directory is stored first, both are right in the end, nothing but the two words
has changed, and to do it again changes nothing.
-/

namespace PlayerLink

/-- A part of a run that is exchanged for another one does not touch the octets around it. -/
theorem getElem?_append_part {front part part' back : List UInt8} {i : Nat}
    (length : part'.length = part.length)
    (outside : ¬ (front.length ≤ i ∧ i < front.length + part.length)) :
    (front ++ (part' ++ back))[i]? = (front ++ (part ++ back))[i]? := by
  rcases Nat.lt_or_ge i front.length with ahead | behind
  · rw [List.getElem?_append_left ahead, List.getElem?_append_left ahead]
  · rw [List.getElem?_append_right behind, List.getElem?_append_right behind,
      List.getElem?_append_right (by omega), List.getElem?_append_right (by omega), length]

namespace FirmwareHeader

/-- The octets of a header, but for those of the two words that store the sums, do not depend on
these. -/
theorem toOctets_eq (h : FirmwareHeader) :
    ∃ front middle back : List UInt8, front.length = 16 ∧ middle.length = summed - 20 ∧
      ∀ directorySum headerSum,
        { h with directoryChecksum := directorySum, headerChecksum := headerSum }.toOctets =
          front ++ (Word.le32 directorySum ++ (middle ++ (Word.le16 headerSum ++ back))) := by
  have split : ∃ middle : List UInt8, ∀ directorySum headerSum,
      { h with directoryChecksum := directorySum, headerChecksum := headerSum }.toOctets =
        (Word.le32 h.magic ++ (h.version.toList ++ (h.date.toList ++ (Word.le16 h.vendorId ++
          Word.le16 h.productId)))) ++ (Word.le32 directorySum ++ (middle ++
            (Word.le16 headerSum ++ directoryLayout.encode h.directory))) := by
    refine ⟨h.reserved₁.toList ++ (h.description.toList ++ (h.producer.toList ++
      (h.deviceName.toList ++ (h.reserved₂.toList ++ (h.usbAttributes.toList ++
      (h.usbIdentification.toList ++ (h.usbProductVersion.toList ++ (h.reserved₃.toList ++
      ([h.stringLength] ++ ([h.stringType] ++ (h.stringUnits.toList ++
      (CommonValues.layout.encode h.common ++ (h.reserved₄.toList ++
      ((CountedText.layout 32).encode h.mtpManufacturer ++
      ((CountedText.layout 32).encode h.mtpProduct ++
      ((CountedText.layout 16).encode h.mtpVersion ++
      ((CountedText.layout 16).encode h.mtpSerial ++ (Word.le16 h.mtpVendorId ++
      (Word.le16 h.mtpProductId ++ h.reserved₅.toList))))))))))))))))))),
      fun directorySum headerSum => ?_⟩
    simp only [List.append_assoc]
    rfl
  obtain ⟨middle, octets⟩ := split
  refine ⟨_, middle, _, by simp, ?_, octets⟩
  -- What is left for the middle is told by the length of the whole.
  have length := congrArg List.length (octets 0 0)
  have directory : directoryLayout.size = size - sectorSize := rfl
  simp only [length_toOctets, List.length_append, Word.length_le32, Word.length_le16,
    Vector.length_toList, directoryLayout.length_encode, directory] at length
  simp only [size, sectors, sectorSize] at length
  rw [summed]
  omega

/-- The sum over the first sector does not cover the word that stores it. -/
theorem computedHeaderChecksum_withHeaderChecksum (h : FirmwareHeader) (sum : UInt16) :
    { h with headerChecksum := sum }.computedHeaderChecksum = h.computedHeaderChecksum := by
  obtain ⟨front, middle, back, front_length, middle_length, octets⟩ := toOctets_eq h
  have covered (sum : UInt16) : ({ h with headerChecksum := sum }.toOctets).take summed =
      front ++ (Word.le32 h.directoryChecksum ++ middle) := by
    have length : (front ++ (Word.le32 h.directoryChecksum ++ middle)).length = summed := by
      rw [List.length_append, List.length_append, front_length, middle_length, Word.length_le32,
        summed]
    rw [octets h.directoryChecksum sum, ← List.append_assoc, ← List.append_assoc,
      List.append_assoc front, List.take_left' length]
  rw [computedHeaderChecksum, computedHeaderChecksum, covered sum, ← covered h.headerChecksum]

theorem directorySumOk_repaired (h : FirmwareHeader) : h.repaired.DirectorySumOk := rfl

theorem headerSumOk_repaired (h : FirmwareHeader) : h.repaired.HeaderSumOk :=
  computedHeaderChecksum_withHeaderChecksum
    { h with directoryChecksum := h.computedDirectoryChecksum } _

/-- Where no sum is stored the octets are as they were. -/
theorem getElem?_toOctets_repaired (h : FirmwareHeader) {i : Nat} (directory : ¬ (16 ≤ i ∧ i < 20))
    (header : ¬ (summed ≤ i ∧ i < sectorSize)) : h.repaired.toOctets[i]? = h.toOctets[i]? := by
  obtain ⟨front, middle, back, front_length, middle_length, octets⟩ := toOctets_eq h
  have word (a b : UInt32) : (Word.le32 a).length = (Word.le32 b).length := rfl
  have half (a b : UInt16) : (Word.le16 a).length = (Word.le16 b).length := rfl
  have before : h.toOctets = _ := octets h.directoryChecksum h.headerChecksum
  have after : h.repaired.toOctets = _ := octets h.computedDirectoryChecksum _
  rw [summed] at middle_length header
  rw [sectorSize] at header
  rw [before, after, getElem?_append_part (word _ h.directoryChecksum)]
  · simp only [← List.append_assoc]
    rw [List.append_assoc, List.append_assoc _ _ back,
      getElem?_append_part (half _ h.headerChecksum)]
    simp only [List.length_append, front_length, middle_length, Word.length_le32, Word.length_le16]
    omega
  · rw [front_length, Word.length_le32]
    omega

/-- A header is left as it is exactly if both sums are right. -/
theorem repaired_eq_iff {h : FirmwareHeader} :
    h.repaired = h ↔ h.HeaderSumOk ∧ h.DirectorySumOk := by
  constructor
  · intro same
    have header := h.headerSumOk_repaired
    have directory := h.directorySumOk_repaired
    rw [same] at header directory
    exact ⟨header, directory⟩
  · rintro ⟨header, directory⟩
    rw [HeaderSumOk] at header
    rw [DirectorySumOk] at directory
    rw [repaired, directory]
    exact congrArg (fun sum => { h with headerChecksum := sum }) header

/-- Both sums over a header are right once they were set right, whatever the header holds. Of its
8192 octets those of the two words that store the sums may have changed, and no others. A header is
left as it is exactly if both sums are right, so to set them right again changes nothing. -/
theorem repaired_sums_stable (h : FirmwareHeader) :
    h.repaired.HeaderSumOk ∧ h.repaired.DirectorySumOk ∧
    (∀ i, i ∉ [16, 17, 18, 19, 510, 511] → h.repaired.toOctets[i]? = h.toOctets[i]?) ∧
    h.repaired.repaired = h.repaired ∧
    (h.repaired = h ↔ h.HeaderSumOk ∧ h.DirectorySumOk) := by
  refine ⟨h.headerSumOk_repaired, h.directorySumOk_repaired, ?_, ?_, repaired_eq_iff⟩
  · intro i elsewhere
    simp only [List.mem_cons, List.not_mem_nil, or_false, not_or] at elsewhere
    refine h.getElem?_toOctets_repaired (by omega) ?_
    rw [summed, sectorSize]
    omega
  · exact repaired_eq_iff.mpr ⟨h.headerSumOk_repaired, h.directorySumOk_repaired⟩

end FirmwareHeader

end PlayerLink
