import PlayerLink.Proofs.Program.Delivery
import PlayerLink.Proofs.Program.Interruption

/-!
# The two dumps of a firmware agree

A flat dump copies as many sectors as the header counts, a container dump reads each entry for
itself. If the entries are apart and none is empty, the flat file reaches to the end of all of them,
and what stands there for an entry is what the container stores for it.
-/

namespace PlayerLink

open ContainerHeader

variable {δ : Type} [BulkLink δ]

/-! ### The flat dump -/

variable {bus bus' : Bus δ} {session session' : Session δ} {desk desk' : Desk}
variable {service : ServiceTarget} {choice : HeaderChoice} {path path' : String}
variable {image : Image} {start : UInt32}

section

variable {fresh identified : Engine (Session δ) → Prop}
variable {ready : List UInt32 → Engine (Session δ) → Prop}
variable (opens : Opens service.target.device bus session) (attached : fresh { link := session })
variable (chosen : Chosen image choice start)
variable (inRange : start.toNat + (FirmwareHeader.sectors - 1) ≤ 0xFFFFFFFF)
variable (starts : image.Starts start)
include opens attached chosen inRange starts

/-- A flat dump that succeeds leaves the sectors that the header counts. -/
theorem ends_dumpImage
    (player : Scripted service.target.lun image (headerSectors choice start ++
      sectorsFrom start.toNat (image.header start).imageSectors.toNat) fresh identified ready) :
    Ends (dumpImage service choice path).run
      (fun outcome t => outcome = .ok () → Desk.Leaves path (image.octets start.toNat
        ((image.header start).imageSectors.toNat * sectorSize)) desk t.2) (bus, desk) := by
  let all := image.octets start.toNat ((image.header start).imageSectors.toNat * sectorSize)
  refine (ends_withServiceMode (fun outcome d => outcome = .ok () → Desk.Leaves path all desk d)
    player opens attached fun e begin => ?_).mono ?_
  · rw [← List.append_nil (sectorsFrom _ _)] at begin
    refine ends_bindHeader player chosen inRange starts begin desk ?_
    intro u d before next shown
    by_cases none : (image.header start).imageSectors = 0
    · rw [if_pos none]
      exact fun log => nofun
    · rw [if_neg none]
      have reads : ReadsImage (flashReader service.target.lun .logical) image ready :=
        player.readsImage
      refine Ends.bindExcept_lift ((reads.ends_dumpSectors _ next d).mono ?_)
      intro outcome t finished ok
      obtain ⟨-, place, creatable, folder, -⟩ := finished ok
      rw [shown.folder] at creatable folder
      exact Desk.leaves_of_keep creatable folder
  · intro outcome t ⟨d, texts, finished, last⟩ ok
    obtain ⟨place, creatable, folder, _⟩ := finished ok
    exact Desk.leaves_of_keep creatable (last.folder.trans folder)

/-- What a container dump leaves if it succeeds: the container of all entries. -/
theorem leaves_dumpContainer
    (player : Scripted service.target.lun image
      (headerSectors choice start ++ sectorsOf start (image.header start).entries) fresh identified
      ready) :
    Ends (dumpContainer service choice path).run
      (fun outcome t => outcome = .ok () → ∃ content container,
        Desk.Leaves path content desk t.2 ∧
        Dumped service.target.device image start (image.header start).entries content container)
      (bus, desk) := by
  by_cases writable : ∃ place, desk.folder.creatable path = .ok place ∧ place ≠ .device .full
  · obtain ⟨place, creatable, writable⟩ := writable
    refine (dumpEnds_dumpContainer opens attached chosen inRange starts player creatable
      writable).mono ?_
    intro outcome t ends ok
    obtain ⟨content, container, _, _, dumped, kept, _⟩ := ends.success ok
    exact ⟨content, container, Desk.leaves_of_keep creatable kept, dumped⟩
  · have unwritable (place : Place) (creatable : desk.folder.creatable path = .ok place) :
        place = .device .full := by
      by_contra other
      exact writable ⟨place, creatable, other⟩
    refine (ends_dumpContainer_unwritable opens attached chosen inRange starts player
      unwritable).mono ?_
    intro outcome t failed ok
    exact absurd ok failed

end

/-- An entry of a container and one of a firmware with the same data: the octets that the container
stores are those that a flat file has for the entry, and the flat file has all of them. -/
structure SameData (flat content : List UInt8) (e : DirectoryEntry) (f : ContainerEntry) :
    Prop where
  filename : f.filename = e.filename
  length : f.length = e.length
  reaches : e.offset.toNat * sectorSize + e.length.toNat ≤ flat.length
  octets : (content.drop f.offset.toNat).take f.length.toNat =
    (flat.drop (e.offset.toNat * sectorSize)).take e.length.toNat

/-- A file with the sectors of an image up to the end of an entry and a container with the entry. -/
theorem Dumped.sameData {id : DeviceId} {entries : List DirectoryEntry} {content : List UInt8}
    {container : ContainerHeader} (h : Dumped id image start entries content container)
    {i count : Nat} {e : DirectoryEntry} (there : entries[i]? = some e)
    (reaches : e.offset.toNat + e.sectorCount ≤ count) :
    ∃ f, container.used[i]? = some f ∧
      SameData (image.octets start.toNat (count * sectorSize)) content e f := by
  obtain ⟨f, stored, filename, -, -, length, octets, -⟩ := h.each i e there
  have inside : e.offset.toNat * sectorSize + e.length.toNat ≤ count * sectorSize := by
    calc e.offset.toNat * sectorSize + e.length.toNat
        ≤ e.offset.toNat * sectorSize + e.sectorCount * sectorSize :=
          Nat.add_le_add_left e.length_le _
      _ = (e.offset.toNat + e.sectorCount) * sectorSize := (Nat.add_mul ..).symm
      _ ≤ count * sectorSize := Nat.mul_le_mul_right _ reaches
  refine ⟨f, stored, filename, length, ?_, ?_⟩
  · rw [Image.length_octets]
    exact inside
  · rw [octets, image.take_drop_octets inside]

/-- With a player that serves its firmware, and a header the entries of which are not empty, share
no sector and end where sectors can still be counted: if a flat dump and a container dump with the
same options both succeed, the container stores for each used entry, in order, the octets that the
flat file has at the sector of the entry, and the flat file has all of them. -/
theorem dumps_agree {fresh identified ready : δ → Prop}
    (player : Serving service.target.lun image fresh identified ready)
    (opens : Opens service.target.device bus session) (attached : Session.Holding fresh session)
    (opens' : Opens service.target.device bus' session')
    (attached' : Session.Holding fresh session')
    (chosen : Chosen image choice start)
    (inRange : start.toNat + (FirmwareHeader.sectors - 1) ≤ 0xFFFFFFFF)
    (starts : image.Starts start)
    (filled : ∀ e ∈ (image.header start).entries, e.length ≠ 0)
    (apart : (image.header start).entries.Pairwise DirectoryEntry.Apart)
    (bounded : ∀ e ∈ (image.header start).entries,
      e.offset.toNat + e.sectorCount ≤ 0xFFFFFFFF) :
    Ends (dumpImage service choice path).run
      (fun outcome t => Ends (dumpContainer service choice path').run
        (fun outcome' t' => outcome = .ok () → outcome' = .ok () → ∃ flat content container,
          Desk.Leaves path flat desk t.2 ∧ Desk.Leaves path' content desk' t'.2 ∧
          ContainerHeader.ofOctets content = .ok container ∧
          container.used.length = (image.header start).entries.length ∧
          ∀ (i : Nat) (e : DirectoryEntry), (image.header start).entries[i]? = some e →
            ∃ f, container.used[i]? = some f ∧ SameData flat content e f)
        (bus', desk')) (bus, desk) := by
  refine (ends_dumpImage opens attached chosen inRange starts (player.scripted _).session).mono ?_
  intro outcome t image
  refine (leaves_dumpContainer opens' attached' chosen inRange starts
    (player.scripted _).session).mono ?_
  intro outcome' t' packed ok ok'
  obtain ⟨content, container, left, dumped⟩ := packed ok'
  refine ⟨_, content, container, image ok, left, dumped.parsed, dumped.count, ?_⟩
  intro i e there
  exact dumped.sameData there
    (FirmwareHeader.finish_le_imageSectors filled apart bounded (List.mem_of_getElem? there))

/-- A memory with the mark of a header and the two entries, the later one first. -/
def partsReversed : Array UInt8 :=
  (Word.le32 FirmwareHeader.mark ++ List.replicate 508 0 ++
    DirectoryEntry.layout.encode secondPart ++ DirectoryEntry.layout.encode firstPart).toArray

/-- Two dumps of a player with this memory. -/
theorem dumps_agree_partsReversed :
    Ends (dumpImage ⟨onePartTarget, true⟩ ⟨false, 0⟩ "fw.bin").run
      (fun outcome t => Ends (dumpContainer ⟨onePartTarget, true⟩ ⟨false, 0⟩ "fw.afi").run
        (fun outcome' t' => outcome = .ok () → outcome' = .ok () → ∃ flat content container,
          Desk.Leaves "fw.bin" flat {} t.2 ∧ Desk.Leaves "fw.afi" content {} t'.2 ∧
          ContainerHeader.ofOctets content = .ok container ∧
          container.used.length = ((Image.ofRun 0 partsReversed 0).header 0).entries.length ∧
          ∀ (i : Nat) (e : DirectoryEntry),
            ((Image.ofRun 0 partsReversed 0).header 0).entries[i]? = some e →
              ∃ f, container.used[i]? = some f ∧ SameData flat content e f)
        ({ devices := [.plain onePartTarget.device
          (SimulatedPlayer.idle (RuleBook.firmware 0 partsReversed 0))] }, {}))
      ({ devices := [.plain onePartTarget.device
        (SimulatedPlayer.idle (RuleBook.firmware 0 partsReversed 0))] }, {}) := by
  obtain ⟨session, opens, attached⟩ := exists_opens onePartTarget.device (by decide)
    (SimulatedPlayer.idle (RuleBook.firmware 0 partsReversed 0))
  have starts : (Image.ofRun 0 partsReversed 0).Starts 0 := by
    rw [Image.Starts, Image.toList_ofRun]
    decide +kernel
  have listed : ((Image.ofRun 0 partsReversed 0).header 0).entries = [secondPart, firstPart] := by
    rw [Image.header, UInt32.toNat_zero, Image.octets_ofRun _ _ (by decide)]
    decide +kernel
  have apart : DirectoryEntry.Apart secondPart firstPart := by
    rintro sector ⟨⟨_, _⟩, _, past⟩
    have finish : firstPart.offset.toNat + firstPart.sectorCount = 17 := rfl
    have begin : secondPart.offset.toNat = 17 := rfl
    omega
  refine dumps_agree (SimulatedPlayer.serving 0 0 partsReversed 0) opens attached opens attached rfl
    (by simp [FirmwareHeader.sectors]) starts ?_ ?_ ?_
  · rw [listed]
    decide
  · rw [listed]
    exact List.pairwise_pair.mpr apart
  · rw [listed]
    decide

end PlayerLink
