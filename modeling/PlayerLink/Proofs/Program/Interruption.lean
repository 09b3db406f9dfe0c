import PlayerLink.Proofs.Program.ContainerDump

/-!
# A dump that stops half way

The player may fail at any read, and an entry may name sectors that there are not. The dump then
ends with a failure to read this entry, and what was packed before it is a container like any other:
the entries before the one that failed are in it with all of their octets, the other slots are
empty.
-/

namespace PlayerLink

open ContainerHeader

variable {δ : Type} [BulkLink δ]

/-- Why an entry of the header at a sector cannot be read. What is given beside it are the sectors
that are still answered: of an entry out of reach none is asked for, and otherwise the failure
falls on any sector of the entry, when those in front of it have been read. -/
inductive Stalls (lun : UInt8) (start : UInt32) (e : DirectoryEntry)
    (ready : List UInt32 → Engine (Session δ) → Prop) : List UInt32 → Prop
  | outOfReach (left : List UInt32) (past : ¬ Reaches start e) : Stalls lun start e ready left
  | refused {i : Nat} (within : i < e.sectorCount)
      (refuses : ∀ u, ready [] u →
        Refuses lun (UInt32.ofNat (start.toNat + e.offset.toNat + i)) u) :
      Stalls lun start e ready (sectorsFrom (start.toNat + e.offset.toNat) i)

theorem Stalls.ends_readEntry {lun : UInt8} {image : Image} {script left : List UInt32}
    {fresh identified : Engine (Session δ) → Prop}
    {ready : List UInt32 → Engine (Session δ) → Prop} {start : UInt32} {e : DirectoryEntry}
    (stalls : Stalls lun start e ready left)
    (h : Scripted lun image script fresh identified ready) (u : Engine (Session δ))
    (begin : ready left u) :
    Ends (Firmware.readEntry lun start e) (fun outcome _ => ∃ cause, outcome = .error cause) u := by
  cases stalls with
  | outOfReach _ past =>
    exact (Firmware.gives_readEntry_outOfRange lun (Nat.not_le.mp (mt reaches_iff.mpr past)) u).ends
      ⟨_, rfl⟩
  | refused within refuses => exact h.ends_readEntry_failed within begin refuses

/-- A device that lets the header and some of its first entries be read, which fit a container, and
then fails at the next: the dump fails with the name of this entry, and the file is a container of
the entries before it, with their octets, lengths, places and sums, and with nothing in the other
slots. -/
theorem dumpContainer_stops {bus : Bus δ} {session : Session δ} {desk : Desk}
    {service : ServiceTarget} {choice : HeaderChoice} {path : String} {place : Place}
    {image : Image} {start : UInt32} {before after : List DirectoryEntry} {e : DirectoryEntry}
    {left : List UInt32} {fresh identified : Engine (Session δ) → Prop}
    {ready : List UInt32 → Engine (Session δ) → Prop}
    (player : Scripted service.target.lun image
      (headerSectors choice start ++ (sectorsOf start before ++ left)) fresh identified ready)
    (opens : Opens service.target.device bus session) (attached : fresh { link := session })
    (chosen : Chosen image choice start)
    (inRange : start.toNat + (FirmwareHeader.sectors - 1) ≤ 0xFFFFFFFF)
    (starts : image.Starts start)
    (listed : (image.header start).entries = before ++ e :: after)
    (packable : Packable start 0 size before)
    (stalls : Stalls service.target.lun start e ready left)
    (creatable : desk.folder.creatable path = .ok place) (writable : place ≠ .device .full) :
    Ends (dumpContainer service choice path).run
      (fun outcome t => (∃ cause, outcome = .error (.during (.readEntry e.name) (.firmware cause))) ∧
        ∃ w, t.2.folder = desk.folder.keep place w.medium.content ∧
          (∀ name, place = .file name → t.2.folder.content? name = some w.medium.content) ∧
          Dumped service.target.device image start before w.medium.content w.header ∧
          ContainerWriter.Stores service.target.device.vendorId service.target.device.productId
            (before.map (packed image start)) w)
      (bus, desk) := by
  let stopping (r : Except Failure Unit) (w : ContainerWriter) (d d' : Desk) : Prop :=
    (∃ cause, r = .error (.during (.readEntry e.name) (.firmware cause))) ∧
      ContainerWriter.Holds service.target.device.vendorId service.target.device.productId
        (before.map (packed image start)) w ∧
      Desk.Shows (packedLines image start 0 before) d d'
  have used : ∀ b ∈ before, b.IsUsed := by
    intro b there
    apply (image.header start).isUsed_of_mem_entries
    rw [listed]
    exact List.mem_append_left _ there
  have packs (w : ContainerWriter) (u : Engine (Session δ)) (d : Desk)
      (held : ContainerWriter.Holds service.target.device.vendorId
        service.target.device.productId [] w) (next : ready (sectorsOf start before ++ left) u) :
      Packs (packEntries service.target.lun start (image.header start).entries)
        (fun r w' t' => stopping r w' d t'.2) w (u, d) := by
    rw [listed]
    exact packs_packEntries_stops (t := (u, d)) player after held next used packable
      (stalls.ends_readEntry player)
  refine (ends_dumpContainer opens attached chosen inRange starts stopping player creatable writable
    packs).mono ?_
  intro outcome t ⟨w, d, d', texts, more, ⟨failed, held, shown'⟩, shown, folder, _⟩
  have kept : t.2.folder = desk.folder.keep place w.medium.content := by
    rw [folder, shown'.folder, shown.folder]
  have room : size + Part.total (before.map (packed image start)) ≤ lastPlace := by
    rw [total_packed]
    exact packable.room
  refine ⟨failed, w, kept, ?_, held.dumped packable.room, held.stores room⟩
  rintro name rfl
  rw [kept]
  exact Folder.content?_put _ _ _

/-- An entry of five octets in sector 16. -/
def firstPart : DirectoryEntry where
  filename := .ofList 11 [0x57]
  kind := 1
  reserved₁ := .ofList 2 []
  version := 0
  offset := 16
  length := 5
  reserved₂ := .ofList 4 []
  checksum := 0

/-- An entry of 600 octets in the sectors 17 and 18. -/
def secondPart : DirectoryEntry := { firstPart with offset := 17, length := 600 }

/-- A memory with the mark of a header and these two entries. -/
def twoParts : Array UInt8 :=
  (Word.le32 FirmwareHeader.mark ++ List.replicate 508 0 ++
    DirectoryEntry.layout.encode firstPart ++ DirectoryEntry.layout.encode secondPart).toArray

/-- A dump of a player that cannot read sector 18. -/
theorem dumpContainer_stops_secondPart :
    Ends (dumpContainer ⟨onePartTarget, true⟩ ⟨false, 0⟩ "fw.afi").run
      (fun outcome t =>
        (∃ cause, outcome = .error (.during (.readEntry secondPart.name) (.firmware cause))) ∧
        ∃ w, t.2.folder = Folder.keep (.file "fw.afi") w.medium.content {} ∧
          (∀ name, Place.file "fw.afi" = .file name →
            t.2.folder.content? name = some w.medium.content) ∧
          Dumped onePartTarget.device (.ofRun 0 twoParts 0) 0 [firstPart] w.medium.content
            w.header ∧
          ContainerWriter.Stores onePartTarget.device.vendorId onePartTarget.device.productId
            ([firstPart].map (packed (.ofRun 0 twoParts 0) 0)) w)
      ({ devices := [.plain onePartTarget.device
        (SimulatedPlayer.idle (RuleBook.damaged 18 0 twoParts 0))] }, {}) := by
  obtain ⟨session, opens, attached⟩ := exists_opens onePartTarget.device (by decide)
    (SimulatedPlayer.idle (RuleBook.damaged 18 0 twoParts 0))
  have starts : (Image.ofRun 0 twoParts 0).Starts 0 := by
    rw [Image.Starts, Image.toList_ofRun]
    decide +kernel
  have listed : ((Image.ofRun 0 twoParts 0).header 0).entries = [firstPart] ++ secondPart :: [] := by
    rw [Image.header, UInt32.toNat_zero, Image.octets_ofRun _ _ (by decide)]
    decide +kernel
  have packable : Packable 0 0 size [firstPart] := by
    refine ⟨by decide, ?_, by decide⟩
    intro e there
    rw [List.mem_singleton.mp there, reaches_iff]
    decide
  have spared : 18 ∉ headerSectors ⟨false, 0⟩ 0 ++
      (sectorsOf 0 [firstPart] ++ sectorsFrom (0 + 17) 1) := by
    decide
  have player := (SimulatedPlayer.scripted_damaged 0 18 0 twoParts 0 spared).session
  have refuses (u : Engine (Session (SimulatedPlayer RuleBook)))
      (ready : Engine.Holding (fun e => e.link = SimulatedPlayer.idle
        (RuleBook.damaged 18 0 twoParts 0) ∧ 18 ∉ ([] : List UInt32)) u) :
      Refuses 0 18 u := by
    obtain ⟨d, there, idle, _⟩ := ready
    have declines := SimulatedPlayer.declines_damaged 0 18 (u.tag + 1) 0 twoParts 0
    rw [← idle] at declines
    obtain ⟨s, declines⟩ := Session.declines there declines
    exact Refuses.of_declines declines
  exact dumpContainer_stops player opens attached rfl (by simp [FirmwareHeader.sectors]) starts listed
    packable (.refused (by decide) refuses) rfl (by simp)

end PlayerLink
