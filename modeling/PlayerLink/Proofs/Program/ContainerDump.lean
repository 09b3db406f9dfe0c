import PlayerLink.Proofs.Firmware.Rules
import PlayerLink.Proofs.Program.Packing

/-!
# A container dump from end to end

A dump finds the device, switches the player into service mode, finds the header, packs the used
entries of its directory and writes the container to a file. With a player that serves its
firmware and a file that can be created and written, what decides on the outcome is the directory
alone, and a file that comes of it can be read back to the entries and to their octets.
-/

namespace PlayerLink

open ContainerHeader

variable {δ : Type} [BulkLink δ]

/-! ### The header to work with -/

/-- The sector of the header that a choice is about: sector 0, or the first one of the range that
starts like a header. -/
def Chosen (image : Image) (choice : HeaderChoice) (start : UInt32) : Prop :=
  if choice.alternate then
    image.Starts start ∧ Firmware.searchStart ≤ start ∧ start < choice.limit ∧
      ∀ s, Firmware.searchStart ≤ s → s < start → ¬ image.Starts s
  else start = 0

theorem Desk.Shows.lastBar (change : ProgressBar → ProgressBar) (d : Desk) :
    Desk.Shows [] d (d.lastBar change) :=
  ⟨by simp [Desk.lastBar], rfl⟩

/-- The sectors that are read to find the header of a choice. -/
def searchedSectors (choice : HeaderChoice) (start : UInt32) : List UInt32 :=
  if choice.alternate then
    sectorsFrom Firmware.searchStart.toNat (start.toNat - Firmware.searchStart.toNat + 1)
  else []

/-- The sectors that are read to find the header of a choice and to read it. -/
def headerSectors (choice : HeaderChoice) (start : UInt32) : List UInt32 :=
  searchedSectors choice start ++ sectorsFrom start.toNat FirmwareHeader.sectors

section Header

variable {lun : UInt8} {image : Image} {script left : List UInt32}
variable {fresh identified : Engine (Session δ) → Prop}
variable {ready : List UInt32 → Engine (Session δ) → Prop}
variable {choice : HeaderChoice} {start : UInt32}
variable (h : Scripted lun image script fresh identified ready)
variable (chosen : Chosen image choice start)
include h chosen

/-- Bars come and go without a word, but for the end of the line. -/
theorem ends_headerSector {e : Engine (Session δ)}
    (begin : ready (searchedSectors choice start ++ left) e) (desk : Desk) :
    Ends (headerSector lun choice).run
      (fun outcome t => outcome = .ok start ∧ ready left t.1 ∧
        ∃ texts, Desk.Shows texts desk t.2) (e, desk) := by
  rw [headerSector]
  by_cases alternate : choice.alternate
  · rw [Chosen, if_pos alternate] at chosen
    obtain ⟨starts, below, above, first⟩ := chosen
    rw [searchedSectors, if_pos alternate] at begin
    rw [if_neg (not_not_intro alternate)]
    refine Ends.bindOnDesk (Ends.bindOnDesk ?_)
    have found := h.ends_locateAlternate
      (fun d => ∃ texts, Desk.Shows texts desk d) starts first below above begin
      (fun n p ⟨texts, shown⟩ => ⟨_, shown.trans (.lastBar _ p)⟩)
      (fun p ⟨texts, shown⟩ => ⟨_, shown.trans (.lastBar _ p)⟩)
      (p := Desk.addBar { unit := .none, label := "sectors " }
        (desk.print "Searching for alternate header..."))
      ⟨["Searching for alternate header..."], by simp [Desk.addBar, Desk.print], rfl⟩
    refine Ends.bindExcept_step found ?_
    rintro _ ⟨u, _⟩ ⟨rfl, next, d, ⟨texts, shown⟩, rfl⟩
    refine Ends.bindEnded rfl (Ends.bindOnDesk (Ends.pure_iff.mpr ⟨rfl, next, ?_⟩))
    exact ⟨_, shown.trans ((Desk.Shows.lastBar _ d).trans ((Desk.Shows.print "" _).trans
      (.print _ _)))⟩
  · rw [Chosen, if_neg alternate] at chosen
    rw [searchedSectors, if_neg alternate] at begin
    rw [if_pos alternate]
    exact Ends.pure_iff.mpr ⟨congrArg _ chosen.symm, begin, [], .refl desk⟩

/-- What follows the header of a choice. -/
theorem ends_bindHeader {α : Type} {next : UInt32 → FirmwareHeader → ServiceM δ α}
    {post : Except Failure α → Engine (Session δ) × Desk → Prop}
    (inRange : start.toNat + (FirmwareHeader.sectors - 1) ≤ 0xFFFFFFFF)
    (starts : image.Starts start) {e : Engine (Session δ)}
    (begin : ready (headerSectors choice start ++ left) e) (desk : Desk)
    (rest : ∀ u d before, ready left u → Desk.Shows before desk d →
      Ends (next start (image.header start)).run post (u, d)) :
    Ends (do
      let start ← headerSector lun choice
      let header ← fetchHeader lun start
      next start header : ServiceM δ α).run post (e, desk) := by
  rw [headerSectors, List.append_assoc] at begin
  refine Ends.bindExcept (ends_headerSector h chosen begin desk) ?_ (by simp)
  rintro _ ⟨u, d⟩ ⟨found, next, before, shown⟩
  cases found
  refine Ends.bindRequire (h.ends_readHeader next inRange starts) ?_
  rintro _ v ⟨rfl, next'⟩
  exact ⟨_, rfl, rest v d before next' shown⟩

end Header

/-! ### What the file holds -/

/-- A file that holds a container with the entries of a firmware, in order, and their octets. -/
structure Dumped (id : DeviceId) (image : Image) (start : UInt32) (entries : List DirectoryEntry)
    (content : List UInt8) (container : ContainerHeader) : Prop where
  parsed : ContainerHeader.ofOctets content = .ok container
  sum : container.SumOk
  vendor : container.vendorId = id.vendorId
  product : container.productId = id.productId
  count : container.used.length = entries.length
  each : ∀ (i : Nat) (e : DirectoryEntry), entries[i]? = some e →
    ∃ f, container.used[i]? = some f ∧
      f.filename = e.filename ∧ f.kind = e.kind ∧ f.address = 0 ∧ f.length = e.length ∧
      (content.drop f.offset.toNat).take f.length.toNat =
        image.octets (start.toNat + e.offset.toNat) e.length.toNat ∧
      f.checksum =
        Checksum.sum32 (image.octets (start.toNat + e.offset.toNat) e.length.toNat)

theorem total_packed (image : Image) (start : UInt32) (entries : List DirectoryEntry) :
    Part.total (entries.map (packed image start)) = totalOf (fun e => e.length.toNat) entries := by
  rw [Part.total, totalOf_map]
  simp only [length_packed]

/-- A container that holds packed entries is a dump of them. -/
theorem ContainerWriter.Holds.dumped {id : DeviceId} {image : Image} {start : UInt32}
    {entries : List DirectoryEntry} {w : ContainerWriter}
    (h : Holds id.vendorId id.productId (entries.map (packed image start)) w)
    (room : size + totalOf (fun e => e.length.toNat) entries ≤ lastPlace) :
    Dumped id image start entries w.medium.content w.header where
  parsed := h.ofOctets
  sum := h.sum
  vendor := h.vendor
  product := h.product
  count := by rw [h.used_eq, Part.length_filed, List.length_map]
  each i e there := by
    have part : (entries.map (packed image start))[i]? = some (packed image start e) := by
      rw [List.getElem?_map, there]
      rfl
    have reach := Part.total_take_le _ i part
    rw [total_packed] at reach
    have offset : ((packed image start e).placedAt
        (size + Part.total ((entries.map (packed image start)).take i))).offset.toNat =
        size + Part.total ((entries.map (packed image start)).take i) := by
      rw [Part.placedAt, UInt32.toNat_ofNat', Nat.mod_eq_of_lt]
      rw [lastPlace] at room
      omega
    have length : ((packed image start e).placedAt
        (size + Part.total ((entries.map (packed image start)).take i))).length = e.length := by
      rw [Part.placedAt, length_packed, UInt32.ofNat_toNat]
    refine ⟨(packed image start e).placedAt
      (size + Part.total ((entries.map (packed image start)).take i)), ?_, rfl, rfl, rfl, length,
      ?_, rfl⟩
    · rw [h.used_eq, Part.getElem?_filed, part]
      rfl
    · -- In front of the data stand the header and the data of the earlier entries.
      have front : (w.header.toOctets ++
          Part.payload ((entries.map (packed image start)).take i)).length =
          size + Part.total ((entries.map (packed image start)).take i) := by
        rw [List.length_append, length_toOctets, Part.length_payload]
      rw [offset, length, h.content, Part.payload_eq part, ← List.append_assoc,
        List.drop_left' front, List.take_left' length_packed]
      rfl

/-- The medium of a file that can be written takes everything. -/
theorem steady_medium {place : Place} (writable : place ≠ .device .full) :
    (Folder.medium place).Steady ∧ (Folder.medium place).content = [] := by
  have plain : Folder.medium place = {} := by
    unfold Folder.medium
    split
    · exact absurd rfl writable
    · rfl
  rw [plain]
  exact ⟨⟨by simp, by simp, by simp, rfl⟩, rfl⟩

/-- How a dump to a place may end: with success exactly if all entries can be packed, and then
with a dump of them in the file and a line for each among those printed. -/
structure DumpEnds (id : DeviceId) (image : Image) (start : UInt32) (place : Place) (d : Desk)
    (outcome : Except Failure Unit) (d' : Desk) : Prop where
  decides : outcome = .ok () ↔ Packable start 0 size (image.header start).entries
  success : outcome = .ok () → ∃ content container before after,
    Dumped id image start (image.header start).entries content container ∧
    d'.folder = d.folder.keep place content ∧
    (∀ name, place = .file name → d'.folder.content? name = some content) ∧
    d'.printed.toList = d.printed.toList ++ before ++
      packedLines image start 0 (image.header start).entries ++ after

/-- On a device that is full the header of a container cannot be written. -/
theorem ContainerWriter.ends_writeHeader_full (vendorId productId : UInt16) :
    Ends writeHeader.run (fun outcome _ => ∃ cause, outcome = .error cause)
      (on (Folder.medium (.device .full)) vendorId productId) := by
  let w := on (Folder.medium (.device .full)) vendorId productId
  have sought : Gives (onMedium (Medium.seek 0)).run w (.ok ())
      { w with medium := (Medium.seek 0 w.medium).2 } := gives_onMedium (Medium.seek 0) w
  refine Gives.bindOk sought (Ends.bindExcept_get ?_)
  refine Ends.bindExcept (gives_onMedium (Medium.writeAll w.header.toOctets) _) ?_ ?_
  · rintro _ _ ⟨wrote, -⟩
    cases octets : w.header.toOctets with
    | nil =>
      have length := w.header.length_toOctets
      rw [octets] at length
      cases length
    | cons b bs =>
      rw [octets] at wrote
      cases wrote
  · intro cause _ _
    exact ⟨cause, rfl⟩

theorem FirmwareHeader.isUsed_of_mem_entries {h : FirmwareHeader} {e : DirectoryEntry}
    (listed : e ∈ h.entries) : e.IsUsed := by
  simpa using (List.mem_filter.mp listed).2

section

variable {bus : Bus δ} {session : Session δ} {desk : Desk} {service : ServiceTarget}
variable {choice : HeaderChoice} {path : String} {place : Place} {image : Image} {start : UInt32}
variable {fresh identified : Engine (Session δ) → Prop}
variable {ready : List UInt32 → Engine (Session δ) → Prop}
variable (opens : Opens service.target.device bus session) (attached : fresh { link := session })
variable (chosen : Chosen image choice start)
variable (inRange : start.toNat + (FirmwareHeader.sectors - 1) ≤ 0xFFFFFFFF)
variable (starts : image.Starts start)
include opens attached chosen inRange starts

/-- Steps of a packing decide on how a dump to a file that can be created and written ends, and what
the container holds behind them is kept in the file. -/
theorem ends_dumpContainer {left : List UInt32}
    (mid : Except Failure Unit → ContainerWriter → Desk → Desk → Prop)
    (player : Scripted service.target.lun image (headerSectors choice start ++ left) fresh
      identified ready)
    (creatable : desk.folder.creatable path = .ok place) (writable : place ≠ .device .full)
    (packs : ∀ w u d, ContainerWriter.Holds service.target.device.vendorId
      service.target.device.productId [] w → ready left u →
        Packs (packEntries service.target.lun start (image.header start).entries)
          (fun r w' t' => mid r w' d t'.2) w (u, d)) :
    Ends (dumpContainer service choice path).run
      (fun outcome t => ∃ w d d' before after, mid outcome w d d' ∧ Desk.Shows before desk d ∧
        t.2.folder = d'.folder.keep place w.medium.content ∧
        t.2.printed.toList = d'.printed.toList ++ after) (bus, desk) := by
  refine (ends_withServiceMode (fun outcome d₁ => ∃ w d d' before, mid outcome w d d' ∧
    Desk.Shows before desk d ∧ d₁.folder = d'.folder.keep place w.medium.content ∧
    d₁.printed = d'.printed) player opens attached fun e begin => ?_).mono ?_
  · refine ends_bindHeader player chosen inRange starts begin desk ?_
    intro u d before next shown
    refine Ends.bindDesk ?_
    have created : (d.folder.creatable path).mapError
        (fun e => Failure.during (.createFile path) (.container (.file e))) = .ok place := by
      rw [shown.folder, creatable]
      rfl
    refine Ends.bindEnded created ?_
    obtain ⟨steady, empty⟩ := steady_medium writable
    refine Ends.bindExcept_log (Ends.after_iff.mp (ContainerWriter.holds_opened empty steady)) ?_
    rintro ⟨_, w⟩ ⟨rfl, held⟩
    refine Ends.bindExcept_step (packs w u d held next) ?_
    rintro ⟨outcome, w'⟩ ⟨v, d'⟩ packed
    refine Ends.bindOnDesk ?_
    cases outcome with
    | error f => exact Ends.bindEnded_error ⟨w', d, d', before, packed, shown, rfl, rfl⟩
    | ok _ =>
      exact Ends.bindEnded rfl (Ends.runLift ⟨w', d, d', before, packed, shown, rfl, rfl⟩)
  · rintro outcome t ⟨d₁, after, ⟨w, d, d', before, packed, shown, folder, printed⟩, last⟩
    refine ⟨w, d, d', before, after, packed, shown, ?_, ?_⟩
    · rw [last.folder, folder]
    · rw [last.printed, printed]

/-- A dump does not succeed unless its file can be created and written. -/
theorem ends_dumpContainer_unwritable {left : List UInt32}
    (player : Scripted service.target.lun image (headerSectors choice start ++ left) fresh
      identified ready)
    (unwritable : ∀ place, desk.folder.creatable path = .ok place → place = .device .full) :
    Ends (dumpContainer service choice path).run (fun outcome _ => outcome ≠ .ok ())
      (bus, desk) := by
  refine (ends_withServiceMode (fun outcome _ => outcome ≠ .ok ()) player opens attached
    fun e begin => ?_).mono fun _ _ ⟨_, _, failed, _⟩ => failed
  refine ends_bindHeader player chosen inRange starts begin desk ?_
  intro u d before next shown
  refine Ends.bindDesk ?_
  rw [shown.folder]
  cases created : desk.folder.creatable path with
  | error cause => exact Ends.bindEnded_error nofun
  | ok place =>
    obtain rfl := unwritable place created
    refine Ends.bindEnded rfl ?_
    refine Ends.bindExcept_log (Ends.after_iff.mp (ContainerWriter.ends_writeHeader_full _ _)) ?_
    rintro ⟨_, w⟩ ⟨cause, rfl⟩
    exact fun log => nofun

/-- The dump of a player that lasts for the header and for all entries. -/
theorem dumpEnds_dumpContainer
    (player : Scripted service.target.lun image
      (headerSectors choice start ++ sectorsOf start (image.header start).entries) fresh identified
      ready)
    (creatable : desk.folder.creatable path = .ok place) (writable : place ≠ .device .full) :
    Ends (dumpContainer service choice path).run
      (fun outcome t => DumpEnds service.target.device image start place desk outcome t.2)
      (bus, desk) := by
  let entries := (image.header start).entries
  have used : ∀ e ∈ entries, e.IsUsed := fun e => (image.header start).isUsed_of_mem_entries
  let packing (r : Except Failure Unit) (w : ContainerWriter) (d d' : Desk) : Prop :=
    (r = .ok () ↔ Packable start 0 size entries) ∧ (r = .ok () →
      ContainerWriter.Holds service.target.device.vendorId service.target.device.productId
        (entries.map (packed image start)) w ∧
      Desk.Shows (packedLines image start 0 entries) d d')
  refine (ends_dumpContainer opens attached chosen inRange starts packing player creatable writable
    fun w u d held next => packs_packEntries (t := (u, d)) player entries held next used).mono ?_
  rintro outcome t ⟨w, d, d', before, after, ⟨decides, contents⟩, shown, folder, printed⟩
  refine ⟨decides, ?_⟩
  intro ok
  obtain ⟨held, shown'⟩ := contents ok
  have kept : t.2.folder = desk.folder.keep place w.medium.content := by
    rw [folder, shown'.folder, shown.folder]
  refine ⟨w.medium.content, w.header, before, after, held.dumped (decides.mp ok).room, kept, ?_, ?_⟩
  · rintro name rfl
    rw [kept]
    exact Folder.content?_put _ _ _
  · rw [printed, shown'.printed, shown.printed]

end

/-- With a player that serves its firmware, on a bus where it can be opened, and a file that can
be created and written: a dump succeeds exactly if the used entries of the header fit the
directory of a container, can be reached and fit its size. Then the file is a dump of these
entries, and a line was printed for each, with a verdict on its checksum. -/
theorem dumpContainer_ends {bus : Bus δ} {session : Session δ} {desk : Desk}
    {service : ServiceTarget} {choice : HeaderChoice} {path : String} {place : Place}
    {image : Image} {start : UInt32} {fresh identified ready : δ → Prop}
    (player : Serving service.target.lun image fresh identified ready)
    (opens : Opens service.target.device bus session) (attached : Session.Holding fresh session)
    (chosen : Chosen image choice start)
    (inRange : start.toNat + (FirmwareHeader.sectors - 1) ≤ 0xFFFFFFFF)
    (starts : image.Starts start)
    (creatable : desk.folder.creatable path = .ok place) (writable : place ≠ .device .full) :
    Ends (dumpContainer service choice path).run
      (fun outcome t => DumpEnds service.target.device image start place desk outcome t.2)
      (bus, desk) :=
  dumpEnds_dumpContainer opens attached chosen inRange starts (player.scripted _).session creatable
    writable

/-- A memory with the mark of a header and one entry, the five octets of which lie in sector 16. -/
def onePart : Array UInt8 :=
  (Word.le32 FirmwareHeader.mark ++ List.replicate 508 0 ++ DirectoryEntry.layout.encode
    { filename := .ofList 11 [0x57], kind := 1, reserved₁ := .ofList 2 [], version := 0
      offset := 16, length := 5, reserved₂ := .ofList 4 [], checksum := 0 }).toArray

/-- The ids of the player that holds it. -/
def onePartTarget : Target := { device := ⟨0x10D6, 0x1101⟩, lun := 0 }

/-- A dump of a player that is alone on the bus. -/
theorem dumpContainer_ends_onePart :
    Ends (dumpContainer ⟨onePartTarget, false⟩ ⟨false, 0⟩ "fw.afi").run
      (fun outcome t => DumpEnds onePartTarget.device (.ofRun 0 onePart 0) 0 (.file "fw.afi") {}
        outcome t.2)
      ({ devices := [.plain onePartTarget.device
        (SimulatedPlayer.idle (RuleBook.firmware 0 onePart 0))] }, {}) := by
  obtain ⟨session, opens, attached⟩ := exists_opens onePartTarget.device (by decide)
    (SimulatedPlayer.idle (RuleBook.firmware 0 onePart 0))
  have starts : (Image.ofRun 0 onePart 0).Starts 0 := by
    rw [Image.Starts, Image.toList_ofRun]
    decide +kernel
  exact dumpContainer_ends (SimulatedPlayer.serving 0 0 onePart 0) opens attached rfl
    (by simp [FirmwareHeader.sectors]) starts rfl (by simp)

end PlayerLink
