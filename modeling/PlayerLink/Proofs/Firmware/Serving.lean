import PlayerLink.Proofs.Engine.Answering
import PlayerLink.Proofs.Firmware.Extent
import PlayerLink.Proofs.Firmware.Sectors

/-!
# Players that serve their firmware

`Serving` is a link that answers as a compatible player does: to IDENTIFY with the right name, then
to the command that switches it into service mode, and from then on to every read of a sector with
the octets of an image.

`Scripted` is a link that does so for a while: it answers the reads of a given list of sectors, in
this order, and whatever it does then is open. As long as the list lasts the header, the second copy
of it and the content of any entry are read as they stand in the image. If then a sector is refused,
the entry that it belongs to is not read.
-/

namespace PlayerLink

open StatusWrapper

variable {σ : Type} [BulkLink σ]

/-- A link that answers as a player does, from one predicate on its state to the next. What follows
the name in the answer to IDENTIFY is open. -/
structure Serving (lun : UInt8) (image : Image) (fresh identified ready : σ → Prop) : Prop where
  identify : ∀ l tag, fresh l → ∃ rest l', rest.length ≤ 2 ∧ identified l' ∧
    Answers (Command.identify.wrapper tag Identity.size) Identity.size
      (Identity.compatibleName.toList ++ rest) l l'
  initialise : ∀ l tag, identified l → ∃ l', ready l' ∧
    Answers (Command.initialise.wrapper tag 1) 1 [Engine.ready] l l'
  read : ∀ l tag sector, ready l → ∃ l', ready l' ∧
    Answers ((Command.readSector lun sector .logical).wrapper tag sectorSize) sectorSize
      (image sector).toList l l'

/-- A link that answers as a player does until it has answered the reads of a list of sectors.
`ready` is given what is left of the list. -/
structure Scripted (lun : UInt8) (image : Image) (script : List UInt32)
    (fresh identified : Engine σ → Prop) (ready : List UInt32 → Engine σ → Prop) : Prop where
  identify : ∀ e, fresh e → ∃ rest l, rest.length ≤ 2 ∧ identified ⟨l, e.tag + 1⟩ ∧
    Answers (Command.identify.wrapper (e.tag + 1) Identity.size) Identity.size
      (Identity.compatibleName.toList ++ rest) e.link l
  initialise : ∀ e, identified e → ∃ l, ready script ⟨l, e.tag + 1⟩ ∧
    Answers (Command.initialise.wrapper (e.tag + 1) 1) 1 [Engine.ready] e.link l
  read : ∀ e sector rest, ready (sector :: rest) e → ∃ l, ready rest ⟨l, e.tag + 1⟩ ∧
    Answers ((Command.readSector lun sector .logical).wrapper (e.tag + 1) sectorSize) sectorSize
      (image sector).toList e.link l

/-- A link that serves its firmware follows any script. -/
theorem Serving.scripted {lun : UInt8} {image : Image} {fresh identified ready : σ → Prop}
    (h : Serving lun image fresh identified ready) (script : List UInt32) :
    Scripted lun image script (fun e => fresh e.link) (fun e => identified e.link)
      (fun _ e => ready e.link) where
  identify e start := h.identify e.link (e.tag + 1) start
  initialise e start := h.initialise e.link (e.tag + 1) start
  read e sector _ start := h.read e.link (e.tag + 1) sector start

theorem Firmware.length_blankSector : blankSector.length = sectorSize := List.length_replicate

/-- Reading a sector does not succeed, whatever the buffer holds. -/
def Refuses (lun : UInt8) (sector : UInt32) (e : Engine σ) : Prop :=
  ∀ buffer : List UInt8, buffer.length = sectorSize →
    Ends (Engine.readFlash lun sector .logical buffer)
      (fun filled _ => ∃ cause, filled.result = .error cause) e

/-- A link that declines to read a sector refuses it. -/
theorem Refuses.of_declines {lun : UInt8} {sector : UInt32} {e : Engine σ} {l : σ}
    (declines : Declines ((Command.readSector lun sector .logical).wrapper (e.tag + 1) sectorSize)
      sectorSize e.link l) : Refuses lun sector e := by
  intro buffer room
  obtain ⟨taken, residue, status, l₁, sent, told⟩ := declines
  rw [← room] at sent told
  have some : buffer ≠ [] := by
    rintro rfl
    cases room
  have failed : Gives (Engine.moveData (e.tag + 1) (.receive buffer)) ⟨l₁, e.tag + 1⟩
      (.error (.unsolicitedStatus status),
        overlay (make (e.tag + 1) residue status).toOctets buffer) ⟨l, e.tag + 1⟩ := by
    rw [Engine.moveData, if_neg (by simpa using some)]
    exact Engine.gives_receiveData_of_status told (by rw [room]; decide)
  have given : Gives (Engine.run (.readSector lun sector .logical) (.receive buffer)) e
      ⟨.error (.unsolicitedStatus status), _⟩ ⟨l, e.tag + 1⟩ :=
    Engine.gives_execute_of_notMoved sent failed
  exact given.bindEnds (Ends.pure_iff.mpr ⟨_, rfl⟩)

/-- The sectors of an entry of the header at a sector. -/
def DirectoryEntry.sectorsAt (start : UInt32) (e : DirectoryEntry) : List UInt32 :=
  sectorsFrom (start.toNat + e.offset.toNat) e.sectorCount

/-- Whether a sector of an image starts like a firmware header. -/
def Image.Starts (image : Image) (sector : UInt32) : Prop :=
  (image sector).toList.take 4 = Word.le32 FirmwareHeader.mark

theorem Image.starts_iff {image : Image} {sector : UInt32} :
    image.Starts sector ↔ Word.ofLe32 (image sector).toList = FirmwareHeader.mark := by
  have long : 4 ≤ (image sector).toList.length := by
    rw [Vector.length_toList]
    decide
  rw [Image.Starts, ← Word.le32_ofLe32 long]
  constructor
  · intro same
    have read := congrArg (fun bs => Word.ofLe32 (bs ++ [])) same
    simpa only [Word.ofLe32_append] using read
  · intro same
    rw [same]

/-- Sectors of an image have no mark if no header starts at one of them. -/
theorem Image.unmarked_iff {image : Image} {first count : Nat} :
    (∀ octets ∈ image.sectors first count, Word.ofLe32 octets ≠ FirmwareHeader.mark) ↔
      ∀ s, first ≤ s → s < first + count → ¬ image.Starts (UInt32.ofNat s) := by
  constructor
  · intro unmarked s low high starts
    obtain ⟨i, rfl⟩ := Nat.exists_eq_add_of_le low
    exact unmarked _ (image.mem_sectors.mpr ⟨i, by omega, rfl⟩) (Image.starts_iff.mp starts)
  · intro clear octets among marked
    obtain ⟨i, below, rfl⟩ := image.mem_sectors.mp among
    exact clear (first + i) (by omega) (by omega) (Image.starts_iff.mpr marked)

/-- The header that starts at a sector of an image. -/
def Image.header (image : Image) (start : UInt32) : FirmwareHeader :=
  FirmwareHeader.layout.decode (image.octets start.toNat FirmwareHeader.size)

/-- An answer that starts with the right name is that of a compatible player. -/
theorem Identity.exists_compatible {bs : List UInt8} (long : size ≤ bs.length)
    (named : bs.take 11 = compatibleName.toList) :
    ∃ i, ofOctets? bs = some i ∧ i.IsCompatible := by
  have name : Field.ofList 11 bs = compatibleName := by
    apply Vector.toList_inj.mp
    rw [Field.toList_ofList, zeroPad_of_le (by rw [size] at long; omega), named]
  exact ⟨⟨.ofList 11 bs, bs.getD 11 0, bs.getD 12 0⟩, by rw [ofOctets?, if_pos long], name⟩

namespace Scripted

variable {lun : UInt8} {image : Image} {script rest : List UInt32}
variable {fresh identified : Engine σ → Prop} {ready : List UInt32 → Engine σ → Prop}
variable {e : Engine σ}

/-! ### Service mode -/

theorem ends_identify (h : Scripted lun image script fresh identified ready) (start : fresh e) :
    Ends Engine.identify (fun outcome e' => (∃ i, outcome = .ok i) ∧ identified e') e := by
  obtain ⟨rest, l, short, next, answers⟩ := h.identify e start
  have length : Identity.compatibleName.toList.length = 11 := rfl
  have plain : ¬ IsStatus (Identity.compatibleName.toList ++ rest) := by
    rintro ⟨-, looks⟩
    rw [List.take_append_of_le_length (by rw [length]; omega)] at looks
    revert looks
    decide
  have named : (overlay (Identity.compatibleName.toList ++ rest)
      (List.replicate Identity.size 0)).take 11 = Identity.compatibleName.toList := by
    have fits : (Identity.compatibleName.toList ++ rest).length ≤
        (List.replicate Identity.size (0 : UInt8)).length := by
      rw [List.length_append, List.length_replicate, length, Identity.size]
      omega
    rw [overlay, List.take_of_length_le fits, List.append_assoc, List.take_left' length]
  obtain ⟨i, read, compatible⟩ := Identity.exists_compatible (by simp) named
  refine (Engine.gives_run_of_answers (List.replicate Identity.size 0)
    (by simpa using answers) (by simp [Identity.size]) (fun _ => plain)).bindEnds ?_
  simp only [ne_eq, not_true_eq_false, if_false, read, if_pos compatible]
  exact Ends.bind_lift (Ends.pure_iff.mpr ⟨⟨i, rfl⟩, next⟩)

theorem ends_initialise (h : Scripted lun image script fresh identified ready)
    (start : identified e) :
    Ends Engine.initialise (fun outcome e' => outcome = .ok () ∧ ready script e') e := by
  obtain ⟨l, next, answers⟩ := h.initialise e start
  refine (Engine.gives_fill_of_answers [0] answers (by simp) (by simp)).bindEnds ?_
  exact Ends.pure_iff.mpr ⟨rfl, next⟩

/-! ### Sectors -/

section Sectors

variable (h : Scripted lun image script fresh identified ready)
include h

/-- A sector fills the buffer, so nothing is left of what it held. -/
theorem readsImage : ReadsImage (Engine.readFlash lun · .logical ·) image ready := by
  intro sector rest e begin buffer room
  obtain ⟨l, next, answers⟩ := h.read e sector rest begin
  exact (Engine.gives_fill_of_whole answers (by decide) room Vector.length_toList).ends ⟨rfl, next⟩

theorem ends_readSectors (count first : Nat) {buffer : List UInt8} (done : List (List UInt8))
    (begin : ready (sectorsFrom first count ++ rest) e) (room : buffer.length = sectorSize) :
    Ends (Firmware.readSectors lun count (UInt32.ofNat first) buffer done)
      (fun outcome e' => outcome = .ok ((image.sectors first count).reverse ++ done) ∧
        ready rest e') e := by
  have next (kept : List (List UInt8)) (short : kept.length < count) :=
    h.readsImage.readsNext first buffer rest short
  refine (Firmware.ends_readSectors count next done room ⟨rfl, begin⟩).mono ?_
  rintro _ e' ⟨kept, ⟨rfl, rfl, same, last⟩ | ⟨-, _, -, ⟨⟩⟩⟩
  rw [Nat.sub_self] at last
  exact ⟨by rw [← same], last⟩

theorem ends_readRun {first count : Nat} (begin : ready (sectorsFrom first count ++ rest) e) :
    Ends (Firmware.readRun lun (UInt32.ofNat first) count)
      (fun outcome e' => outcome = .ok (image.octets first (count * sectorSize)) ∧
        ready rest e') e := by
  refine Ends.bind (h.ends_readSectors count first [] begin Firmware.length_blankSector) ?_
  rintro _ u ⟨rfl, next⟩
  refine Ends.pure_iff.mpr ⟨?_, next⟩
  rw [List.append_nil, List.reverse_reverse, image.flatten_sectors]

/-- A sector that is refused ends the reading, however many were to follow it. -/
theorem ends_readSectors_refused {first i count : Nat} (within : i < count) {buffer : List UInt8}
    (done : List (List UInt8)) (begin : ready (sectorsFrom first i) e)
    (refuses : ∀ e, ready [] e → Refuses lun (UInt32.ofNat (first + i)) e)
    (room : buffer.length = sectorSize) :
    Ends (Firmware.readSectors lun count (UInt32.ofNat first) buffer done)
      (fun outcome _ => ∃ cause, outcome = .error cause) e := by
  -- The list has the sectors in front of the one that is refused, so there are no more than these.
  have next kept (_ : kept.length < count) :
      ReadsNext (Engine.readFlash lun · .logical ·) first buffer
        (fun kept e => kept.length ≤ i ∧ kept = image.sectors first kept.length ∧
          ready (sectorsFrom (first + kept.length) (i - kept.length) ++ []) e)
        (fun _ _ _ => True) kept := by
    rintro e room ⟨most, same, begin⟩
    obtain short | rfl := Nat.lt_or_eq_of_le most
    · refine (h.readsImage.readsNext first buffer [] short room ⟨same, begin⟩).mono ?_
      rintro ⟨_ | _, octets⟩ e' behind
      · trivial
      · refine ⟨behind.1, ?_, behind.2⟩
        rw [List.length_append]
        exact short
    · rw [Nat.sub_self] at begin
      refine (refuses e begin _ room).mono ?_
      rintro ⟨_, octets⟩ e' ⟨cause, rfl⟩
      trivial
  rw [← List.append_nil (sectorsFrom first i)] at begin
  refine (Firmware.ends_readSectors count next done room ⟨i.zero_le, rfl, begin⟩).mono ?_
  rintro _ e' ⟨kept, ⟨rfl, -, most, -⟩ | ⟨-, cause, failed, -⟩⟩
  · exact absurd within (Nat.not_lt.mpr most)
  · exact ⟨_, failed⟩

/-! ### Header and entries -/

theorem ends_readHeader {sector : UInt32}
    (begin : ready (sectorsFrom sector.toNat FirmwareHeader.sectors ++ rest) e)
    (reach : sector.toNat + (FirmwareHeader.sectors - 1) ≤ 0xFFFFFFFF)
    (starts : image.Starts sector) :
    Ends (Firmware.readHeader lun sector)
      (fun outcome e' => outcome = .ok (image.header sector) ∧ ready rest e') e := by
  have run := h.ends_readRun begin
  rw [UInt32.ofNat_toNat] at run
  have marked : (image.header sector).magic = FirmwareHeader.mark := by
    have first : FirmwareHeader.size = sectorSize + (FirmwareHeader.size - sectorSize) := rfl
    have magic : (image.header sector).magic =
        Word.ofLe32 (image.octets sector.toNat FirmwareHeader.size) := rfl
    have whole : Word.ofLe32 (image.octets sector.toNat FirmwareHeader.size) =
        Word.ofLe32 (image sector).toList := by
      rw [Word.ofLe32, Word.ofLe32, first, image.octets_add, UInt32.ofNat_toNat,
        List.take_append_of_le_length (by rw [Vector.length_toList]; decide)]
    rw [magic, whole, Image.starts_iff.mp starts]
  rw [Firmware.readHeader, if_neg (Nat.not_lt.mpr reach)]
  refine Ends.bind run ?_
  rintro _ u ⟨rfl, next⟩
  change Ends (if (image.header sector).magic ≠ FirmwareHeader.mark then _ else _) _ _
  rw [if_neg (not_not_intro marked)]
  exact Ends.bind_lift (Ends.pure_iff.mpr ⟨rfl, next⟩)

/-- The content of an entry ends within its last sector. -/
theorem ends_readEntry {sector : UInt32} {entry : DirectoryEntry}
    (begin : ready (entry.sectorsAt sector ++ rest) e)
    (reach : sector.toNat + entry.offset.toNat + (entry.sectorCount - 1) ≤ 0xFFFFFFFF) :
    Ends (Firmware.readEntry lun sector entry)
      (fun outcome e' => outcome =
          .ok (image.octets (sector.toNat + entry.offset.toNat) entry.length.toNat) ∧
        ready rest e') e := by
  rw [Firmware.readEntry, if_neg (Nat.not_lt.mpr reach)]
  refine Ends.bind (h.ends_readRun begin) ?_
  rintro _ u ⟨rfl, next⟩
  exact Ends.pure_iff.mpr ⟨by rw [image.take_octets entry.length_le], next⟩

/-- An entry with a sector that is refused is not read. -/
theorem ends_readEntry_failed {sector : UInt32} {entry : DirectoryEntry} {i : Nat}
    (within : i < entry.sectorCount)
    (begin : ready (sectorsFrom (sector.toNat + entry.offset.toNat) i) e)
    (refuses : ∀ e, ready [] e →
      Refuses lun (UInt32.ofNat (sector.toNat + entry.offset.toNat + i)) e) :
    Ends (Firmware.readEntry lun sector entry) (fun outcome _ => ∃ cause, outcome = .error cause)
      e := by
  rw [Firmware.readEntry]
  split
  · exact Ends.pure_iff.mpr ⟨_, rfl⟩
  · have sectors := h.ends_readSectors_refused within [] begin refuses Firmware.length_blankSector
    have run : Ends (Firmware.readRun lun (UInt32.ofNat (sector.toNat + entry.offset.toNat))
        entry.sectorCount) (fun outcome _ => ∃ cause, outcome = .error cause) e := by
      refine Ends.bind sectors ?_
      rintro _ u ⟨cause, rfl⟩
      exact Ends.pure_iff.mpr ⟨cause, rfl⟩
    refine Ends.bind run ?_
    rintro _ u ⟨cause, rfl⟩
    exact Ends.pure_iff.mpr ⟨cause, rfl⟩

/-! ### The second copy of the header -/

variable {π : Type} [Progress π] {p : π} {kept : π → Prop}

/-- The search goes from sector to sector until the first that starts like a header. -/
theorem ends_search {found : Nat} (starts : image.Starts (UInt32.ofNat found))
    (count first : Nat) (buffer : List UInt8)
    (none : ∀ s, first ≤ s → s < found → ¬ image.Starts (UInt32.ofNat s))
    (below : first ≤ found) (above : found < first + count)
    (begin : ready (sectorsFrom first (found - first + 1) ++ rest) e)
    (room : buffer.length = sectorSize)
    (keep : ∀ p, kept p → kept (Progress.advance 1 p)) (hp : kept p) :
    Ends (Firmware.search lun count (UInt32.ofNat first) buffer)
      (fun outcome t => outcome = .ok (some (UInt32.ofNat found)) ∧ ready rest t.1 ∧ kept t.2)
      (e, p) := by
  -- Sectors without the mark are in front of the one that is looked for.
  have before {passed : List (List UInt8)} (same : passed = image.sectors first passed.length)
      (clear : ∀ octets ∈ passed, Word.ofLe32 octets ≠ FirmwareHeader.mark) :
      passed.length ≤ found - first := by
    rw [same, Image.unmarked_iff] at clear
    by_contra past
    exact clear found below (by omega) starts
  have next passed (_ : passed.length < count)
      (clear : ∀ octets ∈ passed, Word.ofLe32 octets ≠ FirmwareHeader.mark) :
      ReadsNext (Engine.readFlash lun · .logical ·) first buffer
        (fun kept e => kept = image.sectors first kept.length ∧
          ready (sectorsFrom (first + kept.length) (found - first + 1 - kept.length) ++ rest) e)
        (fun _ _ _ => False) passed := by
    rintro e room ⟨same, begin⟩
    exact h.readsImage.readsNext first buffer rest (Nat.lt_succ_of_le (before same clear)) room
      ⟨same, begin⟩
  refine (Firmware.ends_search count next room ⟨rfl, begin⟩ p).mono ?_
  rintro _ ⟨e', p'⟩ ⟨passed, clear, heard, ended⟩
  cases ended with
  | found within marked holds =>
    obtain ⟨all, last⟩ := holds
    obtain ⟨same, rfl⟩ := image.concat_eq_sectors.mp all
    have there : first + passed.length = found := by
      have least := before same clear
      by_contra other
      exact none _ (Nat.le_add_right first _) (by omega) (Image.starts_iff.mpr marked)
    have none_left : found - first + 1 - (passed.length + 1) = 0 := by omega
    rw [List.length_append, List.length_singleton, none_left] at last
    rw [there, heard]
    exact ⟨rfl, last, Function.Iterate.rec kept hp keep passed.length⟩
  | failed within holds => exact holds.elim
  | nowhere all holds =>
    have least := before holds.1 clear
    omega

variable (kept) in
/-- The first sector of the range that starts like a header is found. -/
theorem ends_locateAlternate {limit found : UInt32} (starts : image.Starts found)
    (none : ∀ s, Firmware.searchStart ≤ s → s < found → ¬ image.Starts s)
    (below : Firmware.searchStart ≤ found) (above : found < limit)
    (begin : ready (sectorsFrom Firmware.searchStart.toNat
      (found.toNat - Firmware.searchStart.toNat + 1) ++ rest) e)
    (restart : ∀ n p, kept p → kept (Progress.start n p))
    (keep : ∀ p, kept p → kept (Progress.advance 1 p)) (hp : kept p) :
    Ends (Firmware.locateAlternate lun limit)
      (fun outcome t => outcome = .ok (some found) ∧ ready rest t.1 ∧
        ∃ q, kept q ∧ t.2 = Progress.finish q) (e, p) := by
  have lower : 8 ≤ found.toNat := UInt32.le_iff_toNat_le.mp below
  have upper : found.toNat < limit.toNat := UInt32.lt_iff_toNat_lt.mp above
  have eight : Firmware.searchStart.toNat = 8 := rfl
  refine Ends.bind (Ends.onSide _ e p) ?_
  rintro _ _ rfl
  have there : image.Starts (UInt32.ofNat found.toNat) := by
    rw [UInt32.ofNat_toNat]
    exact starts
  have search := h.ends_search there (limit.toNat - 8) 8 Firmware.blankSector
    (fun s hs hlt => ?_) lower (by omega) begin Firmware.length_blankSector keep
    (restart (limit.toNat - 8) p hp)
  · rw [UInt32.ofNat_toNat] at search
    refine Ends.bind search ?_
    rintro _ ⟨u, q⟩ ⟨rfl, next, hq⟩
    refine Ends.bind (Ends.onSide _ u q) ?_
    rintro _ _ rfl
    exact Ends.bind_lift (Ends.pure_iff.mpr ⟨rfl, next, q, hq, rfl⟩)
  · have word : (UInt32.ofNat s).toNat = s := by
      rw [UInt32.toNat_ofNat', Nat.mod_eq_of_lt (by have := found.toNat_lt; omega)]
    refine none (UInt32.ofNat s) ?_ ?_
    · rw [UInt32.le_iff_toNat_le, word]
      exact hs
    · rw [UInt32.lt_iff_toNat_lt, word]
      exact hlt

end Sectors

end Scripted

/-- An entry of which a sector cannot be named is refused before anything is read. -/
theorem Firmware.gives_readEntry_outOfRange (lun : UInt8) {sector : UInt32} {entry : DirectoryEntry}
    (past : 0xFFFFFFFF < sector.toNat + entry.offset.toNat + (entry.sectorCount - 1))
    (e : Engine σ) :
    Gives (Firmware.readEntry lun sector entry) e
      (.error (.entryOutOfRange entry.name entry.offset)) e := by
  rw [Firmware.readEntry, if_pos past]
  exact Gives.pure _ _

/-- A header that would run past the last sector is refused before anything is read. -/
theorem Firmware.gives_readHeader_outOfRange (lun : UInt8) {start : UInt32}
    (past : 0xFFFFFFFF < start.toNat + (FirmwareHeader.sectors - 1)) (e : Engine σ) :
    Gives (Firmware.readHeader lun start) e (.error (.headerOutOfRange start)) e := by
  rw [Firmware.readHeader, if_pos past]
  exact Gives.pure _ _

end PlayerLink
