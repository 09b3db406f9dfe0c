import PlayerLink.Proofs.Command.Decoding
import PlayerLink.Proofs.Engine.Verdict
import PlayerLink.Proofs.Firmware.Extent
import PlayerLink.Proofs.Firmware.Fetching
import PlayerLink.Proofs.Firmware.Rules
import PlayerLink.Proofs.Formats

/-!
# Firmware that is read out

A device is honest about an image if each read of a sector that succeeds gives the octets that the
image has there. Which reads fail, and how, is open. `Readout` is what comes of reading a run of
sectors from such a device: all of them, or the first that could not be read and why, with the
record of the calls.

The headers and the entries that are read are told by these octets alone. The packets that they came
in, the buffer that is used again for each sector and the tags leave nothing in them, and no sector
is asked for under a number that wrapped around.
-/

namespace PlayerLink

open StatusWrapper

/-! ### Commands in a record -/

/-- The commands that calls send, as the device reads them. -/
def LinkCall.requests (calls : List LinkCall) : List (Option Command) :=
  (sends calls).map fun octets => (CommandWrapper.ofOctets? octets).bind CommandWrapper.command?

@[simp] theorem LinkCall.requests_append (a b : List LinkCall) :
    requests (a ++ b) = requests a ++ requests b := by
  rw [requests, sends_append, List.map_append]
  rfl

theorem LinkCall.requests_of_sends {calls : List LinkCall} {c : Command} {tag : UInt32} {room : Nat}
    (sent : sends calls = [(c.wrapper tag room).toOctets]) : requests calls = [some c] := by
  rw [requests, sent, List.map_singleton, CommandWrapper.ofOctets?_toOctets, Option.bind_some,
    Command.wrapper, CommandWrapper.command?_wrap]

theorem Judged.sends_eq_nil {tag : UInt32} {result : Except ExchangeError UInt8}
    {last : List LinkCall} (h : Judged tag result last) : LinkCall.sends last = [] := by
  cases h <;> rfl

/-- An exchange that receives sends its wrapper only. -/
theorem Exchanged.sends_eq {w : CommandWrapper} {buffer : List UInt8} {outcome : Outcome}
    {calls : List LinkCall} (h : Exchanged w (.receive buffer) outcome calls) :
    LinkCall.sends calls = [w.toOctets] := by
  cases h with
  | unsent cause => rfl
  | broke taken broke => cases broke <;> rfl
  | judged taken moved judged =>
    cases moved with
    | receivedNothing => exact congrArg _ judged.sends_eq_nil
    | received packet => exact congrArg _ judged.sends_eq_nil

/-- The record of a command that failed: a course of it that comes to no success, whatever the
buffer held. -/
def Failed (w : CommandWrapper) (room : Nat) (cause : CommandError) (calls : List LinkCall) :
    Prop :=
  ∃ buffer outcome, buffer.length = room ∧ Exchanged w (.receive buffer) outcome calls ∧
    Engine.checkStatus outcome.result = .error cause

theorem Failed.requests {c : Command} {tag : UInt32} {room space : Nat} {cause : CommandError}
    {calls : List LinkCall} (failed : Failed (c.wrapper tag room) space cause calls) :
    LinkCall.requests calls = [some c] := by
  obtain ⟨buffer, outcome, -, exchanged, -⟩ := failed
  exact LinkCall.requests_of_sends exchanged.sends_eq

theorem Delivered.requests {c : Command} {tag : UInt32} {room space : Nat} {packet : List UInt8}
    {calls : List LinkCall} (delivered : Delivered (c.wrapper tag room) space packet calls) :
    LinkCall.requests calls = [some c] := by
  obtain ⟨taken, status, rfl, -, -⟩ := delivered
  exact LinkCall.requests_of_sends rfl

/-- What a device was heard to deliver it answered. -/
theorem Delivered.answers {σ : Type} [BulkLink σ] {w : CommandWrapper} {room : Nat}
    {packet : List UInt8} {calls : List LinkCall} {l l' : σ}
    (delivered : Delivered w room packet calls) (made : Makes l calls l') :
    Answers w room packet l l' := by
  obtain ⟨taken, status, rfl, -, accepted⟩ := delivered
  obtain ⟨residue, rfl⟩ := accepted.exists_residue
  cases made with
  | send sent rest =>
    cases rest with
    | receive received rest =>
      cases rest with
      | receive told rest =>
        cases rest
        exact ⟨taken, residue, _, _, Prod.ext sent rfl, Prod.ext received rfl, Prod.ext told rfl⟩

/-- A read into a buffer is delivered, and answered by the device, or it fails. -/
theorem Engine.ends_fill_settled {σ : Type} [BulkLink σ] (c : Command) {buffer : List UInt8}
    (some : buffer ≠ []) (e : Engine (Recorded σ)) :
    Ends (fill c buffer)
      (fun filled e' => e'.tag = e.tag + 1 ∧ ∃ calls, Recorded.Grew e.link calls e'.link ∧
        ((∃ packet, filled = ⟨.ok (), overlay packet buffer⟩ ∧
            Delivered (c.wrapper (e.tag + 1) buffer.length) buffer.length packet calls ∧
            Answers (c.wrapper (e.tag + 1) buffer.length) buffer.length packet e.link.link
              e'.link.link) ∨
          ∃ cause, filled.result = .error cause ∧
            Failed (c.wrapper (e.tag + 1) buffer.length) buffer.length cause calls)) e := by
  refine Ends.bind ((Recorded.transcript_passed.ends_execute c.block c.block_fits (.receive buffer)
    e).and (ends_execute_exchanged c.block c.block_fits (.receive buffer) e)) ?_
  rintro ⟨result, after⟩ e' ⟨⟨tag, calls, passed, -, completed⟩, -, calls', grown, exchanged⟩
  obtain rfl := passed.grown.unique grown
  refine Ends.pure_iff.mpr ⟨tag, calls, grown, ?_⟩
  cases judged : checkStatus result with
  | error cause => exact .inr ⟨cause, rfl, buffer, _, rfl, exchanged, judged⟩
  | ok _ =>
    obtain ⟨packet, rfl, delivered⟩ :=
      (completed 0 (Transcript.checkStatus_eq_ok judged)).delivered some
    exact .inl ⟨packet, rfl, delivered, delivered.answers passed.made⟩

/-! ### A run of sectors -/

/-- Whenever a device in such a state answers the read of a sector with data and success, the data
are the octets of an image, and it is in such a state again. A status in place of the data is no
answer, and what comes of the device if a read fails is open. -/
def Honest {σ : Type} [BulkLink σ] (lun : UInt8) (image : Image) (ready : σ → Prop) : Prop :=
  ∀ l l' tag sector packet, ready l →
    Answers ((firmwareSector lun sector).wrapper tag sectorSize) sectorSize packet l l' →
      (packet.length < sectorSize → ¬ IsStatus packet) →
        packet = (image sector).toList ∧ ready l'

/-- The reads of sectors of an image, with what came of them and their calls: all of them were
delivered, or a first one failed, behind which there is none. -/
inductive Readout (lun : UInt8) (image : Image) (tag : UInt32) (first count : Nat) :
    Nat → Except FirmwareError (List (List UInt8)) → List LinkCall → Prop
  | whole {calls : List LinkCall}
    (fetched : Fetched (firmwareSector lun) tag (.ofNat first) (image.sectors first count) calls) :
    Readout lun image tag first count count (.ok (image.sectors first count)) calls
  | failed {i : Nat} {cause : CommandError} {front last : List LinkCall} (within : i < count)
    (fetched : Fetched (firmwareSector lun) tag (.ofNat first) (image.sectors first i) front)
    (failed : Failed ((firmwareSector lun (.ofNat (first + i))).wrapper (tag + .ofNat (i + 1))
      sectorSize) sectorSize cause last) :
    Readout lun image tag first count (i + 1) (.error (.readFailed (.ofNat (first + i)) cause))
      (front ++ last)

section

variable {lun : UInt8} {image : Image} {tag : UInt32} {first count asked : Nat}
variable {read : Except FirmwareError (List (List UInt8))} {calls : List LinkCall}

theorem Fetched.requests (h : Fetched (firmwareSector lun) tag (.ofNat first)
    (image.sectors first count) calls) :
    LinkCall.requests calls =
      (sectorsFrom first count).map fun sector => some (firmwareSector lun sector) := by
  induction count generalizing tag first calls with
  | zero =>
    cases h
    rfl
  | succ count ih =>
    cases h with
    | cons here later =>
      rw [← ofNat_succ] at later
      rw [LinkCall.requests_append, here.requests, ih later]
      rfl

namespace Readout

/-- Nothing is sent but the reads of the sectors in order. -/
theorem requests (h : Readout lun image tag first count asked read calls) :
    LinkCall.requests calls =
      (sectorsFrom first asked).map fun sector => some (firmwareSector lun sector) := by
  cases h with
  | whole fetched => exact fetched.requests
  | failed within fetched failed =>
    rw [LinkCall.requests_append, fetched.requests, failed.requests, sectorsFrom_succ,
      List.map_append]
    rfl

/-- What was read as a whole are the sectors of the image. -/
theorem eq_sectors {sectors : List (List UInt8)}
    (h : Readout lun image tag first count asked (.ok sectors) calls) :
    sectors = image.sectors first count := by
  cases h
  rfl

end Readout

end

/-- Steps read sectors of an image out and make something of them, unless a sector cannot be read.
The device is sent the reads of these sectors, in order and no others. -/
def ReadsOut {σ α : Type} (lun : UInt8) (image : Image) (first count : Nat)
    (use : List (List UInt8) → Except FirmwareError α) (e : Engine (Recorded σ))
    (outcome : Except FirmwareError α) (e' : Engine (Recorded σ)) : Prop :=
  ∃ asked read calls, Recorded.Grew e.link calls e'.link ∧
    Readout lun image e.tag first count asked read calls ∧
    LinkCall.requests calls =
      (sectorsFrom first asked).map (fun sector => some (firmwareSector lun sector)) ∧
    outcome = read.bind use

namespace Honest

variable {σ : Type} [BulkLink σ] {lun : UInt8} {image : Image} {ready : σ → Prop}
variable {e : Engine (Recorded σ)}

/-- A sector of an honest device is read as the image has it, or not at all. -/
theorem readsNext (honest : Honest lun image ready) (e : Engine (Recorded σ)) (first : Nat)
    (buffer : List UInt8) (kept : List (List UInt8)) :
    ReadsNext (Engine.readFlash lun · .logical ·) first buffer
      (fun kept e' => kept = image.sectors first kept.length ∧ ready e'.link.link ∧
        e'.tag = e.tag + .ofNat kept.length ∧ ∃ calls, Recorded.Grew e.link calls e'.link ∧
          Fetched (firmwareSector lun) e.tag (.ofNat first) kept calls)
      (fun kept cause e' => kept = image.sectors first kept.length ∧
        ∃ front last, Recorded.Grew e.link (front ++ last) e'.link ∧
          Fetched (firmwareSector lun) e.tag (.ofNat first) kept front ∧
          Failed ((firmwareSector lun (.ofNat (first + kept.length))).wrapper
            (e.tag + .ofNat (kept.length + 1)) sectorSize) sectorSize cause last) kept := by
  rintro u room ⟨same, start, tag, front, grown, fetched⟩
  have some : kept.getLastD buffer ≠ [] := by
    intro none
    rw [none] at room
    cases room
  have next : u.tag + 1 = e.tag + .ofNat (kept.length + 1) := by
    rw [tag, ofNat_succ, UInt32.add_assoc]
  refine (Engine.ends_fill_settled (firmwareSector lun _) some u).mono ?_
  rw [room, next]
  rintro filled v ⟨tag', last, grown', ⟨packet, rfl, delivered, answers⟩ | ⟨cause, told, failed⟩⟩
  · have ⟨_, _, _, noStatus, _⟩ := delivered
    obtain ⟨rfl, start'⟩ := honest _ _ _ _ _ start answers noStatus
    rw [overlay_of_length_eq (Vector.length_toList.trans room.symm)]
    refine ⟨Vector.length_toList, image.concat_eq_sectors.mpr ⟨same, rfl⟩, start', ?_, _,
      Recorded.transcript.trans grown grown', fetched.concat ?_⟩
    · rw [tag', List.length_append, List.length_singleton]
    · rwa [← UInt32.ofNat_add]
  · obtain ⟨result, after⟩ := filled
    obtain rfl := told
    exact ⟨same, front, last, Recorded.transcript.trans grown grown', fetched, failed⟩

theorem ends_readSectors (honest : Honest lun image ready) (count first : Nat) {buffer : List UInt8}
    (done : List (List UInt8)) (room : buffer.length = sectorSize) (start : ready e.link.link) :
    Ends (Firmware.readSectors lun count (.ofNat first) buffer done)
      (fun outcome e' => ∃ asked read calls, Recorded.Grew e.link calls e'.link ∧
        Readout lun image e.tag first count asked read calls ∧
        outcome = read.map (·.reverse ++ done)) e := by
  have none : e.tag = e.tag + .ofNat 0 := (UInt32.add_zero e.tag).symm
  refine (Firmware.ends_readSectors count (fun kept _ => honest.readsNext e first buffer kept) done
    room ⟨rfl, start, none, [], Recorded.transcript.refl e.link, .nil⟩).mono ?_
  rintro _ e' ⟨kept, ⟨rfl, rfl, same, -, -, calls, grown, fetched⟩ |
    ⟨within, cause, rfl, same, front, last, grown, fetched, failed⟩⟩
  · rw [same] at fetched
    exact ⟨_, _, calls, grown, .whole fetched, by rw [← same]; rfl⟩
  · rw [same] at fetched
    exact ⟨_, _, _, grown, .failed within fetched failed, rfl⟩

theorem ends_readRun (honest : Honest lun image ready) (first count : Nat)
    (start : ready e.link.link) :
    Ends (Firmware.readRun lun (.ofNat first) count)
      (ReadsOut lun image first count (fun sectors => .ok sectors.flatten) e) e := by
  refine Ends.bind (honest.ends_readSectors count first [] List.length_replicate start) ?_
  rintro _ e' ⟨asked, read, calls, grown, readout, rfl⟩
  cases read with
  | error cause =>
    exact Ends.pure_iff.mpr ⟨asked, _, calls, grown, readout, readout.requests, rfl⟩
  | ok sectors =>
    refine Ends.pure_iff.mpr ⟨asked, _, calls, grown, readout, readout.requests, ?_⟩
    show Except.ok (sectors.reverse ++ []).reverse.flatten = .ok sectors.flatten
    rw [List.append_nil, List.reverse_reverse]

end Honest

/-- A player that cannot read one of its sectors is honest about the others. -/
theorem SimulatedPlayer.honest_damaged (lun : UInt8) (bad : UInt32) (base : Nat)
    (octets : Array UInt8) (fill : UInt8) :
    Honest lun (.ofRun base octets fill) (· = idle (RuleBook.damaged bad base octets fill)) := by
  rintro _ l tag sector packet rfl answers noStatus
  by_cases other : bad = sector
  · subst other
    have looks := answers.isStatus (declines_damaged lun bad tag base octets fill)
    have short : packet.length < sectorSize := by
      rw [looks.1]
      decide
    exact absurd looks (noStatus short)
  · exact answers.unique (answers_damaged lun tag base octets fill other)

/-- A memory with nothing but the mark of a header. -/
def onlyMark : Array UInt8 := (Word.le32 FirmwareHeader.mark).toArray

/-- A player with this memory that cannot read sector 18. -/
def wornPlayer : Recorded (SimulatedPlayer RuleBook) where
  link := .idle (.damaged 18 0 onlyMark 0)

/-! ### Entries -/

namespace DirectoryEntry

/-- The first sector of an entry of the header at a sector, as far as there is one. -/
def firstAt (start : UInt32) (e : DirectoryEntry) : Nat := start.toNat + e.offset.toNat

/-- The first sector of an entry has no number, or its last one, if it takes any. -/
def RunsPast (start : UInt32) (e : DirectoryEntry) : Prop :=
  0xFFFFFFFF < e.firstAt start ∨
    0 < e.length.toNat ⌈/⌉ sectorSize ∧
      0xFFFFFFFF < e.firstAt start + e.length.toNat ⌈/⌉ sectorSize - 1

instance (start : UInt32) (e : DirectoryEntry) : Decidable (e.RunsPast start) :=
  inferInstanceAs (Decidable (_ ∨ _ ∧ _))

theorem runsPast_iff {start : UInt32} {e : DirectoryEntry} :
    e.RunsPast start ↔ 0xFFFFFFFF < start.toNat + e.offset.toNat + (e.sectorCount - 1) := by
  rw [RunsPast, firstAt, ← sectorCount_eq]
  omega

end DirectoryEntry

section

variable {σ : Type} [BulkLink σ] {lun : UInt8} {start : UInt32} {entry : DirectoryEntry}

/-- For an entry without octets nothing is read. -/
theorem Firmware.gives_readEntry_empty (lun : UInt8) (within : ¬ entry.RunsPast start)
    (empty : entry.length = 0) (e : Engine σ) :
    Gives (readEntry lun start entry) e (.ok []) e := by
  have none : entry.sectorCount = 0 := by
    rw [DirectoryEntry.sectorCount, empty]
    rfl
  have nothing : Gives (readRun lun (.ofNat (entry.firstAt start)) 0) e (.ok []) e := Gives.pure _ _
  rw [readEntry, if_neg (mt DirectoryEntry.runsPast_iff.mpr within), none, empty]
  exact nothing.bind (Gives.pure _ _)

variable {image : Image} {ready : σ → Prop} {e : Engine (Recorded σ)}

/-- What is left of the last sector of an entry is cut off. -/
theorem Honest.ends_readEntry (honest : Honest lun image ready) (within : ¬ entry.RunsPast start)
    (begin : ready e.link.link) :
    Ends (Firmware.readEntry lun start entry)
      (ReadsOut lun image (entry.firstAt start) entry.sectorCount
        (fun _ => .ok (image.octets (entry.firstAt start) entry.length.toNat)) e) e := by
  rw [Firmware.readEntry, if_neg (mt DirectoryEntry.runsPast_iff.mpr within)]
  refine Ends.bind (honest.ends_readRun (entry.firstAt start) entry.sectorCount begin) ?_
  rintro _ e' ⟨asked, read, calls, grown, readout, requests, rfl⟩
  cases read with
  | error cause => exact Ends.pure_iff.mpr ⟨asked, _, calls, grown, readout, requests, rfl⟩
  | ok sectors =>
    refine Ends.pure_iff.mpr ⟨asked, _, calls, grown, readout, requests, ?_⟩
    rw [readout.eq_sectors, image.flatten_sectors, image.take_octets entry.length_le]
    rfl

/-- An entry that runs past the last sector is refused, and nothing is sent for it. Any other has
sectors with numbers that do not wrap around. If it is empty, nothing is sent for it either, and
from an honest device its sectors are read out, and come to just the octets of the image that the
entry says it has. -/
theorem Firmware.readEntry_reads_out (lun : UInt8) (start : UInt32) (entry : DirectoryEntry)
    (e : Engine (Recorded σ)) :
    (entry.RunsPast start → Gives (readEntry lun start entry) e
      (.error (.entryOutOfRange entry.name entry.offset)) e) ∧
    (¬ entry.RunsPast start →
      (∀ i < entry.length.toNat ⌈/⌉ sectorSize,
        (UInt32.ofNat (entry.firstAt start + i)).toNat = entry.firstAt start + i) ∧
      (entry.length = 0 → Gives (readEntry lun start entry) e (.ok []) e) ∧
      ∀ image ready, Honest lun image ready → ready e.link.link →
        Ends (readEntry lun start entry)
          (ReadsOut lun image (entry.firstAt start) (entry.length.toNat ⌈/⌉ sectorSize)
            (fun _ => .ok (image.octets (entry.firstAt start) entry.length.toNat)) e) e) := by
  rw [← DirectoryEntry.sectorCount_eq]
  constructor
  · intro past
    exact gives_readEntry_outOfRange lun (DirectoryEntry.runsPast_iff.mp past) e
  · intro within
    refine ⟨?_, fun empty => gives_readEntry_empty lun within empty e,
      fun image ready honest begin => honest.ends_readEntry within begin⟩
    intro i below
    have bound := mt DirectoryEntry.runsPast_iff.mpr within
    apply UInt32.toNat_ofNat_of_lt'
    rw [UInt32.size, DirectoryEntry.firstAt]
    omega

/-- An entry of 600 octets in the sectors 17 and 18 and one in a sector without a number, both of
the header at sector 0. -/
def wornParts : DirectoryEntry × DirectoryEntry :=
  let part := DirectoryEntry.layout.decode [0x57]
  ({ part with offset := 17, length := 600 }, { part with offset := 0xFFFFFFFF, length := 513 })

theorem Firmware.readEntry_reads_out_worn :
    (¬ wornParts.1.RunsPast 0 ∧ Ends (readEntry 0 0 wornParts.1)
      (ReadsOut 0 (.ofRun 0 onlyMark 0) 17 2
        (fun _ => .ok (Image.octets (.ofRun 0 onlyMark 0) 17 600)) { link := wornPlayer })
      { link := wornPlayer }) ∧
    wornParts.2.RunsPast 0 ∧ Gives (readEntry 0 0 wornParts.2) { link := wornPlayer }
      (.error (.entryOutOfRange wornParts.2.name 0xFFFFFFFF)) { link := wornPlayer } := by
  have near : ¬ wornParts.1.RunsPast 0 := by decide
  have far : wornParts.2.RunsPast 0 := by decide
  have honest := SimulatedPlayer.honest_damaged 0 18 0 onlyMark 0
  refine ⟨⟨near, ?_⟩, far, (readEntry_reads_out 0 0 wornParts.2 { link := wornPlayer }).1 far⟩
  exact ((readEntry_reads_out 0 0 wornParts.1 { link := wornPlayer }).2 near).2.2 _ _ honest rfl

end

/-! ### Headers -/

namespace FirmwareHeader

/-- A run of the length of a header is told apart by the mark of the header that it holds. -/
theorem ofOctets_of_length {bs : List UInt8} (length : bs.length = size) :
    ofOctets bs = if (layout.decode bs).magic ≠ mark
      then .error (.badMagic (layout.decode bs).magic) else .ok (layout.decode bs) := by
  have four : 4 ≤ bs.length := by
    rw [length]
    decide
  have magic : leadingWord bs = (layout.decode bs).magic := if_pos four
  rw [ofOctets, magic, ite_not]
  simp only [length.ge, and_true]

theorem toOctets_of_ofOctets {bs : List UInt8} {h : FirmwareHeader} (length : bs.length = size)
    (given : ofOctets bs = .ok h) : h.toOctets = bs := by
  rw [format.writesBack bs h given, List.take_of_length_le length.le]

/-- Sixteen sectors are as long as a header. -/
theorem length_flatten_sectors (image : Image) (first : Nat) :
    (image.sectors first sectors).flatten.length = size := by
  rw [image.flatten_sectors, image.length_octets]
  rfl

end FirmwareHeader

/-- A header that was read out has the octets of its sectors. -/
theorem ReadsOut.toOctets_eq {σ : Type} {lun : UInt8} {image : Image} {first : Nat}
    {header : FirmwareHeader} {e e' : Engine (Recorded σ)}
    (h : ReadsOut lun image first FirmwareHeader.sectors
      (fun sectors => FirmwareHeader.ofOctets sectors.flatten) e (.ok header) e') :
    header.toOctets = (image.sectors first FirmwareHeader.sectors).flatten := by
  obtain ⟨asked, read, calls, -, readout, -, made⟩ := h
  cases read with
  | error cause => cases made
  | ok sectors =>
    obtain rfl := readout.eq_sectors
    exact FirmwareHeader.toOctets_of_ofOctets (FirmwareHeader.length_flatten_sectors image first)
      made.symm

section

variable {σ : Type} [BulkLink σ] {lun : UInt8} {start : UInt32}
variable {image : Image} {ready : σ → Prop} {e : Engine (Recorded σ)}

/-- It does not matter that the header is made of the sectors before it is looked at. -/
theorem Honest.ends_readHeader (honest : Honest lun image ready)
    (within : start.toNat + (FirmwareHeader.sectors - 1) ≤ 0xFFFFFFFF) (begin : ready e.link.link) :
    Ends (Firmware.readHeader lun start)
      (ReadsOut lun image start.toNat FirmwareHeader.sectors
        (fun sectors => FirmwareHeader.ofOctets sectors.flatten) e) e := by
  have run := honest.ends_readRun start.toNat FirmwareHeader.sectors begin
  rw [UInt32.ofNat_toNat] at run
  rw [Firmware.readHeader, if_neg (Nat.not_lt.mpr within)]
  refine Ends.bind run ?_
  rintro _ e' ⟨asked, read, calls, grown, readout, requests, rfl⟩
  cases read with
  | error cause => exact Ends.pure_iff.mpr ⟨asked, _, calls, grown, readout, requests, rfl⟩
  | ok sectors =>
    obtain rfl := readout.eq_sectors
    have told := FirmwareHeader.ofOctets_of_length
      (FirmwareHeader.length_flatten_sectors image start.toNat)
    by_cases foreign : (FirmwareHeader.layout.decode
        (image.sectors start.toNat FirmwareHeader.sectors).flatten).magic ≠ FirmwareHeader.mark
    · rw [if_pos foreign] at told
      simp only [Except.bind, if_pos foreign]
      exact Ends.pure_iff.mpr ⟨asked, _, calls, grown, readout, requests, told.symm⟩
    · rw [if_neg foreign] at told
      simp only [Except.bind, if_neg foreign]
      exact Ends.bind_lift
        (Ends.pure_iff.mpr ⟨asked, _, calls, grown, readout, requests, told.symm⟩)

/-- A header that runs past the last sector is refused, and nothing is sent for it. Any other has
sectors with numbers that do not wrap around. From an honest device they are read out, and come to
what their octets hold: a header that has just these octets, or none, told with the word that they
start with. -/
theorem Firmware.readHeader_reads_out (lun : UInt8) (start : UInt32) (e : Engine (Recorded σ)) :
    (0xFFFFFFFF < start.toNat + 15 →
      Gives (readHeader lun start) e (.error (.headerOutOfRange start)) e) ∧
    (start.toNat + 15 ≤ 0xFFFFFFFF →
      (∀ i < 16, (UInt32.ofNat (start.toNat + i)).toNat = start.toNat + i) ∧
      ∀ image ready, Honest lun image ready → ready e.link.link →
        Ends (readHeader lun start)
          (fun outcome e' =>
            ReadsOut lun image start.toNat 16
              (fun sectors => FirmwareHeader.ofOctets sectors.flatten) e outcome e' ∧
            ∀ header, outcome = .ok header →
              header.toOctets = (image.sectors start.toNat 16).flatten) e) := by
  constructor
  · intro past
    exact gives_readHeader_outOfRange lun past e
  · intro within
    constructor
    · intro i below
      apply UInt32.toNat_ofNat_of_lt'
      rw [UInt32.size]
      omega
    · intro image ready honest begin
      refine (honest.ends_readHeader within begin).mono ?_
      intro outcome e' readsOut
      refine ⟨readsOut, ?_⟩
      rintro header rfl
      exact readsOut.toOctets_eq

theorem Firmware.readHeader_reads_out_worn :
    Ends (readHeader 0 0)
      (fun outcome e' =>
        ReadsOut 0 (.ofRun 0 onlyMark 0) 0 16
          (fun sectors => FirmwareHeader.ofOctets sectors.flatten) { link := wornPlayer }
          outcome e' ∧
        ∀ header, outcome = .ok header →
          header.toOctets = (Image.sectors (.ofRun 0 onlyMark 0) 0 16).flatten)
      { link := wornPlayer } ∧
    Gives (readHeader 0 0xFFFFFFF1) { link := wornPlayer } (.error (.headerOutOfRange 0xFFFFFFF1))
      { link := wornPlayer } := by
  have honest := SimulatedPlayer.honest_damaged 0 18 0 onlyMark 0
  constructor
  · exact ((readHeader_reads_out 0 0 { link := wornPlayer }).2 (by decide)).2 _ _ honest rfl
  · exact (readHeader_reads_out 0 0xFFFFFFF1 { link := wornPlayer }).1 (by decide)

end

end PlayerLink
