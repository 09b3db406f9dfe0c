import PlayerLink.Program.Dump
import PlayerLink.Proofs.Files.Folder
import PlayerLink.Proofs.Firmware.Serving
import PlayerLink.Proofs.Program.Session

/-!
# Dumps

A dump is refused, or it creates a file and leaves in it what the copying came to. The sectors that
were read stand in the file one behind the other, whatever reads them and wherever it stops. If they
can all be read, only a device that is full can put an end to the copying.
-/

namespace PlayerLink

open RunM

variable {σ : Type} {desk desk' : Desk} {path : String}

/-- A file was created at a path, and the content was left in it. -/
def Desk.Leaves (path : String) (content : List UInt8) (d d' : Desk) : Prop :=
  ∃ place, d.folder.creatable path = .ok place ∧ d'.folder = d.folder.keep place content ∧
    ∀ name, place = .file name → d'.folder.content? name = some content

theorem Desk.leaves_of_keep {content : List UInt8} {place : Place}
    (creatable : desk.folder.creatable path = .ok place)
    (kept : desk'.folder = desk.folder.keep place content) :
    Desk.Leaves path content desk desk' := by
  refine ⟨place, creatable, kept, ?_⟩
  rintro name rfl
  rw [kept]
  exact Folder.content?_put _ _ _

/-! ### Copying -/

variable {read : SectorReader σ} {inv : List (List UInt8) → σ → Prop}
variable {stop : List (List UInt8) → CommandError → σ → Prop} {s : σ}

/-- How copying a run of sectors to a place ends, given the sectors that stand in the file then:
with all of them, at one that could not be read, or at one that the place would not take. -/
inductive CopyEnd (first count : Nat) (place : Place) (inv : List (List UInt8) → σ → Prop)
    (stop : List (List UInt8) → CommandError → σ → Prop) (kept : List (List UInt8)) :
    Except Failure Unit → σ → Prop
  | whole {s : σ} (all : kept.length = count) (holds : inv kept s) :
    CopyEnd first count place inv stop kept (.ok ()) s
  | failed {cause : CommandError} {s : σ} (within : kept.length < count)
    (holds : stop kept cause s) :
    CopyEnd first count place inv stop kept
      (.error (.during (.readSector (.ofNat (first + kept.length))) (.command cause))) s
  | unwritten {cause : FileError} {s : σ} (full : place = .device .full) :
    CopyEnd first count place inv stop kept (.error (.file cause)) s

theorem CopyEnd.cons {first count : Nat} {place : Place} {octets : List UInt8}
    {kept : List (List UInt8)} {outcome : Except Failure Unit}
    (h : CopyEnd (first + 1) count place (fun kept => inv (octets :: kept))
      (fun kept => stop (octets :: kept)) kept outcome s) :
    CopyEnd first (count + 1) place inv stop (octets :: kept) outcome s := by
  cases h with
  | whole all holds => exact .whole (congrArg (· + 1) all) holds
  | failed within holds =>
    rw [Nat.succ_add_eq_add_succ]
    exact .failed (Nat.succ_lt_succ within) holds
  | unwritten full => exact .unwritten full

/-- The sectors that are read are written one behind the other, and the bar is moved on for each. -/
theorem ends_copySectors {first : Nat} {buffer : List UInt8} (count : Nat)
    (next : ∀ kept : List (List UInt8), kept.length < count →
      ReadsNext read first buffer inv stop kept)
    (file : OutputFile) (room : buffer.length = sectorSize) (begin : inv [] s) (desk : Desk) :
    Ends (copySectors read count (.ofNat first) buffer file)
      (fun r t => ∃ kept : List (List UInt8), r.2.place = file.place ∧
        r.2.written = file.written ++ kept.flatten ∧
        t.2 = (Progress.advance sectorSize)^[kept.length] desk ∧
        CopyEnd first count file.place inv stop kept r.1 t.1) (s, desk) := by
  induction count generalizing first buffer inv stop file s desk with
  | zero =>
    exact Ends.pure_iff.mpr ⟨[], rfl, (List.append_nil _).symm, rfl, .whole rfl begin⟩
  | succ count ih =>
    have step := (next [] count.succ_pos).ends_read room begin
    refine Ends.bind (step.onDevice desk) ?_
    rintro ⟨result, octets⟩ ⟨u, _⟩ ⟨behind, rfl⟩
    cases result with
    | error cause =>
      exact Ends.pure_iff.mpr
        ⟨[], rfl, (List.append_nil _).symm, rfl, .failed count.succ_pos behind⟩
    | ok _ =>
      cases wrote : file.write octets with
      | error cause =>
        have full : file.place = .device .full := by
          by_contra writable
          obtain ⟨file', ok⟩ := OutputFile.exists_write writable octets
          rw [wrote] at ok
          cases ok
        exact Ends.pure_iff.mpr ⟨[], rfl, (List.append_nil _).symm, rfl, .unwritten full⟩
      | ok file' =>
        obtain ⟨written, place⟩ := OutputFile.written_of_write wrote
        refine Ends.bind (Ends.onSide (Progress.advance sectorSize) u _) ?_
        rintro _ _ rfl
        have later kept (short : kept.length < count) :=
          (next (octets :: kept) (Nat.succ_lt_succ short)).tail
        rw [← ofNat_succ]
        refine (ih later file' behind.1 behind.2 _).mono ?_
        rintro r t ⟨kept, place', written', shown, ended⟩
        rw [place] at place' ended
        refine ⟨octets :: kept, place', ?_, shown, ended.cons⟩
        rw [written', written, List.append_assoc, List.flatten_cons]

/-- Moving the bar on changes no file. -/
theorem Desk.folder_advance (amount n : Nat) (d : Desk) :
    ((Progress.advance amount)^[n] d).folder = d.folder := by
  induction n generalizing d with
  | zero => rfl
  | succ n ih => exact ih (Progress.advance amount d)

variable {image : Image} {ready : List UInt32 → σ → Prop} {rest : List UInt32}

/-- Sectors of an image are copied as they stand in it. -/
theorem ReadsImage.ends_copySectors (reads : ReadsImage read image ready) (count first : Nat)
    {buffer : List UInt8} (file : OutputFile) (begin : ready (sectorsFrom first count ++ rest) s)
    (room : buffer.length = sectorSize) (desk : Desk) :
    Ends (copySectors read count (UInt32.ofNat first) buffer file)
      (fun r t => t.2.folder = desk.folder ∧ (file.place ≠ .device .full → r.1 = .ok ()) ∧
        (r.1 = .ok () → ready rest t.1 ∧ r.2.place = file.place ∧
          r.2.written = file.written ++ image.octets first (count * sectorSize))) (s, desk) := by
  have next (kept : List (List UInt8)) (short : kept.length < count) :=
    reads.readsNext first buffer rest short
  refine (PlayerLink.ends_copySectors count next file room ⟨rfl, begin⟩ desk).mono ?_
  rintro ⟨outcome, file'⟩ ⟨u, d⟩ ⟨kept, place, written, rfl, ended⟩
  refine ⟨Desk.folder_advance sectorSize kept.length desk, ?_⟩
  cases ended with
  | whole all holds =>
    obtain ⟨same, last⟩ := holds
    rw [all, Nat.sub_self] at last
    refine ⟨fun _ => rfl, fun _ => ⟨last, place, ?_⟩⟩
    rw [written, same, all, image.flatten_sectors]
  | failed within holds => exact holds.elim
  | unwritten full => exact ⟨absurd full, nofun⟩

/-! ### Dumping -/

theorem SectorRange.make_of_lt {first count : UInt32}
    (inRange : first.toNat + (count.toNat - 1) < UInt32.size) :
    make first count = .ok ⟨first, count, inRange⟩ := by
  rw [make, dif_pos inRange]

theorem SectorRange.make_of_le {first count : UInt32}
    (past : UInt32.size ≤ first.toNat + (count.toNat - 1)) :
    make first count = .error ⟨first, count⟩ := by
  rw [make, dif_neg (Nat.not_lt.mpr past)]

theorem ok_of_flushAfter {outcome : Except Failure Unit} {file file' : OutputFile}
    (flushed : flushAfter outcome file = (.ok (), file')) :
    outcome = .ok () ∧ file'.written = file.written ∧ file'.place = file.place := by
  cases outcome with
  | error cause => cases flushed
  | ok _ =>
    rw [flushAfter] at flushed
    split at flushed
    · cases flushed
    · rename_i handed
      cases flushed
      exact ⟨rfl, OutputFile.written_of_flush handed⟩

/-- Only a device that is full makes a difference behind the copying. -/
theorem exists_flushAfter {file : OutputFile} (writable : file.place ≠ .device .full)
    (outcome : Except Failure Unit) :
    ∃ file', flushAfter outcome file = (outcome, file') ∧ file'.written = file.written ∧
      file'.place = file.place := by
  cases outcome with
  | error cause => exact ⟨file, rfl, rfl, rfl⟩
  | ok _ =>
    obtain ⟨file', flushed⟩ := OutputFile.exists_flush writable
    refine ⟨file', ?_, OutputFile.written_of_flush flushed⟩
    rw [flushAfter, flushed]

/-- The desk on which a dump copies sectors. -/
def Desk.dumping (count : UInt32) (d : Desk) : Desk :=
  Progress.start (count.toNat * sectorSize) (d.addBar { unit := .octets })

/-- A dump of sectors that can be named, to a file that can be created, ends as the copying and the
flushing behind it did, leaves in the file what was copied, and ends its progress bar if all went
well. -/
theorem ends_dumpSectors_shown {first count : UInt32} {place : Place}
    (mid : Except Failure Unit × OutputFile → σ × Desk → Prop)
    (inRange : first.toNat + (count.toNat - 1) < UInt32.size)
    (creatable : desk.folder.creatable path = .ok place)
    (copied : Ends (copySectors read count.toNat first Firmware.blankSector { place }) mid
      (s, desk.dumping count)) :
    Ends (dumpSectors path first count read).run
      (fun outcome t => ∃ r d file, mid r (t.1, d) ∧ flushAfter r.1 r.2 = (outcome, file) ∧
        t.2 = (if outcome.isOk then Progress.finish else id)
          { d with folder := file.close d.folder }) (s, desk) := by
  rw [dumpSectors]
  refine Ends.bindEnded (congrArg _ (SectorRange.make_of_lt inRange)) (Ends.bindDesk ?_)
  rw [creatable]
  refine Ends.bindEnded rfl (Ends.bindOnDesk (Ends.bindOnDesk ?_))
  refine Ends.bindExcept_step copied ?_
  rintro ⟨outcome, file⟩ ⟨u, d⟩ copied
  rcases flushed : flushAfter outcome file with ⟨outcome', file'⟩
  simp only [flushed]
  refine Ends.bindOnDesk ?_
  cases outcome' with
  | error cause => exact Ends.bindEnded_error ⟨_, d, file', copied, flushed, rfl⟩
  | ok _ =>
    refine Ends.bindEnded rfl (Ends.bindOnDesk (Ends.runLift ?_))
    exact ⟨_, d, file', copied, flushed, rfl⟩

theorem ends_dumpSectors_of_creatable {first count : UInt32} {place : Place}
    (mid : Except Failure Unit × OutputFile → σ × Desk → Prop)
    (inRange : first.toNat + (count.toNat - 1) < UInt32.size)
    (creatable : desk.folder.creatable path = .ok place)
    (copied : ∀ d : Desk, d.folder = desk.folder →
      Ends (copySectors read count.toNat first Firmware.blankSector { place }) mid (s, d)) :
    Ends (dumpSectors path first count read).run
      (fun outcome t => ∃ r d file, mid r (t.1, d) ∧ flushAfter r.1 r.2 = (outcome, file) ∧
        t.2.folder = file.close d.folder) (s, desk) := by
  refine (ends_dumpSectors_shown mid inRange creatable (copied _ rfl)).mono ?_
  rintro outcome t ⟨r, d, file, copied, flushed, shown⟩
  refine ⟨r, d, file, copied, flushed, ?_⟩
  rw [shown]
  cases outcome <;> rfl

/-- A dump that is refused does not end well. -/
theorem ends_dumpSectors_refused {first count : UInt32}
    (refused : UInt32.size ≤ first.toNat + (count.toNat - 1) ∨
      ∀ place, desk.folder.creatable path ≠ .ok place) :
    Ends (dumpSectors path first count read).run (fun outcome _ => outcome ≠ .ok ()) (s, desk) := by
  rw [dumpSectors]
  cases made : SectorRange.make first count with
  | error cause => exact Ends.bindEnded_error nofun
  | ok range =>
    refine Ends.bindEnded rfl (Ends.bindDesk ?_)
    cases creatable : desk.folder.creatable path with
    | error cause => exact Ends.bindEnded_error nofun
    | ok place =>
      rcases refused with past | missing
      · rw [SectorRange.make_of_le past] at made
        cases made
      · exact absurd creatable (missing place)

/-- A dump that succeeds leaves in the file what was copied: `octets` holds of this and of the
device behind the copying. -/
theorem ends_dumpSectors_of_copied {first count : UInt32} (octets : List UInt8 → σ → Prop)
    (copied : ∀ place d,
      Ends (copySectors read count.toNat first Firmware.blankSector { place })
        (fun r t => t.2.folder = d.folder ∧
          (r.1 = .ok () → octets r.2.written t.1 ∧ r.2.place = place)) (s, d)) :
    Ends (dumpSectors path first count read).run
      (fun outcome t => outcome = .ok () → ∃ place content,
        desk.folder.creatable path = .ok place ∧ t.2.folder = desk.folder.keep place content ∧
          octets content t.1) (s, desk) := by
  by_cases allowed : first.toNat + (count.toNat - 1) < UInt32.size ∧
      ∃ place, desk.folder.creatable path = .ok place
  · obtain ⟨inRange, place, creatable⟩ := allowed
    refine (ends_dumpSectors_of_creatable (fun r t => t.2.folder = desk.folder ∧
      (r.1 = .ok () → octets r.2.written t.1 ∧ r.2.place = place)) inRange creatable
      fun d same => same ▸ copied place d).mono ?_
    rintro _ t ⟨⟨outcome, file⟩, d, file', ⟨folder, rest⟩, flushed, kept⟩ rfl
    obtain ⟨ok, written, same⟩ := ok_of_flushAfter flushed
    obtain ⟨content, place'⟩ := rest ok
    refine ⟨place, file.written, creatable, ?_, content⟩
    rw [kept, folder, OutputFile.close, same, place', written]
  · refine (ends_dumpSectors_refused ?_).mono fun outcome t failed ok => absurd ok failed
    rw [not_and_or, Nat.not_lt, not_exists] at allowed
    exact allowed

namespace ReadsImage

variable {first count : UInt32}

/-- A dump of sectors that can be read leaves them in the file if it succeeds. -/
theorem ends_dumpSectors (reads : ReadsImage read image ready) (rest : List UInt32)
    (begin : ready (sectorsFrom first.toNat count.toNat ++ rest) s) (desk : Desk) :
    Ends (dumpSectors path first count read).run
      (fun outcome t => outcome = .ok () → ready rest t.1 ∧
        Desk.Leaves path (image.octets first.toNat (count.toNat * sectorSize)) desk t.2)
      (s, desk) := by
  refine (ends_dumpSectors_of_copied (fun content t => ready rest t ∧
    content = image.octets first.toNat (count.toNat * sectorSize)) fun place d => ?_).mono ?_
  · have copied := reads.ends_copySectors count.toNat first.toNat { place } begin
      Firmware.length_blankSector d
    rw [UInt32.ofNat_toNat] at copied
    refine copied.mono ?_
    rintro r t ⟨folder, -, done⟩
    refine ⟨folder, ?_⟩
    intro ok
    obtain ⟨last, place, written⟩ := done ok
    exact ⟨⟨last, written⟩, place⟩
  · intro outcome t finished ok
    obtain ⟨place, _, creatable, folder, last, rfl⟩ := finished ok
    exact ⟨last, Desk.leaves_of_keep creatable folder⟩

/-- It succeeds if they can be named and the file can be created and is not on a full device. -/
theorem ok_dumpSectors (reads : ReadsImage read image ready) (rest : List UInt32)
    (begin : ready (sectorsFrom first.toNat count.toNat ++ rest) s) {place : Place}
    (inRange : first.toNat + (count.toNat - 1) < UInt32.size)
    (creatable : desk.folder.creatable path = .ok place) (writable : place ≠ .device .full) :
    Ends (dumpSectors path first count read).run (fun outcome _ => outcome = .ok ()) (s, desk) := by
  have copied (d : Desk) := reads.ends_copySectors count.toNat first.toNat { place } begin
    Firmware.length_blankSector d
  rw [UInt32.ofNat_toNat] at copied
  refine (ends_dumpSectors_of_creatable _ inRange creatable
    fun d _ => (copied d).mono fun r t ended => ended.2).mono ?_
  rintro outcome t ⟨⟨_, file⟩, d, file', ⟨well, done⟩, flushed, -⟩
  obtain rfl := well writable
  obtain ⟨-, same, -⟩ := done rfl
  have writable' : file.place ≠ .device .full := same.symm ▸ writable
  obtain ⟨last, handed, -⟩ := exists_flushAfter writable' (.ok ())
  rw [handed] at flushed
  cases flushed
  rfl

end ReadsImage

end PlayerLink
