import PlayerLink.Proofs.Program.Delivery

/-!
# What a dump keeps

A dump reads one sector after the other and stops at the first that fails, wherever that is. What
was read up to then stays in the file, and nothing else does: not what the failing call left in the
buffer, and nothing of it is lost that still waited to be written when the run ended.

A reader may be given a record of its calls. It reads no other way for it, so what the record shows
is what any dump does.
-/

namespace PlayerLink

open RunM

/-! ### Readers with a record -/

/-- A call of a reader, with what it came to. -/
structure ReadCall where
  sector : UInt32
  filled : Filled

namespace ReadCall

/-- A call that did not fail. -/
def Succeeded (c : ReadCall) : Prop := c.filled.result = .ok ()

/-- What is kept of a call: its buffer, unless it failed. -/
def kept? (c : ReadCall) : Option (List UInt8) :=
  match c.filled.result with
  | .ok () => some c.filled.buffer
  | .error _ => none

theorem kept?_of_succeeded {c : ReadCall} (ok : c.Succeeded) : c.kept? = some c.filled.buffer := by
  rw [kept?, ok]

/-- What is kept of calls, one behind the other. -/
def kept (calls : List ReadCall) : List (List UInt8) := calls.filterMap kept?

theorem kept_append (a b : List ReadCall) : kept (a ++ b) = kept a ++ kept b :=
  List.filterMap_append

end ReadCall

variable {σ τ α β : Type}

/-- A reader that notes its calls down. -/
def SectorReader.noting (read : SectorReader σ) : SectorReader (σ × List ReadCall) :=
  fun sector buffer (s, calls) => do
    let (filled, s) ← read sector buffer s
    pure (filled, (s, calls ++ [⟨sector, filled⟩]))

/-- Steps do the same on a part of a larger state, whatever stands beside it. -/
def Alike (part : τ → σ) (larger : StateT τ LogM α) (step : StateT σ LogM α) : Prop :=
  ∀ t log, step (part t) log = (((larger t log).1.1, part (larger t log).1.2), (larger t log).2)

namespace Alike

variable {part : τ → σ} {larger : StateT τ LogM α} {step : StateT σ LogM α}

theorem pure (a : α) : Alike part (pure a) (pure a) := fun _ _ => rfl

theorem bind {next' : α → StateT τ LogM β} {next : α → StateT σ LogM β}
    (first : Alike part larger step) (rest : ∀ a, Alike part (next' a) (next a)) :
    Alike part (larger >>= next') (step >>= next) := by
  intro t log
  show next (step (part t) log).1.1 (step (part t) log).1.2 (step (part t) log).2 = _
  rw [first t log]
  exact rest _ _ _

theorem bindExcept {ε : Type} {larger : ExceptT ε (StateT τ LogM) α}
    {step : ExceptT ε (StateT σ LogM) α} {next' : α → ExceptT ε (StateT τ LogM) β}
    {next : α → ExceptT ε (StateT σ LogM) β} (first : Alike part larger.run step.run)
    (rest : ∀ a, Alike part (next' a).run (next a).run) :
    Alike part (larger >>= next').run (step >>= next).run := by
  show Alike part (larger.run >>= ExceptT.bindCont next') (step.run >>= ExceptT.bindCont next)
  apply first.bind
  intro outcome
  cases outcome with
  | ok a => exact rest a
  | error e => exact pure (Except.error e)

theorem lift {ε : Type} (h : Alike part larger step) :
    Alike part (ExceptT.lift larger : ExceptT ε (StateT τ LogM) α).run
      (ExceptT.lift step : ExceptT ε (StateT σ LogM) α).run := by
  show Alike part (larger >>= fun a => Pure.pure (Except.ok a))
    (step >>= fun a => Pure.pure (Except.ok a))
  exact h.bind fun a => pure (Except.ok a)

end Alike

section

variable (read : SectorReader σ)

/-- The device without the record, and the desk. -/
def bareRun (t : (σ × List ReadCall) × Desk) : σ × Desk := (t.1.1, t.2)

theorem alike_copySectors (count : Nat) (sector : UInt32) (buffer : List UInt8)
    (file : OutputFile) :
    Alike bareRun (copySectors read.noting count sector buffer file)
      (copySectors read count sector buffer file) := by
  induction count generalizing sector buffer file with
  | zero => exact .pure _
  | succ count ih =>
    have called : Alike bareRun (BesideM.onDevice (read.noting sector buffer))
        (BesideM.onDevice (read sector buffer)) := fun _ _ => rfl
    apply called.bind
    intro filled
    cases filled.result with
    | error cause => exact .pure _
    | ok _ =>
      cases file.write filled.buffer with
      | error cause => exact .pure _
      | ok file' =>
        have shown : Alike (bareRun (σ := σ)) (BesideM.onSide (Progress.advance sectorSize))
            (BesideM.onSide (Progress.advance sectorSize)) := fun _ _ => rfl
        exact shown.bind fun _ => ih (sector + 1) filled.buffer file'

/-- A dump does the same whether the calls of its reader are noted down or not. -/
theorem alike_dumpSectors (path : String) (first count : UInt32) :
    Alike bareRun (dumpSectors path first count read.noting).run
      (dumpSectors path first count read).run := by
  have ended {α : Type} (outcome : Except Failure α) :
      Alike bareRun (ended (σ := σ × List ReadCall) outcome).run (ended outcome).run := .pure _
  have onDesk (change : Desk → Desk) :
      Alike bareRun (onDesk (σ := σ × List ReadCall) change).run (onDesk change).run :=
    fun _ _ => rfl
  have asked : Alike bareRun (desk (σ := σ × List ReadCall)).run desk.run := fun _ _ => rfl
  refine (ended _).bindExcept fun range => asked.bindExcept fun d => (ended _).bindExcept ?_
  intro place
  refine (onDesk _).bindExcept fun _ => (onDesk _).bindExcept fun _ => ?_
  refine (alike_copySectors read _ _ _ _).lift.bindExcept ?_
  intro r
  refine (onDesk _).bindExcept fun _ => (ended _).bindExcept fun _ => ?_
  exact (onDesk _).bindExcept fun _ => fun _ _ => rfl

end

/-! ### The course of a dump -/

/-- The calls of a dump of sectors, and how it ends: each was read, or one of them failed and none
was asked for behind it. -/
inductive ReadRun : Nat → Nat → Except Failure Unit → List ReadCall → Prop
  | done {first : Nat} : ReadRun first 0 (.ok ()) []
  | kept {first count : Nat} {outcome : Except Failure Unit} {filled : Filled}
    {calls : List ReadCall} (ok : ReadCall.Succeeded ⟨.ofNat first, filled⟩)
    (whole : filled.buffer.length = sectorSize)
    (later : ReadRun (first + 1) count outcome calls) :
    ReadRun first (count + 1) outcome (⟨.ofNat first, filled⟩ :: calls)
  | failed {first count : Nat} {filled : Filled} {cause : CommandError}
    (failed : filled.result = .error cause) :
    ReadRun first (count + 1) (.error (.during (.readSector (.ofNat first)) (.command cause)))
      [⟨.ofNat first, filled⟩]

namespace ReadRun

variable {first count : Nat} {outcome : Except Failure Unit} {calls : List ReadCall}

/-- A run of sectors that were all read, and one from the sector behind them on. -/
theorem append {later : Nat} {more : List ReadCall} (front : ReadRun first count (.ok ()) calls)
    (back : ReadRun (first + count) later outcome more) :
    ReadRun first (count + later) outcome (calls ++ more) := by
  generalize read : Except.ok () = all at front
  induction front with
  | done => rwa [Nat.zero_add]
  | kept ok whole _ ih =>
    rw [Nat.add_right_comm]
    exact .kept ok whole (ih (by rwa [Nat.succ_add_eq_add_succ]) read)
  | failed failed => cases read

/-- The sectors are asked for in order. -/
theorem sectors_eq (h : ReadRun first count outcome calls) :
    calls.map ReadCall.sector = sectorsFrom first calls.length := by
  induction h with
  | done => rfl
  | kept ok whole later ih => exact congrArg _ ih
  | failed failed => rfl

theorem length_le (h : ReadRun first count outcome calls) : calls.length ≤ count := by
  induction h with
  | done => exact Nat.le_refl 0
  | kept ok whole later ih => exact Nat.succ_le_succ ih
  | failed failed => exact Nat.le_add_left 1 _

/-- Only the last call may have failed. -/
theorem succeeded_of_mem_dropLast (h : ReadRun first count outcome calls) :
    ∀ call ∈ calls.dropLast, call.Succeeded := by
  induction h with
  | done => exact nofun
  | @kept first count outcome filled calls ok whole later ih =>
    cases calls with
    | nil => exact nofun
    | cons next rest =>
      intro call among
      obtain rfl | behind := List.mem_cons.mp among
      · exact ok
      · exact ih call behind
  | failed failed => exact nofun

theorem length_of_mem_kept (h : ReadRun first count outcome calls) :
    ∀ buffer ∈ ReadCall.kept calls, buffer.length = sectorSize := by
  intro buffer among
  obtain ⟨call, there, kept⟩ := List.mem_filterMap.mp among
  induction h with
  | done => cases there
  | kept ok whole later ih =>
    obtain rfl | behind := List.mem_cons.mp there
    · rw [ReadCall.kept?_of_succeeded ok, Option.some.injEq] at kept
      rw [← kept]
      exact whole
    · exact ih (List.mem_filterMap.mpr ⟨call, behind, kept⟩) behind
  | failed failed =>
    obtain rfl := List.mem_singleton.mp there
    rw [ReadCall.kept?, failed] at kept
    cases kept

/-- A dump succeeds if and only if no call failed. -/
theorem ok_iff (h : ReadRun first count outcome calls) :
    outcome = .ok () ↔ ∀ call ∈ calls, call.Succeeded := by
  induction h with
  | done => exact iff_of_true rfl nofun
  | kept ok whole later ih => rw [ih, List.forall_mem_cons, and_iff_right ok]
  | failed failed =>
    refine iff_of_false nofun ?_
    intro all
    have ok := all _ List.mem_cons_self
    rw [ReadCall.Succeeded, failed] at ok
    cases ok

/-- A dump that succeeds has asked for all sectors. -/
theorem length_eq (h : ReadRun first count outcome calls) (ok : outcome = .ok ()) :
    calls.length = count := by
  induction h with
  | done => rfl
  | kept _ whole later ih => exact congrArg (· + 1) (ih ok)
  | failed failed => cases ok

/-- A dump that fails tells the sector of the last call, and why it failed. -/
theorem exists_getLast? {f : Failure} (h : ReadRun first count outcome calls)
    (failure : outcome = .error f) :
    ∃ call cause, calls.getLast? = some call ∧ call.filled.result = .error cause ∧
      f = .during (.readSector call.sector) (.command cause) := by
  induction h with
  | done => cases failure
  | kept ok whole later ih =>
    obtain ⟨call, cause, last, failed, told⟩ := ih failure
    refine ⟨call, cause, ?_, failed, told⟩
    rw [List.getLast?_cons, last]
    rfl
  | @failed first count filled cause failed =>
    cases failure
    exact ⟨_, cause, rfl, failed, rfl⟩

end ReadRun

/-! ### The desk -/

theorem Desk.lastBar_addBar (change : ProgressBar → ProgressBar) (bar : ProgressBar) (d : Desk) :
    (d.addBar bar).lastBar change = d.addBar (change bar) := by
  have bars : (d.bars.push bar).modify ((d.bars.push bar).size - 1) change =
      d.bars.push (change bar) := by
    apply Array.ext'
    simp [List.modify_eq_take_cons_drop]
  rw [Desk.lastBar, Desk.addBar, bars, Desk.addBar]

/-- A desk with a bar for octets in front of which nothing is finished. -/
def Desk.withBar (total added : Nat) (d : Desk) : Desk :=
  d.addBar { unit := .octets, total, added }

theorem Desk.dumping_eq (count : UInt32) (d : Desk) :
    d.dumping count = d.withBar (count.toNat * sectorSize) 0 :=
  Desk.lastBar_addBar _ _ d

/-- The bar is moved on as often as it is told. -/
theorem Desk.advance_withBar (amount total added n : Nat) (d : Desk) :
    (Progress.advance amount)^[n] (d.withBar total added) =
      d.withBar total (added + n * amount) := by
  induction n generalizing added with
  | zero => rw [Nat.zero_mul]; rfl
  | succ n ih =>
    have once : Progress.advance amount (d.withBar total added) =
        d.withBar total (added + amount) := Desk.lastBar_addBar _ _ d
    rw [Function.iterate_succ_apply, once, ih, Nat.succ_mul, Nat.add_right_comm, Nat.add_assoc]

/-! ### Dumping -/

/-- A reader fills a buffer of a sector whenever it does not fail. -/
def Fills (read : SectorReader σ) : Prop :=
  ∀ (sector : UInt32) (buffer : List UInt8) (s : σ), buffer.length = sectorSize →
    Ends (read sector buffer)
      (fun filled _ => filled.result = .ok () → filled.buffer.length = sectorSize) s

section

variable {read : SectorReader σ} {s : σ} {notes : List ReadCall}

theorem Fills.ends_noting (fills : Fills read) (sector : UInt32) {buffer : List UInt8}
    (room : buffer.length = sectorSize) (s : σ) (notes : List ReadCall) :
    Ends (read.noting sector buffer)
      (fun filled t => t.2 = notes ++ [⟨sector, filled⟩] ∧
        (filled.result = .ok () → filled.buffer.length = sectorSize)) (s, notes) :=
  fun log => ⟨rfl, fills sector buffer s room log⟩

/-- The note of a call stands behind those of the calls before it. -/
theorem Fills.readsNext (fills : Fills read) (first : Nat) (buffer : List UInt8)
    (notes : List ReadCall) {count : Nat} {kept : List (List UInt8)}
    (within : kept.length < count) :
    ReadsNext read.noting first buffer
      (fun kept t => ∃ calls, t.2 = notes ++ calls ∧ ReadCall.kept calls = kept ∧
        ReadRun first kept.length (.ok ()) calls)
      (fun kept cause t => ∃ calls, t.2 = notes ++ calls ∧ ReadCall.kept calls = kept ∧
        ReadRun first count
          (.error (.during (.readSector (.ofNat (first + kept.length))) (.command cause))) calls)
      kept := by
  rintro ⟨s, _⟩ room ⟨calls, rfl, same, run⟩
  refine (fills.ends_noting _ room s _).mono ?_
  rintro ⟨result, octets⟩ ⟨s', _⟩ ⟨rfl, whole⟩
  rw [List.append_assoc]
  cases result with
  | error cause =>
    obtain ⟨later, rfl⟩ := Nat.exists_eq_add_of_lt within
    refine ⟨_, rfl, ?_, run.append (.failed rfl)⟩
    rw [ReadCall.kept_append, same]
    exact List.append_nil kept
  | ok _ =>
    refine ⟨whole rfl, _, rfl, ?_, ?_⟩
    · rw [ReadCall.kept_append, same]
      rfl
    · rw [List.length_append]
      exact run.append (.kept rfl (whole rfl) .done)

/-- What is copied is what was read, and the bar has as much. -/
theorem Fills.ends_copySectors (fills : Fills read) (count first : Nat) {buffer : List UInt8}
    {file : OutputFile} (room : buffer.length = sectorSize)
    (writable : file.place ≠ .device .full) (s : σ) (notes : List ReadCall) (desk : Desk)
    (total added : Nat) :
    Ends (copySectors read.noting count (.ofNat first) buffer file)
      (fun r t => ∃ calls, t.1.2 = notes ++ calls ∧ ReadRun first count r.1 calls ∧
        t.2 = desk.withBar total (added + (ReadCall.kept calls).length * sectorSize) ∧
        r.2.place = file.place ∧ r.2.written = file.written ++ (ReadCall.kept calls).flatten)
      ((s, notes), desk.withBar total added) := by
  have next (kept : List (List UInt8)) (within : kept.length < count) :=
    fills.readsNext first buffer notes within
  have none : notes = notes ++ [] := (List.append_nil notes).symm
  refine (PlayerLink.ends_copySectors count next file room ⟨[], none, rfl, .done⟩ _).mono ?_
  rintro ⟨_, file'⟩ ⟨⟨s', _⟩, _⟩ ⟨kept, place, written, rfl, ended⟩
  rw [Desk.advance_withBar]
  cases ended with
  | whole all holds =>
    obtain ⟨calls, rfl, rfl, run⟩ := holds
    exact ⟨calls, rfl, all ▸ run, rfl, place, written⟩
  | failed within holds =>
    obtain ⟨calls, rfl, rfl, run⟩ := holds
    exact ⟨calls, rfl, run, rfl, place, written⟩
  | unwritten full => exact absurd full writable

end

/-- What a dump of sectors to a path comes to, given the calls of its reader. -/
structure DumpKept (path : String) (first count : Nat) (desk : Desk) (outcome : Except Failure Unit)
    (calls : List ReadCall) (desk' : Desk) : Prop where
  /-- The sectors are asked for in order, as far as it goes. -/
  sectors : calls.map ReadCall.sector = sectorsFrom first calls.length
  length_le : calls.length ≤ count
  /-- Behind a call that failed there is no other. -/
  front : ∀ call ∈ calls.dropLast, call.Succeeded
  ok_iff : outcome = .ok () ↔ ∀ call ∈ calls, call.Succeeded
  all : outcome = .ok () → calls.length = count
  /-- The failure tells the sector of the call that failed. -/
  failure : ∀ f, outcome = .error f → ∃ call cause, calls.getLast? = some call ∧
    call.filled.result = .error cause ∧ f = .during (.readSector call.sector) (.command cause)
  whole : ∀ buffer ∈ ReadCall.kept calls, buffer.length = sectorSize
  file : Desk.Leaves path (ReadCall.kept calls).flatten desk desk'
  bars : desk'.bars = desk.bars.push
    { unit := .octets, total := count * sectorSize
      added := (ReadCall.kept calls).length * sectorSize, finished := outcome.isOk }

theorem ReadRun.dumpKept {path : String} {first count : Nat} {desk desk' : Desk}
    {outcome : Except Failure Unit} {calls : List ReadCall}
    (run : ReadRun first count outcome calls)
    (file : Desk.Leaves path (ReadCall.kept calls).flatten desk desk')
    (bars : desk'.bars = desk.bars.push
      { unit := .octets, total := count * sectorSize
        added := (ReadCall.kept calls).length * sectorSize, finished := outcome.isOk }) :
    DumpKept path first count desk outcome calls desk' where
  sectors := run.sectors_eq
  length_le := run.length_le
  front := run.succeeded_of_mem_dropLast
  ok_iff := run.ok_iff
  all := run.length_eq
  failure _ := run.exists_getLast?
  whole := run.length_of_mem_kept
  file := file
  bars := bars

/-- The bar that is left behind is finished if and only if all went well. -/
theorem Desk.bars_finished (total added : Nat) (outcome : Except Failure Unit) (folder : Folder)
    (d : Desk) :
    ((if outcome.isOk then Progress.finish else id)
      { d.withBar total added with folder } : Desk).bars =
      d.bars.push { unit := .octets, total, added, finished := outcome.isOk } := by
  cases outcome with
  | error cause => rfl
  | ok _ =>
    show (Desk.lastBar (fun b => { b with finished := true })
      (Desk.addBar { unit := .octets, total, added } { d with folder })).bars = _
    rw [Desk.lastBar_addBar]
    rfl

theorem Desk.folder_finished (outcome : Except Failure Unit) (d : Desk) :
    ((if outcome.isOk then Progress.finish else id) d : Desk).folder = d.folder := by
  cases outcome <;> rfl

section

variable {read : SectorReader σ} {path : String} {first count : UInt32} {s : σ}
variable {notes : List ReadCall} {desk : Desk}

theorem Fills.ends_dumpSectors (fills : Fills read) {place : Place}
    (inRange : first.toNat + (count.toNat - 1) < UInt32.size)
    (creatable : desk.folder.creatable path = .ok place) (writable : place ≠ .device .full) :
    Ends (dumpSectors path first count read.noting).run
      (fun outcome t => ∃ calls, t.1.2 = notes ++ calls ∧
        DumpKept path first.toNat count.toNat desk outcome calls t.2) ((s, notes), desk) := by
  have copied : Ends (copySectors read.noting count.toNat (.ofNat first.toNat)
      Firmware.blankSector { place }) _ _ :=
    fills.ends_copySectors count.toNat first.toNat Firmware.length_blankSector writable s notes desk
      (count.toNat * sectorSize) 0
  rw [UInt32.ofNat_toNat, ← Desk.dumping_eq] at copied
  refine (ends_dumpSectors_shown _ inRange creatable copied).mono ?_
  rintro outcome t ⟨r, d, file, ⟨calls, noted, run, rfl, place', written⟩, flushed, shown⟩
  have writable' : r.2.place ≠ .device .full := place' ▸ writable
  obtain ⟨file', handed, written', place''⟩ := exists_flushAfter writable' r.1
  rw [handed] at flushed
  obtain ⟨rfl, rfl⟩ := Prod.mk.inj flushed
  refine ⟨calls, noted, run.dumpKept (Desk.leaves_of_keep creatable ?_) ?_⟩
  · rw [shown, Desk.folder_finished, OutputFile.close, place'', place', written', written]
    rfl
  · rw [shown, Nat.zero_add]
    exact Desk.bars_finished _ _ _ _ _

/-- With a reader that fills its buffer or fails: a dump of sectors that would run past the last one
reads nothing and leaves everything as it is. Any other reads the sectors in order up to the first
that fails, and if its file can be created and is not on a full device, what was read stands in it
then. -/
theorem dumpSectors_keeps_what_was_read (fills : Fills read) (path : String) (first count : UInt32)
    (s : σ) (notes : List ReadCall) (desk : Desk) :
    Alike bareRun (dumpSectors path first count read.noting).run
      (dumpSectors path first count read).run ∧
    (UInt32.size < first.toNat + count.toNat →
      Gives (dumpSectors path first count read.noting).run ((s, notes), desk)
        (.error (.range ⟨first, count⟩)) ((s, notes), desk)) ∧
    (first.toNat + count.toNat ≤ UInt32.size →
      (∀ i < count.toNat, (UInt32.ofNat (first.toNat + i)).toNat = first.toNat + i) ∧
      ∀ place, desk.folder.creatable path = .ok place → place ≠ .device .full →
        Ends (dumpSectors path first count read.noting).run
          (fun outcome t => ∃ calls, t.1.2 = notes ++ calls ∧
            DumpKept path first.toNat count.toNat desk outcome calls t.2) ((s, notes), desk)) := by
  refine ⟨alike_dumpSectors read path first count, ?_, ?_⟩
  · intro past
    have outside : UInt32.size ≤ first.toNat + (count.toNat - 1) := by
      have := first.toNat_lt_size
      omega
    exact Ends.bindEnded_of_error (congrArg _ (SectorRange.make_of_le outside)) ⟨rfl, rfl⟩
  · intro within
    have inRange : first.toNat + (count.toNat - 1) < UInt32.size := by
      have := first.toNat_lt_size
      omega
    constructor
    · intro i below
      apply UInt32.toNat_ofNat_of_lt'
      omega
    · intro place creatable writable
      exact fills.ends_dumpSectors inRange creatable writable

end

/-! ### The readers of the program -/

theorem Noted.exists_new {note : Except UsbError α → LinkCall} (told : Except UsbError α) :
    ∃ new, Noted note told new := by
  cases told with
  | ok a => exact ⟨_, .made (.ok a) fun _ same => same⟩
  | error e => exact ⟨_, .missing e⟩

/-- A link has a transcript even if nothing is known of its record. -/
theorem Transcript.unknown [BulkLink σ] : Transcript fun (_ : σ) _ _ => True where
  refl _ := True.intro
  trans _ _ := True.intro
  send _ _ := (Noted.exists_new _).imp fun _ noted => ⟨True.intro, noted⟩
  receive _ _ := (Noted.exists_new _).imp fun _ noted => ⟨True.intro, noted⟩
  clearHalt _ := ⟨[], True.intro, rfl⟩

/-- Wherever the program reads sectors from, and whatever the device does, a read that succeeds
fills the buffer. -/
theorem SectorSource.fills [BulkLink σ] (source : SectorSource) :
    Fills (source.reader (σ := σ)) := by
  intro sector buffer e room
  rw [source.reader_eq]
  refine (Transcript.unknown.ends_fill_sector _ room e).mono ?_
  rintro filled e' ⟨-, calls, -, delivered⟩ ok
  obtain ⟨packet, layered, -⟩ := delivered ok
  rw [layered, length_overlay, room]

/-- A disk that has one sector and no more. -/
def oneSectorDisk : Engine Playback where
  link := { reads :=
    [.ok (List.replicate sectorSize 0xAB), .ok (StatusWrapper.make 1 0 0).toOctets] }

theorem dumpSectors_keeps_what_was_read_oneSector :
    Ends (dumpSectors "out.bin" 0 3 (SectorSource.medium 0).reader.noting).run
      (fun outcome t => ∃ calls, t.1.2 = [] ++ calls ∧
        DumpKept "out.bin" 0 3 {} outcome calls t.2) ((oneSectorDisk, []), {}) ∧
    Gives (dumpSectors "out.bin" 0xFFFFFFFE 3 (SectorSource.medium 0).reader.noting).run
      ((oneSectorDisk, []), {}) (.error (.range ⟨0xFFFFFFFE, 3⟩)) ((oneSectorDisk, []), {}) := by
  have fills : Fills (SectorSource.medium 0).reader := SectorSource.fills (σ := Playback) _
  constructor
  · have kept := (dumpSectors_keeps_what_was_read fills "out.bin" 0 3 oneSectorDisk [] {}).2.2
    exact (kept (by decide)).2 (.file "out.bin") rfl nofun
  · have refused := dumpSectors_keeps_what_was_read fills "out.bin" 0xFFFFFFFE 3 oneSectorDisk [] {}
    exact refused.2.1 (by decide)

end PlayerLink
