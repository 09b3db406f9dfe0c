import Mathlib.Logic.Function.Iterate
import PlayerLink.Firmware.Reading
import PlayerLink.Proofs.Firmware.Image
import PlayerLink.Proofs.Steps

/-!
# Sectors that are read one after the other

A run of sectors is read in order into one buffer, and the first that cannot be read is the last
that is asked for. There are several such loops: one keeps the sectors, one looks for the mark of a
header among them, one copies them to a file.

What a reader does in any of them is said for its next call alone. `ReadsNext` is this step: with an
invariant of the sectors read so far, the call is made into the last of them and either keeps the
invariant for one sector more, or fails and leaves what is said of a failure there. For each loop
there is one lemma that takes the step for the whole run.
-/

namespace PlayerLink

variable {σ : Type}

/-! ### One step -/

/-- What holds behind a call, given the sectors that were read before it: `inv` with one more, which
is a whole one, or `stop` with the reason for which there is none. -/
def ReadBehind (inv : List (List UInt8) → σ → Prop)
    (stop : List (List UInt8) → CommandError → σ → Prop) (kept : List (List UInt8)) :
    Filled → σ → Prop
  | ⟨.ok _, octets⟩, s => octets.length = sectorSize ∧ inv (kept ++ [octets]) s
  | ⟨.error cause, _⟩, s => stop kept cause s

/-- With some sectors of a run read, the next one is read over the last of them, or over what the
buffer held at the start. -/
def ReadsNext (read : UInt32 → List UInt8 → StateT σ LogM Filled) (first : Nat)
    (buffer : List UInt8) (inv : List (List UInt8) → σ → Prop)
    (stop : List (List UInt8) → CommandError → σ → Prop) (kept : List (List UInt8)) : Prop :=
  ∀ ⦃s : σ⦄, (kept.getLastD buffer).length = sectorSize → inv kept s →
    Ends (read (.ofNat (first + kept.length)) (kept.getLastD buffer)) (ReadBehind inv stop kept) s

section

variable {read : UInt32 → List UInt8 → StateT σ LogM Filled} {first : Nat} {buffer : List UInt8}
variable {inv : List (List UInt8) → σ → Prop} {stop : List (List UInt8) → CommandError → σ → Prop}
variable {kept : List (List UInt8)} {s : σ}

theorem ReadsNext.ends_read (next : ReadsNext read first buffer inv stop [])
    (room : buffer.length = sectorSize) (begin : inv [] s) :
    Ends (read (.ofNat first) buffer) (ReadBehind inv stop []) s :=
  next room begin

/-- Behind the first sector of a run the rest of it is a run from the second on. -/
theorem ReadsNext.tail {octets : List UInt8}
    (next : ReadsNext read first buffer inv stop (octets :: kept)) :
    ReadsNext read (first + 1) octets (fun kept => inv (octets :: kept))
      (fun kept => stop (octets :: kept)) kept := by
  intro s room begin
  rw [ReadsNext, List.getLastD_cons, List.length_cons, ← Nat.succ_add_eq_add_succ] at next
  refine (next room begin).mono ?_
  rintro ⟨result, filled⟩ t behind
  cases result with
  | ok _ => exact behind
  | error cause => exact behind

end

/-! ### Images -/

/-- A reader gives the sectors of an image, in the order of a list of sectors. `ready` is given what
is left of the list. -/
def ReadsImage (read : UInt32 → List UInt8 → StateT σ LogM Filled) (image : Image)
    (ready : List UInt32 → σ → Prop) : Prop :=
  ∀ ⦃sector : UInt32⦄ ⦃rest : List UInt32⦄ ⦃s : σ⦄, ready (sector :: rest) s →
    ∀ ⦃buffer : List UInt8⦄, buffer.length = sectorSize →
      Ends (read sector buffer)
        (fun filled s' => filled = ⟨.ok (), (image sector).toList⟩ ∧ ready rest s') s

/-- As long as the list has a sector, it is read as the image has it. -/
theorem ReadsImage.readsNext {read : UInt32 → List UInt8 → StateT σ LogM Filled} {image : Image}
    {ready : List UInt32 → σ → Prop} (reads : ReadsImage read image ready) (first : Nat)
    (buffer : List UInt8) (rest : List UInt32) {count : Nat} {kept : List (List UInt8)}
    (short : kept.length < count) :
    ReadsNext read first buffer
      (fun kept s => kept = image.sectors first kept.length ∧
        ready (sectorsFrom (first + kept.length) (count - kept.length) ++ rest) s)
      (fun _ _ _ => False) kept := by
  rintro s room ⟨same, begin⟩
  obtain ⟨left, more⟩ : ∃ left, count - kept.length = left + 1 :=
    Nat.exists_eq_add_one.mpr (Nat.sub_pos_of_lt short)
  have less : count - (kept.length + 1) = left := by omega
  rw [more] at begin
  refine (reads begin room).mono ?_
  rintro _ s' ⟨rfl, next⟩
  refine ⟨Vector.length_toList, image.concat_eq_sectors.mpr ⟨same, rfl⟩, ?_⟩
  rw [List.length_append, List.length_singleton, less]
  exact next

/-! ### The loops of the firmware -/

namespace Firmware

section

variable {first : Nat} {inv : List (List UInt8) → Engine σ → Prop}
variable {stop : List (List UInt8) → CommandError → Engine σ → Prop} {e : Engine σ}

/-- How a search ends that has passed by some sectors of a run, with an invariant of all that were
read: at a sector with the mark, at one that could not be read, or behind the last one. -/
inductive SearchEnd (first count : Nat) (inv : List (List UInt8) → Engine σ → Prop)
    (stop : List (List UInt8) → CommandError → Engine σ → Prop) (passed : List (List UInt8)) :
    Except FirmwareError (Option UInt32) → Engine σ → Prop
  | found {octets : List UInt8} {e : Engine σ} (within : passed.length < count)
    (marked : Word.ofLe32 octets = FirmwareHeader.mark) (holds : inv (passed ++ [octets]) e) :
    SearchEnd first count inv stop passed (.ok (some (.ofNat (first + passed.length)))) e
  | failed {cause : CommandError} {e : Engine σ} (within : passed.length < count)
    (holds : stop passed cause e) :
    SearchEnd first count inv stop passed
      (.error (.readFailed (.ofNat (first + passed.length)) cause)) e
  | nowhere {e : Engine σ} (all : passed.length = count) (holds : inv passed e) :
    SearchEnd first count inv stop passed (.ok none) e

theorem SearchEnd.cons {count : Nat} {octets : List UInt8} {passed : List (List UInt8)}
    {outcome : Except FirmwareError (Option UInt32)}
    (h : SearchEnd (first + 1) count (fun kept => inv (octets :: kept))
      (fun kept => stop (octets :: kept)) passed outcome e) :
    SearchEnd first (count + 1) inv stop (octets :: passed) outcome e := by
  have place : first + 1 + passed.length = first + (octets :: passed).length :=
    Nat.succ_add_eq_add_succ first passed.length
  cases h with
  | found within marked holds =>
    rw [place]
    exact .found (Nat.succ_lt_succ within) marked holds
  | failed within holds =>
    rw [place]
    exact .failed (Nat.succ_lt_succ within) holds
  | nowhere all holds => exact .nowhere (congrArg (· + 1) all) holds

variable [BulkLink σ] {lun : UInt8} {buffer : List UInt8}

theorem ends_readSector
    (next : ReadsNext (Engine.readFlash lun · .logical ·) first buffer inv stop [])
    (room : buffer.length = sectorSize) (begin : inv [] e) :
    Ends (readSector lun (.ofNat first) buffer)
      (fun outcome e' =>
        (∃ octets, outcome = .ok octets ∧ octets.length = sectorSize ∧ inv [octets] e') ∨
          ∃ cause, outcome = .error (.readFailed (.ofNat first) cause) ∧ stop [] cause e') e := by
  refine Ends.bind (next.ends_read room begin) ?_
  rintro ⟨result, octets⟩ e' behind
  cases result with
  | ok _ => exact Ends.pure_iff.mpr (.inl ⟨octets, rfl, behind⟩)
  | error cause => exact Ends.pure_iff.mpr (.inr ⟨cause, rfl, behind⟩)

/-- The sectors of a run are read up to the last one, or to the first that fails. -/
theorem ends_readSectors (count : Nat)
    (next : ∀ kept : List (List UInt8), kept.length < count →
      ReadsNext (Engine.readFlash lun · .logical ·) first buffer inv stop kept)
    (done : List (List UInt8)) (room : buffer.length = sectorSize) (begin : inv [] e) :
    Ends (readSectors lun count (.ofNat first) buffer done)
      (fun outcome e' => ∃ kept : List (List UInt8),
        (kept.length = count ∧ outcome = .ok (kept.reverse ++ done) ∧ inv kept e') ∨
        (kept.length < count ∧ ∃ cause,
          outcome = .error (.readFailed (.ofNat (first + kept.length)) cause) ∧
          stop kept cause e')) e := by
  induction count generalizing first buffer inv stop done e with
  | zero => exact Ends.pure_iff.mpr ⟨[], .inl ⟨rfl, rfl, begin⟩⟩
  | succ count ih =>
    refine Ends.bind (ends_readSector (next [] count.succ_pos) room begin) ?_
    rintro _ u (⟨octets, rfl, room', behind⟩ | ⟨cause, rfl, behind⟩)
    · rw [← ofNat_succ]
      refine (ih (fun kept short => (next (octets :: kept) (Nat.succ_lt_succ short)).tail)
        (octets :: done) room' behind).mono ?_
      rintro _ v ⟨kept, ⟨all, rfl, last⟩ | ⟨short, cause, rfl, last⟩⟩
      · refine ⟨octets :: kept, .inl ⟨congrArg (· + 1) all, ?_, last⟩⟩
        rw [List.reverse_cons, List.append_assoc, List.singleton_append]
      · refine ⟨octets :: kept, .inr ⟨Nat.succ_lt_succ short, cause, ?_, last⟩⟩
        rw [List.length_cons, Nat.succ_add_eq_add_succ]
    · exact Ends.pure_iff.mpr ⟨[], .inr ⟨count.succ_pos, cause, rfl, behind⟩⟩

/-- Sectors without the mark are passed by, and each is told to the reporter. The reader may count
on it that none of those before had the mark. -/
theorem ends_search {π : Type} [Progress π] (count : Nat)
    (next : ∀ kept : List (List UInt8), kept.length < count →
      (∀ octets ∈ kept, Word.ofLe32 octets ≠ FirmwareHeader.mark) →
      ReadsNext (Engine.readFlash lun · .logical ·) first buffer inv stop kept)
    (room : buffer.length = sectorSize) (begin : inv [] e) (p : π) :
    Ends (search lun count (.ofNat first) buffer)
      (fun outcome t => ∃ passed : List (List UInt8),
        (∀ octets ∈ passed, Word.ofLe32 octets ≠ FirmwareHeader.mark) ∧
        t.2 = (Progress.advance 1)^[passed.length] p ∧
        SearchEnd first count inv stop passed outcome t.1) (e, p) := by
  induction count generalizing first buffer inv stop e p with
  | zero => exact Ends.pure_iff.mpr ⟨[], nofun, rfl, .nowhere rfl begin⟩
  | succ count ih =>
    have step := ends_readSector (next [] count.succ_pos nofun) room begin
    refine Ends.bind (step.onDevice p) ?_
    rintro _ ⟨u, _⟩ ⟨⟨octets, rfl, room', behind⟩ | ⟨cause, rfl, behind⟩, rfl⟩
    · by_cases marked : Word.ofLe32 octets = FirmwareHeader.mark
      · simp only [if_pos marked]
        exact Ends.pure_iff.mpr ⟨[], nofun, rfl, .found count.succ_pos marked behind⟩
      · simp only [if_neg marked]
        refine Ends.bind (Ends.onSide _ u _) ?_
        rintro _ _ rfl
        rw [← ofNat_succ]
        have later kept (short : kept.length < count)
            (clear : ∀ octets ∈ kept, Word.ofLe32 octets ≠ FirmwareHeader.mark) :=
          (next (octets :: kept) (Nat.succ_lt_succ short)
            (List.forall_mem_cons.mpr ⟨marked, clear⟩)).tail
        refine (ih later room' behind _).mono ?_
        rintro outcome t ⟨passed, clear, heard, ended⟩
        exact ⟨octets :: passed, List.forall_mem_cons.mpr ⟨marked, clear⟩, heard, ended.cons⟩
    · exact Ends.pure_iff.mpr ⟨[], nofun, rfl, .failed count.succ_pos behind⟩

end

end Firmware

end PlayerLink
