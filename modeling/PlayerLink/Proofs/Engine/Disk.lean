import Mathlib.Logic.Function.Basic
import PlayerLink.Proofs.Command.Decoding
import PlayerLink.Proofs.Engine.Simulated
import PlayerLink.Proofs.Firmware.Image

/-!
# Disks

A disk keeps the octets of every sector. `Disk` is a link to one: it finds the address in the
wrapper that it gets, stores the data that come with a write there, and answers a read with what it
has there. Nothing is assumed of what it does with other commands.

Sectors that are written one behind the other stand so on the disk, and all others are as they were.
-/

namespace PlayerLink

namespace Image

/-- An image after sectors were written one behind the other, from a sector on. -/
def written : Image → Nat → List (List UInt8) → Image
  | image, _, [] => image
  | image, first, data :: rest =>
    written (Function.update image (UInt32.ofNat first) (Field.ofList sectorSize data)) (first + 1)
      rest

variable {image : Image} {first : Nat} {parts : List (List UInt8)}

/-- One part more goes behind the others. -/
theorem written_concat (data : List UInt8) :
    image.written first (parts ++ [data]) = Function.update (image.written first parts)
      (UInt32.ofNat (first + parts.length)) (Field.ofList sectorSize data) := by
  induction parts generalizing image first with
  | nil => rfl
  | cons part rest ih =>
    rw [List.cons_append, written, ih, written, List.length_cons, Nat.succ_add_eq_add_succ]

theorem written_of_outside (room : first + parts.length ≤ UInt32.size) {a : UInt32}
    (outside : a.toNat < first ∨ first + parts.length ≤ a.toNat) :
    image.written first parts a = image a := by
  induction parts generalizing image first with
  | nil => rfl
  | cons data rest ih =>
    rw [List.length_cons] at room outside
    have other : a ≠ UInt32.ofNat first := by
      rintro rfl
      rw [UInt32.toNat_ofNat_of_lt' (by omega)] at outside
      omega
    rw [written, ih (by omega) (by omega), Function.update_of_ne other]

/-- No sector is written over by those behind it, since the numbers do not wrap around. -/
theorem sectors_written (room : first + parts.length ≤ UInt32.size)
    (whole : ∀ data ∈ parts, data.length = sectorSize) :
    (image.written first parts).sectors first parts.length = parts := by
  induction parts generalizing image first with
  | nil => rfl
  | cons data rest ih =>
    rw [List.length_cons] at room
    have length := whole data (List.mem_cons_self ..)
    have word : (UInt32.ofNat first).toNat = first := UInt32.toNat_ofNat_of_lt' (by omega)
    have stays : image.written first (data :: rest) (UInt32.ofNat first) =
        Field.ofList sectorSize data := by
      rw [written, written_of_outside (by omega) (.inl (by omega)), Function.update_self]
    rw [List.length_cons, sectors, stays, Field.toList_ofList,
      zeroPad_of_le (Nat.le_of_eq length.symm), ← length, List.take_length, written,
      ih (by omega) fun data among => whole data (List.mem_cons_of_mem _ among)]

theorem octets_written (image : Image) (room : first + parts.length ≤ UInt32.size)
    (whole : ∀ data ∈ parts, data.length = sectorSize) :
    (image.written first parts).octets first (parts.length * sectorSize) = parts.flatten := by
  rw [← flatten_sectors, sectors_written room whole]

end Image

variable {σ : Type} [BulkLink σ]

/-- A link to a disk. `holds` is given what stands on the disk. -/
structure Disk (lun : UInt8) (holds : Image → σ → Prop) : Prop where
  write : ∀ {image l} {w : CommandWrapper} {address} {data : List UInt8}, holds image l →
    w.command? = some (.write lun address) → w.direction = .output →
    w.dataLength = UInt32.ofNat sectorSize → data.length = sectorSize →
      ∃ l', holds (Function.update image address (Field.ofList sectorSize data)) l' ∧
        Takes w data l l'
  read : ∀ {image l} {w : CommandWrapper} {address}, holds image l →
    w.command? = some (.read lun address) → w.direction = .input →
    w.dataLength = UInt32.ofNat sectorSize →
      ∃ l', holds image l' ∧ Answers w sectorSize (image address).toList l l'

namespace Disk

variable {lun : UInt8} {holds : Image → σ → Prop} {image : Image} {e : Engine σ}

/-- The disk changes where the host told it to, and nowhere else. -/
theorem ends_writeSector (disk : Disk lun holds) (held : holds image e.link) (address : UInt32)
    {data : List UInt8} (whole : data.length = sectorSize) :
    Ends (Engine.writeSector lun address data)
      (fun outcome e' => outcome = .ok () ∧
        holds (Function.update image address (Field.ofList sectorSize data)) e'.link) e := by
  have some : ¬ data.isEmpty := by
    intro empty
    rw [List.isEmpty_iff.mp empty] at whole
    cases whole
  obtain ⟨l, held', takes⟩ := disk.write
    (w := (DataPhase.send data).wrapper (e.tag + 1) (Command.write lun address).block
      (Command.write lun address).block_fits)
    held (CommandWrapper.command?_wrap ..) rfl (congrArg UInt32.ofNat whole) whole
  exact (Engine.gives_perform_of_takes takes some).ends ⟨rfl, held'⟩

/-- A sector fills the buffer, so nothing is left of what it held. -/
theorem ends_readSector (disk : Disk lun holds) (held : holds image e.link) (address : UInt32)
    {buffer : List UInt8} (room : buffer.length = sectorSize) :
    Ends (Engine.readSector lun address buffer)
      (fun filled e' => filled = ⟨.ok (), (image address).toList⟩ ∧ holds image e'.link) e := by
  obtain ⟨l, held', answers⟩ := disk.read (w := (Command.read lun address).wrapper (e.tag + 1)
    sectorSize) held (CommandWrapper.command?_wrap ..) rfl rfl
  exact (Engine.gives_fill_of_whole answers (by decide) room Vector.length_toList).ends
    ⟨rfl, held'⟩

end Disk

/-! ### A simulated disk -/

/-- A responder that keeps sectors. Every logical unit leads to the same ones. -/
structure SectorStore where
  image : Image

instance : Responder SectorStore where
  respond w data := fun store =>
    match w.command? with
    | some (.read _ address) => ({ data := (store.image address).toList }, store)
    | some (.write _ address) =>
      ({}, { image := Function.update store.image address (Field.ofList sectorSize data) })
    | _ => ({ status := 1 }, store)

/-- A player that keeps sectors is a disk. -/
theorem SimulatedPlayer.disk (lun : UInt8) :
    Disk lun (fun image (p : SimulatedPlayer SectorStore) => p = .idle ⟨image⟩) where
  write := by
    rintro image _ w address data rfl command output length whole
    have announced : w.direction = .output ∧ w.dataLength ≠ 0 :=
      ⟨output, by rw [length]; decide⟩
    have respond : Responder.respond w data (⟨image⟩ : SectorStore) =
        ({}, ⟨Function.update image address (Field.ofList sectorSize data)⟩) := by
      simp only [Responder.respond, command]
    exact ⟨_, rfl, SimulatedPlayer.takes_idle announced respond⟩
  read := by
    rintro image _ w address rfl command input -
    have respond : Responder.respond w [] (⟨image⟩ : SectorStore) =
        ({ data := (image address).toList }, ⟨image⟩) := by
      simp only [Responder.respond, command]
    exact ⟨_, rfl, SimulatedPlayer.answers_idle input respond (image.toList_ne_nil address)
      (Nat.le_of_eq Vector.length_toList)⟩

end PlayerLink
