import PlayerLink.Proofs.Engine.Transcript
import PlayerLink.Proofs.Firmware.Sectors

/-!
# Sectors that are read into one buffer

Sectors are read one after the other into one buffer, and a packet may be shorter than a sector.
So what is taken for a sector is the packet laid over what the buffer held before: the sector read
last, or zeros at the start. `layered` is what a run of packets gives in this way, and `Fetched` is
the record of such a run, one command for each sector.

A read that succeeds says no more than this. Only where every packet fills the buffer is the result
made of the packets alone.
-/

namespace PlayerLink

open StatusWrapper

/-- The buffers after packets that were received into it one after the other. -/
def layered : List UInt8 → List (List UInt8) → List (List UInt8)
  | _, [] => []
  | buffer, packet :: rest => overlay packet buffer :: layered (overlay packet buffer) rest

/-- Of packets that fill the buffer nothing else is left. -/
theorem layered_of_full {buffer : List UInt8} {packets : List (List UInt8)}
    (full : ∀ p ∈ packets, p.length = buffer.length) : layered buffer packets = packets := by
  induction packets generalizing buffer with
  | nil => rfl
  | cons packet rest ih =>
    have here := full packet List.mem_cons_self
    rw [layered, overlay_of_length_eq here, ih]
    intro p hp
    rw [full p (List.mem_cons_of_mem packet hp), here]

theorem length_layered (buffer : List UInt8) (packets : List (List UInt8)) :
    (layered buffer packets).length = packets.length := by
  induction packets generalizing buffer with
  | nil => rfl
  | cons packet rest ih => rw [layered, List.length_cons, ih, List.length_cons]

/-- One more packet is laid over the last of the buffers. -/
theorem layered_concat (buffer packet : List UInt8) (packets : List (List UInt8)) :
    layered buffer (packets ++ [packet]) =
      layered buffer packets ++ [overlay packet ((layered buffer packets).getLastD buffer)] := by
  induction packets generalizing buffer with
  | nil => rfl
  | cons first rest ih =>
    rw [List.cons_append, layered, ih, layered, List.cons_append, List.getLastD_cons]

/-- The record of a command that was given a packet as its data, and success as its status. A short
packet that looks like a status is not taken for data. -/
def Delivered (w : CommandWrapper) (room : Nat) (packet : List UInt8) (calls : List LinkCall) :
    Prop :=
  ∃ taken status,
    calls = [.send w.toOctets (.ok taken), .receive room (.ok packet),
      .receive StatusWrapper.size (.ok status)] ∧
    (packet.length < room → ¬ IsStatus packet) ∧ Accepted w.tag 0 status

theorem Completed.delivered {w : CommandWrapper} {buffer after : List UInt8}
    {calls : List LinkCall} (completed : Completed w (.receive buffer) after 0 calls)
    (some : buffer ≠ []) :
    ∃ packet, after = overlay packet buffer ∧ Delivered w buffer.length packet calls := by
  obtain ⟨taken, moved, status, rfl, stage, accepted⟩ := completed
  cases stage with
  | receivedNothing => exact absurd rfl some
  | received packet _ noStatus => exact ⟨packet, rfl, taken, status, rfl, noStatus, accepted⟩

/-- The record of commands that read one sector each, from a sector on and under the tags behind a
tag, with the packets that they were given. -/
inductive Fetched (command : UInt32 → Command) :
    UInt32 → UInt32 → List (List UInt8) → List LinkCall → Prop
  | nil {tag sector : UInt32} : Fetched command tag sector [] []
  | cons {tag sector : UInt32} {packet : List UInt8} {rest : List (List UInt8)}
      {calls more : List LinkCall}
      (here : Delivered ((command sector).wrapper (tag + 1) sectorSize) sectorSize packet calls)
      (later : Fetched command (tag + 1) (sector + 1) rest more) :
      Fetched command tag sector (packet :: rest) (calls ++ more)

/-- One more sector behind the others. -/
theorem Fetched.concat {command : UInt32 → Command} {tag sector : UInt32} {packet : List UInt8}
    {packets : List (List UInt8)} {calls more : List LinkCall}
    (fetched : Fetched command tag sector packets calls)
    (last : Delivered ((command (sector + .ofNat packets.length)).wrapper
      (tag + .ofNat (packets.length + 1)) sectorSize) sectorSize packet more) :
    Fetched command tag sector (packets ++ [packet]) (calls ++ more) := by
  induction fetched with
  | @nil tag sector =>
    have first : sector + .ofNat 0 = sector := UInt32.add_zero sector
    rw [List.length_nil, first] at last
    rw [List.nil_append, List.nil_append, ← List.append_nil more]
    exact .cons last .nil
  | @cons tag sector packet' rest calls' more' here later ih =>
    have place (a : UInt32) (n : Nat) : a + .ofNat (n + 1) = a + 1 + .ofNat n := by
      rw [ofNat_succ, UInt32.add_comm (.ofNat n), UInt32.add_assoc]
    rw [List.length_cons, place sector, place tag] at last
    rw [List.cons_append, List.append_assoc]
    exact .cons here (ih last)

/-- A run of sectors whose octets are the layers of the packets that were fetched for them. -/
def Layers (command : UInt32 → Command) (tag first : UInt32) (count : Nat) (octets : List UInt8)
    (calls : List LinkCall) : Prop :=
  ∃ packets, packets.length = count ∧ Fetched command tag first packets calls ∧
    octets = (layered Firmware.blankSector packets).flatten ∧
    ((∀ p ∈ packets, p.length = sectorSize) → octets = packets.flatten)

theorem Layers.of_fetched {command : UInt32 → Command} {tag first : UInt32}
    {packets : List (List UInt8)} {calls : List LinkCall}
    (fetched : Fetched command tag first packets calls) :
    Layers command tag first packets.length (layered Firmware.blankSector packets).flatten
      calls := by
  refine ⟨packets, rfl, fetched, rfl, ?_⟩
  intro full
  rw [layered_of_full]
  simpa [Firmware.blankSector] using full

/-- The command that reads a sector of the firmware. -/
def firmwareSector (lun : UInt8) (sector : UInt32) : Command := .readSector lun sector .logical

namespace Transcript

variable {σ : Type} [BulkLink σ] {D : σ → List LinkCall → σ → Prop}

/-- A read of one sector that succeeds leaves its packet laid over the buffer. -/
theorem ends_fill_sector (t : Transcript D) (c : Command) {buffer : List UInt8}
    (room : buffer.length = sectorSize) (e : Engine σ) :
    Ends (Engine.fill c buffer)
      (fun filled e' => e'.tag = e.tag + 1 ∧ ∃ new, D e.link new e'.link ∧
        (filled.result = .ok () → ∃ packet, filled.buffer = overlay packet buffer ∧
          Delivered (c.wrapper (e.tag + 1) sectorSize) sectorSize packet new)) e := by
  refine (t.ends_fill c buffer e).mono ?_
  rintro filled e' ⟨tag, new, grown, -, completed⟩
  refine ⟨tag, new, grown, ?_⟩
  intro ok
  have some : buffer ≠ [] := by
    rintro rfl
    cases room
  rw [← room]
  exact (completed ok).delivered some

/-- Each sector is read over the one before it. -/
theorem readsNext (t : Transcript D) {command : UInt32 → Command}
    {read : UInt32 → List UInt8 → EngineM σ Filled}
    (fills : ∀ sector buffer, buffer.length = sectorSize →
      read sector buffer = Engine.fill (command sector) buffer)
    (e : Engine σ) (sector : UInt32) (buffer : List UInt8) (kept : List (List UInt8)) :
    ReadsNext read sector.toNat buffer
      (fun kept e' => ∃ packets calls, D e.link calls e'.link ∧
        e'.tag = e.tag + .ofNat packets.length ∧ kept = layered buffer packets ∧
        Fetched command e.tag sector packets calls)
      (fun _ _ e' => ∃ calls, D e.link calls e'.link) kept := by
  rintro u room ⟨packets, calls, grown, tag, rfl, fetched⟩
  rw [fills _ _ room]
  refine (t.ends_fill_sector _ room u).mono ?_
  rintro ⟨result, octets⟩ v ⟨tag', new, grown', ended⟩
  cases result with
  | error cause => exact ⟨_, t.trans grown grown'⟩
  | ok _ =>
    obtain ⟨packet, rfl, delivered⟩ := ended rfl
    have next : u.tag + 1 = e.tag + .ofNat (packets.length + 1) := by
      rw [tag, ofNat_succ, UInt32.add_assoc]
    rw [next, length_layered, UInt32.ofNat_add, UInt32.ofNat_toNat] at delivered
    refine ⟨by rw [length_overlay, room], packets ++ [packet], _, t.trans grown grown', ?_,
      (layered_concat buffer packet packets).symm, fetched.concat delivered⟩
    rw [tag', next, List.length_append, List.length_singleton]

/-- No sector is fetched at the start. -/
theorem fetched_nil (t : Transcript D) {command : UInt32 → Command} (e : Engine σ)
    (sector : UInt32) (buffer : List UInt8) :
    ∃ packets calls, D e.link calls e.link ∧ e.tag = e.tag + .ofNat packets.length ∧
      [] = layered buffer packets ∧ Fetched command e.tag sector packets calls :=
  ⟨[], [], t.refl e.link, (UInt32.add_zero e.tag).symm, rfl, .nil⟩

theorem ends_readSectors (t : Transcript D) (lun : UInt8) (count : Nat) (sector : UInt32)
    {buffer : List UInt8} (done : List (List UInt8)) (room : buffer.length = sectorSize)
    (e : Engine σ) :
    Ends (Firmware.readSectors lun count sector buffer done)
      (fun outcome e' => ∃ new, D e.link new e'.link ∧ ∀ sectors, outcome = .ok sectors →
        ∃ packets, packets.length = count ∧
          Fetched (firmwareSector lun) e.tag sector packets new ∧
          sectors = (layered buffer packets).reverse ++ done) e := by
  have next kept (_ : kept.length < count) :
      ReadsNext (Engine.readFlash lun · .logical ·) sector.toNat buffer _ _ kept :=
    t.readsNext (fun _ _ _ => rfl) e sector buffer kept
  have read := Firmware.ends_readSectors count next done room (t.fetched_nil e sector buffer)
  rw [UInt32.ofNat_toNat] at read
  refine read.mono ?_
  rintro _ e' ⟨kept, ⟨all, rfl, packets, calls, grown, -, rfl, fetched⟩ |
    ⟨-, cause, rfl, calls, grown⟩⟩
  · refine ⟨calls, grown, ?_⟩
    rintro _ ⟨⟩
    exact ⟨packets, by rw [← all, length_layered], fetched, rfl⟩
  · exact ⟨calls, grown, nofun⟩

theorem ends_readRun (t : Transcript D) (lun : UInt8) (first : UInt32) (count : Nat)
    (e : Engine σ) :
    Ends (Firmware.readRun lun first count)
      (fun outcome e' => ∃ new, D e.link new e'.link ∧ ∀ octets, outcome = .ok octets →
        Layers (firmwareSector lun) e.tag first count octets new) e := by
  refine Ends.bind (t.ends_readSectors lun count first [] (List.length_replicate) e) ?_
  rintro outcome e' ⟨new, grown, read⟩
  cases outcome with
  | error cause => exact Ends.pure_iff.mpr ⟨new, grown, nofun⟩
  | ok sectors =>
    refine Ends.pure_iff.mpr ⟨new, grown, ?_⟩
    intro octets ok
    cases ok
    obtain ⟨packets, rfl, fetched, rfl⟩ := read sectors rfl
    rw [List.append_nil, List.reverse_reverse]
    exact .of_fetched fetched

/-- A header that is read is what its sixteen sectors are taken for. -/
theorem ends_readHeader (t : Transcript D) (lun : UInt8) (start : UInt32) (e : Engine σ) :
    Ends (Firmware.readHeader lun start)
      (fun outcome e' => ∃ new, D e.link new e'.link ∧ ∀ header, outcome = .ok header →
        ∃ octets, header = FirmwareHeader.layout.decode octets ∧
          Layers (firmwareSector lun) e.tag start FirmwareHeader.sectors octets new) e := by
  rw [Firmware.readHeader]
  by_cases far : start.toNat + (FirmwareHeader.sectors - 1) > 0xFFFFFFFF
  · rw [if_pos far]
    exact Ends.pure_iff.mpr ⟨[], t.refl e.link, nofun⟩
  rw [if_neg far]
  refine Ends.bind (t.ends_readRun lun start FirmwareHeader.sectors e) ?_
  rintro outcome e' ⟨new, grown, read⟩
  cases outcome with
  | error cause => exact Ends.pure_iff.mpr ⟨new, grown, nofun⟩
  | ok octets =>
    by_cases foreign : (FirmwareHeader.layout.decode octets).magic ≠ FirmwareHeader.mark
    · simp only [if_pos foreign]
      exact Ends.pure_iff.mpr ⟨new, grown, nofun⟩
    · simp only [if_neg foreign]
      refine Ends.bind_lift (Ends.pure_iff.mpr ⟨new, grown, ?_⟩)
      intro header ok
      cases ok
      exact ⟨octets, rfl, read octets rfl⟩

/-- The content of an entry is what its sectors are taken for, cut to its length. -/
theorem ends_readEntry (t : Transcript D) (lun : UInt8) (start : UInt32) (entry : DirectoryEntry)
    (e : Engine σ) :
    Ends (Firmware.readEntry lun start entry)
      (fun outcome e' => ∃ new, D e.link new e'.link ∧ ∀ content, outcome = .ok content →
        ∃ octets, content = octets.take entry.length.toNat ∧
          Layers (firmwareSector lun) e.tag (UInt32.ofNat (start.toNat + entry.offset.toNat))
            entry.sectorCount octets new) e := by
  rw [Firmware.readEntry]
  by_cases far : start.toNat + entry.offset.toNat + (entry.sectorCount - 1) > 0xFFFFFFFF
  · simp only [if_pos far]
    exact Ends.pure_iff.mpr ⟨[], t.refl e.link, nofun⟩
  simp only [if_neg far]
  refine Ends.bind (t.ends_readRun lun _ entry.sectorCount e) ?_
  rintro outcome e' ⟨new, grown, read⟩
  cases outcome with
  | error cause => exact Ends.pure_iff.mpr ⟨new, grown, nofun⟩
  | ok octets =>
    refine Ends.pure_iff.mpr ⟨new, grown, ?_⟩
    intro content ok
    cases ok
    exact ⟨octets, rfl, read octets rfl⟩

end Transcript

end PlayerLink
