import PlayerLink.Program.Firmware
import PlayerLink.Program.Medium
import PlayerLink.Program.Memory
import PlayerLink.Proofs.Firmware.Fetching
import PlayerLink.Proofs.Program.Dumping
import PlayerLink.Simulation.Playback

/-!
# What a successful transfer has transferred

An operation on a sector that succeeds made its transfer once and was told success by a status of
its own. How many octets the transfer moved is not asked: a short one is written to the log and no
more. So a header, an entry or a dump that was read with success is made of the packets that came,
one for each sector, and wherever a packet was short, of what the buffer held before it.
-/

namespace PlayerLink

open RunM

/-- Where the sectors of a dump are read from. -/
inductive SectorSource where
  | medium (lun : UInt8)
  | flash (lun : UInt8) (area : FlashArea)
  | memory

namespace SectorSource

variable {σ : Type} [BulkLink σ]

/-- The command that reads from a sector on into a buffer of the given length. -/
def command (length : Nat) : SectorSource → UInt32 → Command
  | medium lun, sector => .read lun sector
  | flash lun area, sector => .readSector lun sector area
  | memory, sector => .readMemory sector (UInt32.ofNat length)

/-- The operation that reads a sector. -/
def reader : SectorSource → SectorReader (Engine σ)
  | medium lun => fun sector buffer => Engine.readSector lun sector buffer
  | flash lun area => fun sector buffer => Engine.readFlash lun sector area buffer
  | memory => fun sector buffer => Engine.readMemory sector buffer

theorem reader_eq (source : SectorSource) (sector : UInt32) (buffer : List UInt8) :
    source.reader (σ := σ) sector buffer =
      Engine.fill (source.command buffer.length sector) buffer := by
  cases source <;> rfl

end SectorSource

variable {σ : Type}

namespace Transcript

variable [BulkLink σ] {D : σ → List LinkCall → σ → Prop}

/-- Each sector is read over the one before it and written behind it. -/
theorem ends_copySectors (t : Transcript D) (source : SectorSource) (count : Nat)
    (sector : UInt32) {buffer : List UInt8} (file : OutputFile)
    (room : buffer.length = sectorSize) (e : Engine σ) (desk : Desk) :
    Ends (copySectors source.reader count sector buffer file)
      (fun r t => t.2.folder = desk.folder ∧
        (r.1 = .ok () → ∃ packets calls, packets.length = count ∧ D e.link calls t.1.link ∧
          Fetched (source.command sectorSize) e.tag sector packets calls ∧
          r.2.written = file.written ++ (layered buffer packets).flatten ∧
          r.2.place = file.place)) (e, desk) := by
  have fills (sector : UInt32) (buffer : List UInt8) (room : buffer.length = sectorSize) :
      source.reader (σ := σ) sector buffer =
        Engine.fill (source.command sectorSize sector) buffer := by
    rw [source.reader_eq, room]
  have copied := PlayerLink.ends_copySectors count
    (fun kept _ => t.readsNext fills e sector buffer kept) file room
    (t.fetched_nil e sector buffer) desk
  rw [UInt32.ofNat_toNat] at copied
  refine copied.mono ?_
  rintro ⟨_, file'⟩ ⟨u, _⟩ ⟨kept, place, written, rfl, ended⟩
  refine ⟨Desk.folder_advance sectorSize kept.length desk, ?_⟩
  rintro rfl
  cases ended with
  | whole all holds =>
    obtain ⟨packets, calls, grown, -, rfl, fetched⟩ := holds
    exact ⟨packets, calls, by rw [← all, length_layered], grown, fetched, written, place⟩

/-- What stands in the file after a dump that succeeded. -/
theorem ends_dumpSectors (t : Transcript D) (source : SectorSource) (path : String)
    (first count : UInt32) (e : Engine σ) (desk : Desk) :
    Ends (dumpSectors path first count source.reader).run
      (fun outcome t => outcome = .ok () → ∃ place octets,
        desk.folder.creatable path = .ok place ∧ t.2.folder = desk.folder.keep place octets ∧
          ∃ calls, D e.link calls t.1.link ∧
            Layers (source.command sectorSize) e.tag first count.toNat octets calls)
      (e, desk) := by
  refine ends_dumpSectors_of_copied (fun octets (u : Engine σ) => ∃ calls, D e.link calls u.link ∧
    Layers (source.command sectorSize) e.tag first count.toNat octets calls) ?_
  intro place d
  refine (t.ends_copySectors source count.toNat first { place } List.length_replicate e d).mono ?_
  intro r u ⟨folder, copied⟩
  refine ⟨folder, ?_⟩
  intro ok
  obtain ⟨packets, calls, length, grown, fetched, written, same⟩ := copied ok
  refine ⟨⟨calls, grown, ?_⟩, same⟩
  rw [written, ← length]
  exact .of_fetched fetched

end Transcript

section

variable {σ : Type} [BulkLink σ]

/-- Whatever the link does: if a sector is read or written with success, the record shows the
wrapper, one transfer of data if there were any to move, and a status of success with the tag of the
command; the buffer is what the transfer gave, laid over what it held before. If a header, an entry
or a dump is read with success, each of its sectors was read by a command of its own, and the octets
are the packets laid one over the other. They are the packets alone if none of these was short. -/
theorem success_layers_packets (e : Engine (Recorded σ)) (desk : Desk) (source : SectorSource)
    (lun : UInt8) (sector first count : UInt32) (buffer data : List UInt8) (entry : DirectoryEntry)
    (path : String) :
    Ends (source.reader sector buffer)
      (fun filled e' => filled.result = .ok () → ∃ calls, Recorded.Grew e.link calls e'.link ∧
        Completed ((source.command buffer.length sector).wrapper (e.tag + 1) buffer.length)
          (.receive buffer) filled.buffer 0 calls) e ∧
    Ends (Engine.writeSector lun sector data)
      (fun result e' => result = .ok () → ∃ calls rest, Recorded.Grew e.link calls e'.link ∧
        Completed ((DataPhase.send data).wrapper (e.tag + 1) (Command.write lun sector).block
          (Command.write lun sector).block_fits) (.send data) rest 0 calls) e ∧
    Ends (Firmware.readHeader lun first)
      (fun outcome e' => ∀ header, outcome = .ok header → ∃ octets calls,
        header = FirmwareHeader.layout.decode octets ∧ Recorded.Grew e.link calls e'.link ∧
          Layers (firmwareSector lun) e.tag first FirmwareHeader.sectors octets calls) e ∧
    Ends (Firmware.readEntry lun first entry)
      (fun outcome e' => ∀ content, outcome = .ok content → ∃ octets calls,
        content = octets.take entry.length.toNat ∧ Recorded.Grew e.link calls e'.link ∧
          Layers (firmwareSector lun) e.tag (UInt32.ofNat (first.toNat + entry.offset.toNat))
            entry.sectorCount octets calls) e ∧
    Ends (dumpSectors path first count source.reader).run
      (fun outcome t => outcome = .ok () → ∃ place octets calls,
        desk.folder.creatable path = .ok place ∧ t.2.folder = desk.folder.keep place octets ∧
          Recorded.Grew e.link calls t.1.link ∧
            Layers (source.command sectorSize) e.tag first count.toNat octets calls) (e, desk) := by
  have t : Transcript (Recorded.Grew : Recorded σ → _) := Recorded.transcript
  refine ⟨?_, ?_, ?_, ?_, ?_⟩
  · rw [source.reader_eq]
    refine (t.ends_fill _ buffer e).mono ?_
    rintro filled e' ⟨-, calls, grown, -, completed⟩ ok
    exact ⟨calls, grown, completed ok⟩
  · refine (t.ends_perform (.write lun sector) (.send data) e).mono ?_
    rintro result e' ⟨-, calls, grown, -, completed⟩ ok
    obtain ⟨rest, completed⟩ := completed ok
    exact ⟨calls, rest, grown, completed⟩
  · refine (t.ends_readHeader lun first e).mono ?_
    rintro outcome e' ⟨calls, grown, read⟩ header ok
    obtain ⟨octets, decoded, layers⟩ := read header ok
    exact ⟨octets, calls, decoded, grown, layers⟩
  · refine (t.ends_readEntry lun first entry e).mono ?_
    rintro outcome e' ⟨calls, grown, read⟩ content ok
    obtain ⟨octets, cut, layers⟩ := read content ok
    exact ⟨octets, calls, cut, grown, layers⟩
  · refine (t.ends_dumpSectors source path first count e desk).mono ?_
    intro outcome ⟨e', desk'⟩ dumped ok
    obtain ⟨place, octets, creatable, folder, calls, grown, layers⟩ := dumped ok
    exact ⟨place, octets, calls, creatable, folder, grown, layers⟩

end

/-- A link on which three octets come as data, and success as the status of the first command. -/
def threeOctets : Recorded Playback where
  link := { reads := [.ok [1, 2, 3], .ok (StatusWrapper.make 1 509 0).toOctets] }

/-- Three octets for a sector and a status of success are believed, so a success does not tell that
the whole sector moved. -/
theorem success_without_whole_sector :
    ¬ Ends (Engine.readFlash 0 0 .logical (List.replicate sectorSize 0xAA))
      (fun filled e' => filled.result = .ok () →
        ∃ packet, LinkCall.receive sectorSize (.ok packet) ∈ e'.link.calls.toList ∧
          packet.length = sectorSize)
      { link := threeOctets } := by
  intro all
  have succeeded : (Engine.readFlash 0 0 .logical (List.replicate sectorSize 0xAA)
      { link := threeOctets } {}).1.1.result.isOk := by
    decide +kernel
  have short : ∀ receipt ∈ LinkCall.receipts (Engine.readFlash 0 0 .logical
      (List.replicate sectorSize 0xAA) { link := threeOctets } {}).1.2.link.calls.toList,
      receipt.2.length ≠ sectorSize := by
    decide +kernel
  have eq_ok {r : Except CommandError Unit} (h : r.isOk) : r = .ok () := by
    cases r with
    | error e => cases h
    | ok _ => rfl
  obtain ⟨packet, received, whole⟩ := all {} (eq_ok succeeded)
  exact short _ (LinkCall.mem_receipts received) whole

end PlayerLink
