import PlayerLink.Engine.Operations
import PlayerLink.Firmware.Header
import PlayerLink.Progress

/-!
# Reading firmware from a player

The header and the content of its entries are read sector by sector through one buffer, with
addresses that never wrap around: what would run past the last sector is refused before
anything is sent. A second copy of the header is found by looking at one sector after the
other.
-/

namespace PlayerLink

open Text

namespace Firmware

variable {σ π : Type} [BulkLink σ] [Progress π]

/-- Looks for the second copy of the header start at this sector. -/
def searchStart : UInt32 := 8

/-- Looks for the second copy end below this sector unless told otherwise. -/
def defaultSearchLimit : UInt32 := 65535

/-- A sector of zeros. -/
def blankSector : List UInt8 := List.replicate sectorSize 0

/-- Reads one sector of the flash memory as the player's firmware sees it. -/
def readSector (lun : UInt8) (sector : UInt32) (buffer : List UInt8) :
    EngineM σ (Except FirmwareError (List UInt8)) := do
  let filled ← Engine.readFlash lun sector .logical buffer
  match filled.result with
  | .error e => pure (.error (.readFailed sector e))
  | .ok () => pure (.ok filled.buffer)

/-- Reads as many sectors as told, from a sector on, and puts them in front of those read
before, newest first. Stops at the first that fails. -/
def readSectors (lun : UInt8) :
    Nat → UInt32 → List UInt8 → List (List UInt8) →
      EngineM σ (Except FirmwareError (List (List UInt8)))
  | 0, _, _, done => pure (.ok done)
  | count + 1, sector, buffer, done => do
    match ← readSector lun sector buffer with
    | .error e => pure (.error e)
    | .ok read => readSectors lun count (sector + 1) read (read :: done)

/-- The octets of a run of sectors. -/
def readRun (lun : UInt8) (first : UInt32) (count : Nat) :
    EngineM σ (Except FirmwareError (List UInt8)) := do
  match ← readSectors lun count first blankSector [] with
  | .error e => pure (.error e)
  | .ok sectors => pure (.ok sectors.reverse.flatten)

/-- Reads the header that starts at a sector. -/
def readHeader (lun : UInt8) (start : UInt32) :
    EngineM σ (Except FirmwareError FirmwareHeader) := do
  if start.toNat + (FirmwareHeader.sectors - 1) > 0xFFFFFFFF then
    pure (.error (.headerOutOfRange start))
  else
    match ← readRun lun start FirmwareHeader.sectors with
    | .error e => pure (.error e)
    | .ok bs =>
      let header := FirmwareHeader.layout.decode bs
      if header.magic ≠ FirmwareHeader.mark then pure (.error (.badMagic header.magic))
      else
        LogM.debug <| s!"Firmware header at sector {Numeral.marked 0 start.toNat}, " ++
          s!"{header.entries.length} entries"
        pure (.ok header)

/-- Looks at as many sectors as told for one that starts like a header. -/
def search (lun : UInt8) :
    Nat → UInt32 → List UInt8 →
      BesideM (Engine σ) π (Except FirmwareError (Option UInt32))
  | 0, _, _ => pure (.ok none)
  | count + 1, sector, buffer => do
    match ← BesideM.onDevice (readSector lun sector buffer) with
    | .error e => pure (.error e)
    | .ok read =>
      if Word.ofLe32 read = FirmwareHeader.mark then pure (.ok (some sector))
      else
        BesideM.onSide (Progress.advance 1)
        search lun count (sector + 1) read

/-- Finds the second copy of the header below a sector. The reporter hears how many sectors
there are to look at and of each that was passed by; it hears of the end unless a read
fails. -/
def locateAlternate (lun : UInt8) (limit : UInt32) :
    BesideM (Engine σ) π (Except FirmwareError (Option UInt32)) := do
  let total := limit.toNat - searchStart.toNat
  BesideM.onSide (Progress.start total)
  match ← search lun total searchStart blankSector with
  | .error e => pure (.error e)
  | .ok (some sector) =>
    BesideM.onSide Progress.finish
    LogM.info s!"Alternate header found at sector {Numeral.marked 8 sector.toNat}"
    pure (.ok (some sector))
  | .ok none =>
    BesideM.onSide Progress.finish
    LogM.info s!"Alternate header not found below sector {Numeral.marked 0 limit.toNat}"
    pure (.ok none)

/-- Reads the content of an entry of the header that starts at a sector. The entry's first
sector has to be addressable even if it is empty, and so does its last one. -/
def readEntry (lun : UInt8) (start : UInt32) (entry : DirectoryEntry) :
    EngineM σ (Except FirmwareError (List UInt8)) := do
  let first := start.toNat + entry.offset.toNat
  if first + (entry.sectorCount - 1) > 0xFFFFFFFF then
    pure (.error (.entryOutOfRange entry.name entry.offset))
  else
    match ← readRun lun (UInt32.ofNat first) entry.sectorCount with
    | .error e => pure (.error e)
    | .ok bs => pure (.ok (bs.take entry.length.toNat))

end Firmware

end PlayerLink
