import PlayerLink.Program.Session

/-!
# Dumping sectors to a file

Sectors are read one after the other into one buffer and written to a file, until all are there
or one cannot be read or written. What was read up to then stays in the file. A run of sectors
that is not addressable is refused before the file is created.
-/

namespace PlayerLink

open Text RunM

variable {σ : Type}

/-- Reads one sector into a buffer. -/
abbrev SectorReader (σ : Type) := UInt32 → List UInt8 → StateT σ LogM Filled

/-- Copies as many sectors as told, from a sector on. The file comes back however it ended. -/
def copySectors (read : SectorReader σ) :
    Nat → UInt32 → List UInt8 → OutputFile →
      BesideM σ Desk (Except Failure Unit × OutputFile)
  | 0, _, _, file => pure (.ok (), file)
  | count + 1, sector, buffer, file => do
    let filled ← BesideM.onDevice (read sector buffer)
    match filled.result with
    | .error e => pure (.error (.during (.readSector sector) (.command e)), file)
    | .ok () =>
      match file.write filled.buffer with
      | .error e => pure (.error (.file e), file)
      | .ok file =>
        BesideM.onSide (Progress.advance sectorSize)
        copySectors read count (sector + 1) filled.buffer file

/-- Flushes the file unless something failed before. -/
def flushAfter (outcome : Except Failure Unit) (file : OutputFile) :
    Except Failure Unit × OutputFile :=
  match outcome with
  | .error e => (.error e, file)
  | .ok () =>
    match file.flush with
    | .error e => (.error (.file e), file)
    | .ok file => (.ok (), file)

/-- Dumps sectors to the file at a path. -/
def dumpSectors (path : String) (first count : UInt32) (read : SectorReader σ) : RunM σ Unit := do
  let range ← ended ((SectorRange.make first count).mapError .range)
  let desk ← desk
  let place ← ended ((desk.folder.creatable path).mapError
    fun e => .during (.createFile path) (.file e))
  onDesk (Desk.addBar { unit := .octets })
  onDesk (Progress.start (range.count.toNat * sectorSize))
  let (outcome, file) ← ExceptT.lift
    (copySectors read range.count.toNat range.first Firmware.blankSector { place })
  let (outcome, file) := flushAfter outcome file
  onDesk fun desk => { desk with folder := file.close desk.folder }
  ended outcome
  onDesk Progress.finish
  LogM.info s!"Wrote {count} sectors to {Quoted.text path}"

end PlayerLink
