import PlayerLink.Program.Dump
import PlayerLink.Text.Size

/-!
# Work on the medium of a device

The commands that every mass storage device understands: asking what it is and how large its
medium is, and reading and writing sectors of the medium.
-/

namespace PlayerLink

open Text RunM

variable {δ : Type} [BulkLink δ]

/-- What a device says about itself, a line each. -/
def inquiryLines (i : Inquiry) : List String :=
  let removable := if i.removable then "YES" else "NO"
  [ "Received information:",
    s!"Peripheral Device Type : {i.peripheral.code} ({i.peripheral.description})",
    s!"          Is removable : {removable}",
    s!"           ISO version : {i.isoVersion}",
    s!"          ECMA version : {i.ecmaVersion}",
    s!"          ANSI version : {i.ansiVersion}",
    s!"  Response data format : {i.responseFormat}",
    s!"                Vendor : {i.vendor}",
    s!"               Product : {i.product}",
    s!"              Revision : {i.revision}" ]

/-- Shows what a device says about itself. -/
def showInquiry (target : Target) : ProgramM δ Unit :=
  withTarget target do
    say <| "\nSending SCSI INQUIRY command to the device " ++
      s!"{target.device.text} LUN:{target.lun}\n"
    let inquiry ← require (Engine.inquiry target.lun)
      fun e => .during .inquiry (.command e)
    sayAll (inquiryLines inquiry)

/-- Shows the size of a device's medium. -/
def showCapacity (target : Target) : ProgramM δ Unit :=
  withTarget target do
    say <| "\nSending SCSI READ CAPACITY command to the device " ++
      s!"{target.device.text} LUN:{target.lun}\n"
    let capacity ← require (Engine.readCapacity target.lun)
      fun e => .during .capacity (.command e)
    say <| s!"Reported capacity is {capacity.blockCount} blocks of size " ++
      s!"{capacity.blockLength} bytes ({Size.text capacity.totalOctets})."

/-- Dumps sectors of the medium. -/
def dumpMedium (target : Target) (first count : UInt32) (path : String) : ProgramM δ Unit :=
  withTarget target do
    LogM.info <| s!"Dumping {count} sectors from {Numeral.marked 0 first.toNat} to " ++
      Quoted.text path
    dumpSectors path first count fun sector buffer =>
      Engine.readSector target.lun sector buffer

/-- The first sectors of a run of octets, the last one filled up with zeros. -/
def cutSectors : Nat → List UInt8 → List (List UInt8)
  | 0, _ => []
  | count + 1, bs => zeroPad sectorSize bs :: cutSectors count (bs.drop sectorSize)

/-- The number of sectors that a run of octets fills. -/
def sectorsNeeded (bs : List UInt8) : Nat := (bs.length + (sectorSize - 1)) / sectorSize

/-- Writes sectors one after the other, from a sector on, until one fails. -/
def writeSectors (lun : UInt8) : UInt32 → List (List UInt8) → ServiceM δ Unit
  | _, [] => pure ()
  | sector, data :: rest => do
    require (Engine.writeSector lun sector data)
      fun e => .during (.writeSector sector) (.command e)
    writeSectors lun (sector + 1) rest

/-- The content of a file that is to be written, with its number of sectors. -/
def inputSectors (folder : Folder) (path : String) :
    Except Failure (List UInt8 × UInt32) := do
  let place ← (folder.openFile path).mapError fun e => .during (.openFile path) (.file e)
  let input ← (folder.readAll place).mapError .file
  if input.isEmpty then throw (.inputEmpty path)
  else if sectorsNeeded input > 0xFFFFFFFF then throw (.inputTooLarge path)
  else pure (input, UInt32.ofNat (sectorsNeeded input))

/-- Writes a file to sectors of the medium. Everything that can be checked without the device is
checked before it is opened. -/
def writeMedium (target : Target) (first : UInt32) (path : String) : ProgramM δ Unit := do
  let desk ← desk
  let (input, count) ← ended (inputSectors desk.folder path)
  let range ← ended ((SectorRange.make first count).mapError .range)
  withTarget target do
    LogM.info <| s!"Writing {count} sectors from {Quoted.text path} at " ++
      Numeral.marked 0 first.toNat
    writeSectors target.lun range.first (cutSectors range.count.toNat input)
    LogM.info s!"Wrote {count} sectors"

end PlayerLink
