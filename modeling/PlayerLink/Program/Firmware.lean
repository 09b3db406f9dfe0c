import PlayerLink.Container.Writer
import PlayerLink.Program.Dump

/-!
# Work on the firmware of a player

Showing the header, dumping sectors of the flash memory, and dumping the whole firmware to a
flat file or to a container with one entry for each used slot of the directory.
-/

namespace PlayerLink

open Text RunM

variable {δ : Type} [BulkLink δ]

/-- The sector of the header to work with. -/
def headerSector (lun : UInt8) (choice : HeaderChoice) : ServiceM δ UInt32 := do
  if ¬ choice.alternate then pure 0
  else
    say "Searching for alternate header..."
    onDesk (Desk.addBar { unit := .none, label := "sectors " })
    let found ← ExceptT.lift (Firmware.locateAlternate lun choice.limit)
    match ← ended (found.mapError fun e => .during .search (.firmware e)) with
    | none => throw .alternateMissing
    | some sector =>
      say s!"Alternate header found at sector {Numeral.marked 8 sector.toNat}\n"
      pure sector

/-- Reads the header that starts at a sector. -/
def fetchHeader (lun : UInt8) (start : UInt32) : ServiceM δ FirmwareHeader :=
  require (Firmware.readHeader lun start) .firmware

/-- The word for a sum that was checked. -/
def verdict (ok : Bool) : String := if ok then "OK" else "Error"

/-- The fields of a header, a line each. -/
def headerLines (h : FirmwareHeader) : List String :=
  let text {n : Nat} (f : Field n) : String := stored f.toList
  let c := h.common
  [ s!"               Version : {h.versionText}",
    s!"                  Date : {h.dateText}",
    s!"             Vendor ID : {Numeral.marked 4 h.vendorId.toNat}",
    s!"            Product ID : {Numeral.marked 4 h.productId.toNat}",
    s!"    Directory Checksum : {Numeral.marked 8 h.directoryChecksum.toNat} " ++
      s!"({verdict (decide h.DirectorySumOk)})",
    s!"   Firmware Descriptor : {text h.description}",
    s!"              Producer : {text h.producer}",
    s!"           Device Name : {text h.deviceName}",
    s!"         USB Attribute : {text h.usbAttributes}",
    s!"    USB Identification : {text h.usbIdentification}",
    s!"   USB Product Version : {text h.usbProductVersion}",
    s!"              USB Name : {h.usbString}",
    s!" MTP Manufacturer Info : {text h.mtpManufacturer.field}",
    s!"      MTP Product Info : {text h.mtpProduct.field}",
    s!"   MTP Product Version : {text h.mtpVersion.field}",
    s!"        MTP Product SN : {text h.mtpSerial.field}",
    s!"         MTP Vendor ID : {Numeral.marked 4 h.mtpVendorId.toNat}",
    s!"        MTP Product ID : {Numeral.marked 4 h.mtpProductId.toNat}",
    s!"       Header Checksum : {Numeral.marked 4 h.headerChecksum.toNat} " ++
      s!"({verdict (decide h.HeaderSumOk)})",
    "\nCommon Values:\n",
    s!" System Time (in 0.5s) : {Numeral.marked 8 c.systemTime.toNat}",
    s!"              RTC Rate : {c.clockRate}",
    s!"              Contrast : {c.contrast}",
    s!"            Light Time : {c.lightTime}",
    s!"          Standby Time : {c.standbyTime}",
    s!"            Sleep Time : {c.sleepTime}",
    s!"           Language ID : {c.language}",
    s!"           Replay Mode : {c.replayMode}",
    s!"           Online Mode : {c.onlineMode}",
    s!"          Battery Type : {c.batteryType}",
    s!"           FM Built In : {c.radio}" ]

/-- The used entries of a header, numbered, a line each. -/
def directoryLines (h : FirmwareHeader) : List String :=
  h.entries.zipIdx.map fun (e, i) => s!"{Numeral.alignRight 3 (toString i)} {e.text}"

/-- Shows the header of a player's firmware. -/
def headerInfo (service : ServiceTarget) (showDirectory : Bool) (choice : HeaderChoice) :
    ProgramM δ Unit :=
  withServiceMode service do
    let lun := service.target.lun
    let start ← headerSector lun choice
    say <| "\nReading ACTIONS firmware header from device " ++
      s!"{service.target.device.text} LUN:{lun}\n"
    let header ← fetchHeader lun start
    sayAll (headerLines header)
    if showDirectory then
      say "\nDirectory:\n"
      sayAll (directoryLines header)
      say s!"\nFirmware image spans {header.imageSectors} sectors."
    say ""

/-- Reads sectors of the flash memory for a dump. -/
def flashReader (lun : UInt8) (area : FlashArea) : SectorReader (Engine (Session δ)) :=
  fun sector buffer => Engine.readFlash lun sector area buffer

/-- The name of an area in the log. -/
def areaLabel : FlashArea → String
  | .logical => "Logical"
  | .physical => "Physical"

/-- Dumps sectors of the flash memory. -/
def dumpFlash (service : ServiceTarget) (area : FlashArea) (first count : UInt32)
    (path : String) : ProgramM δ Unit :=
  withServiceMode service do
    LogM.info <| s!"Dumping {count} {areaLabel area} sectors from " ++
      s!"{Numeral.marked 0 first.toNat} to {Quoted.text path}"
    dumpSectors path first count (flashReader service.target.lun area)

/-- Dumps the whole firmware to a flat file. -/
def dumpImage (service : ServiceTarget) (choice : HeaderChoice) (path : String) :
    ProgramM δ Unit :=
  withServiceMode service do
    let lun := service.target.lun
    let start ← headerSector lun choice
    let header ← fetchHeader lun start
    let sectors := header.imageSectors
    if sectors = 0 then throw .directoryEmpty
    else
      LogM.info s!"Dumping firmware image of {sectors} sectors to {Quoted.text path}"
      dumpSectors path start sectors (flashReader lun .logical)

/-- Steps of a run on an open device and a container. -/
abbrev PackingM (δ : Type) :=
  ExceptT Failure (StateT ContainerWriter (BesideM (Engine (Session δ)) Desk))

/-- A step of the writer. -/
def packing {α : Type} (step : WriterM α) : PackingM δ α :=
  ExceptT.mk fun writer => do
    let (outcome, writer) ← step.run writer
    pure (outcome.mapError .container, writer)

/-- Steps on the device, which leave the container alone. -/
def apart {α : Type} (steps : ServiceM δ α) : PackingM δ α :=
  ExceptT.mk fun writer => do pure (← steps.run, writer)

/-- Reads one entry of the firmware and appends it to the container. -/
def packEntry (lun : UInt8) (start : UInt32) (e : DirectoryEntry) : PackingM δ Unit := do
  let data ← apart <| require (Firmware.readEntry lun start e)
    fun cause => .during (.readEntry e.name) (.firmware cause)
  let slot ← packing (ContainerWriter.append (.unplaced e.filename e.kind 0) data)
  apart <| say <| s!"{Numeral.alignRight 3 (toString slot)} {Numeral.alignLeft 12 e.name} " ++
    s!"{Numeral.alignRight 8 (toString data.length)} bytes  " ++
    s!"checksum {verdict (decide (e.Verifies data))}"

/-- Packs entries one after the other and closes the container. -/
def packEntries (lun : UInt8) (start : UInt32) (entries : List DirectoryEntry) :
    PackingM δ Unit := do
  entries.forM (packEntry lun start)
  packing ContainerWriter.finish

/-- Dumps every used entry of the firmware to a container. What was packed before a failure
stays in it. -/
def dumpContainer (service : ServiceTarget) (choice : HeaderChoice) (path : String) :
    ProgramM δ Unit :=
  withServiceMode service do
    let lun := service.target.lun
    let device := service.target.device
    let start ← headerSector lun choice
    let header ← fetchHeader lun start
    let desk ← desk
    let cannotCreate (e : ContainerError) : Failure :=
      .during (.createFile path) (.container e)
    let place ← ended ((desk.folder.creatable path).mapError fun e => cannotCreate (.file e))
    let writer := ContainerWriter.on (Folder.medium place) device.vendorId device.productId
    let (started, writer) ← (ContainerWriter.writeHeader.run writer : LogM _)
    let (outcome, writer) ← match started with
      | .error e => pure (.error (cannotCreate e), writer)
      | .ok () => ExceptT.lift ((packEntries lun start header.entries).run writer)
    onDesk fun desk =>
      { desk with folder := desk.folder.keep place writer.medium.content }
    ended outcome
    LogM.info s!"Wrote AFI container to {Quoted.text path}"

end PlayerLink
