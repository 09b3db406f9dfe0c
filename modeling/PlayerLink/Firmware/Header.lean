import PlayerLink.Firmware.Entry
import PlayerLink.Firmware.Error
import PlayerLink.Text.Stored

/-!
# The firmware header

The header of a firmware image fills sixteen sectors: one of descriptive fields and fifteen of
directory entries. Two sums guard it, one over the directory and one over the first sector,
which includes the sum of the directory.

`FirmwareHeader.layout` gives every octet its field, so a header that was read can be written
back exactly.
-/

namespace PlayerLink

open Text

/-- Settings that the applications of a player share. -/
structure CommonValues where
  magic : UInt16
  systemTime : UInt32
  clockRate : UInt16
  contrast : UInt8
  lightTime : UInt8
  standbyTime : UInt8
  sleepTime : UInt8
  language : UInt8
  replayMode : UInt8
  onlineMode : UInt8
  batteryType : UInt8
  radio : UInt8
  deriving DecidableEq, Repr

/-- How the shared settings fill their octets. -/
def CommonValues.layout : Layout CommonValues :=
  (Layout.word16.pair <| Layout.word32.pair <| Layout.word16.pair <| Layout.octet.pair <|
    Layout.octet.pair <| Layout.octet.pair <| Layout.octet.pair <| Layout.octet.pair <|
    Layout.octet.pair <| Layout.octet.pair <| Layout.octet.pair Layout.octet).via
    (fun c => (c.magic, c.systemTime, c.clockRate, c.contrast, c.lightTime, c.standbyTime,
      c.sleepTime, c.language, c.replayMode, c.onlineMode, c.batteryType, c.radio))
    (fun (magic, systemTime, clockRate, contrast, lightTime, standbyTime, sleepTime, language,
        replayMode, onlineMode, batteryType, radio) =>
      { magic, systemTime, clockRate, contrast, lightTime, standbyTime, sleepTime, language,
        replayMode, onlineMode, batteryType, radio })
    (fun _ => rfl) (fun _ => rfl)

/-- A text field with its length as the player states it. -/
structure CountedText (n : Nat) where
  length : UInt8
  field : Field n
  deriving DecidableEq, Repr

/-- How a counted text fills its octets. -/
def CountedText.layout (n : Nat) : Layout (CountedText n) :=
  (Layout.octet.pair (Layout.field n)).via (fun t => (t.length, t.field))
    (fun (length, field) => { length, field }) (fun _ => rfl) (fun _ => rfl)

/-- The number of slots in the directory of a header. -/
def directorySlots : Nat := 240

/-- The header of a firmware image. -/
structure FirmwareHeader where
  magic : UInt32
  version : Field 4
  date : Field 4
  vendorId : UInt16
  productId : UInt16
  directoryChecksum : UInt32
  reserved₁ : Field 12
  description : Field 32
  producer : Field 32
  deviceName : Field 32
  reserved₂ : Field 128
  usbAttributes : Field 8
  usbIdentification : Field 16
  usbProductVersion : Field 4
  reserved₃ : Field 4
  /-- The length octet of the USB string descriptor, which counts itself and the type. -/
  stringLength : UInt8
  stringType : UInt8
  stringUnits : Field 46
  common : CommonValues
  reserved₄ : Field 15
  mtpManufacturer : CountedText 32
  mtpProduct : CountedText 32
  mtpVersion : CountedText 16
  mtpSerial : CountedText 16
  mtpVendorId : UInt16
  mtpProductId : UInt16
  reserved₅ : Field 38
  headerChecksum : UInt16
  directory : Vector DirectoryEntry directorySlots
  deriving DecidableEq, Repr

namespace FirmwareHeader

/-- Every header starts with this word. -/
def mark : UInt32 := 0x0FF0AA55

/-- The number of sectors that a header fills. -/
def sectors : Nat := 16

/-- The number of octets that a header fills. -/
def size : Nat := sectors * sectorSize

/-- The sum over the first sector covers the octets before itself. -/
def summed : Nat := 510

/-- How the directory fills its octets. -/
def directoryLayout : Layout (Vector DirectoryEntry directorySlots) :=
  .many directorySlots DirectoryEntry.layout

/-- How a header fills its octets. -/
def layout : Layout FirmwareHeader :=
  (Layout.word32.pair <| (Layout.field 4).pair <| (Layout.field 4).pair <|
    Layout.word16.pair <| Layout.word16.pair <| Layout.word32.pair <| (Layout.field 12).pair <|
    (Layout.field 32).pair <| (Layout.field 32).pair <| (Layout.field 32).pair <|
    (Layout.field 128).pair <| (Layout.field 8).pair <| (Layout.field 16).pair <|
    (Layout.field 4).pair <| (Layout.field 4).pair <| Layout.octet.pair <| Layout.octet.pair <|
    (Layout.field 46).pair <| CommonValues.layout.pair <| (Layout.field 15).pair <|
    (CountedText.layout 32).pair <| (CountedText.layout 32).pair <|
    (CountedText.layout 16).pair <| (CountedText.layout 16).pair <| Layout.word16.pair <|
    Layout.word16.pair <| (Layout.field 38).pair <| Layout.word16.pair directoryLayout).via
    (fun h => (h.magic, h.version, h.date, h.vendorId, h.productId, h.directoryChecksum,
      h.reserved₁, h.description, h.producer, h.deviceName, h.reserved₂, h.usbAttributes,
      h.usbIdentification, h.usbProductVersion, h.reserved₃, h.stringLength, h.stringType,
      h.stringUnits, h.common, h.reserved₄, h.mtpManufacturer, h.mtpProduct, h.mtpVersion,
      h.mtpSerial, h.mtpVendorId, h.mtpProductId, h.reserved₅, h.headerChecksum, h.directory))
    (fun (magic, version, date, vendorId, productId, directoryChecksum, reserved₁, description,
        producer, deviceName, reserved₂, usbAttributes, usbIdentification, usbProductVersion,
        reserved₃, stringLength, stringType, stringUnits, common, reserved₄, mtpManufacturer,
        mtpProduct, mtpVersion, mtpSerial, mtpVendorId, mtpProductId, reserved₅, headerChecksum,
        directory) =>
      { magic, version, date, vendorId, productId, directoryChecksum, reserved₁, description,
        producer, deviceName, reserved₂, usbAttributes, usbIdentification, usbProductVersion,
        reserved₃, stringLength, stringType, stringUnits, common, reserved₄, mtpManufacturer,
        mtpProduct, mtpVersion, mtpSerial, mtpVendorId, mtpProductId, reserved₅, headerChecksum,
        directory })
    (fun _ => rfl) (fun _ => rfl)

theorem size_layout : layout.size = size := rfl

/-- The octets of a header. -/
def toOctets (h : FirmwareHeader) : List UInt8 := layout.encode h

/-- The word at the start of a run, 0 if the run is shorter than a word. -/
def leadingWord (bs : List UInt8) : UInt32 := if 4 ≤ bs.length then Word.ofLe32 bs else 0

/-- Reads a header from the start of a run. The run must start with the mark and hold a whole
header. -/
def ofOctets (bs : List UInt8) : Except FirmwareError FirmwareHeader :=
  if leadingWord bs = mark ∧ size ≤ bs.length then .ok (layout.decode bs)
  else .error (.badMagic (leadingWord bs))

/-! ### Checksums -/

/-- The sum over the first sector. -/
def computedHeaderChecksum (h : FirmwareHeader) : UInt16 :=
  Checksum.sum16 (h.toOctets.take summed)

/-- The sum over the directory. -/
def computedDirectoryChecksum (h : FirmwareHeader) : UInt32 :=
  Checksum.sum32 (directoryLayout.encode h.directory)

/-- Whether the sum over the first sector is the stored one. -/
def HeaderSumOk (h : FirmwareHeader) : Prop := h.computedHeaderChecksum = h.headerChecksum

/-- Whether the sum over the directory is the stored one. -/
def DirectorySumOk (h : FirmwareHeader) : Prop :=
  h.computedDirectoryChecksum = h.directoryChecksum

instance (h : FirmwareHeader) : Decidable h.HeaderSumOk := inferInstanceAs (Decidable (_ = _))

instance (h : FirmwareHeader) : Decidable h.DirectorySumOk :=
  inferInstanceAs (Decidable (_ = _))

/-- The header with both sums set right, that of the directory first since the other covers
it. -/
def repaired (h : FirmwareHeader) : FirmwareHeader :=
  let h := { h with directoryChecksum := h.computedDirectoryChecksum }
  { h with headerChecksum := h.computedHeaderChecksum }

/-! ### The directory -/

/-- The used entries in the order of their slots. -/
def entries (h : FirmwareHeader) : List DirectoryEntry :=
  h.directory.toList.filter fun e => e.IsUsed

/-- The later of two entries, the first where they start in the same sector. -/
def laterEntry (last : Option DirectoryEntry) (e : DirectoryEntry) : Option DirectoryEntry :=
  match last with
  | none => some e
  | some l => if l.offset < e.offset then some e else some l

/-- The entry placed last; of several in the same sector the first one counts. -/
def lastEntry (h : FirmwareHeader) : Option DirectoryEntry := h.entries.foldl laterEntry none

/-- The number of sectors from the header to the end of the entry placed last, at most the
greatest sector number. -/
def imageSectors (h : FirmwareHeader) : UInt32 :=
  match h.lastEntry with
  | none => 0
  | some e => UInt32.ofNat (min (e.offset.toNat + e.sectorCount) 0xFFFFFFFF)

/-! ### Fields as text -/

/-- The version, such as `3.1.08.05`: the two halves of the first octet, then the others. -/
def versionText (h : FirmwareHeader) : String :=
  let shown (width : Nat) (b : UInt8) : String := Numeral.hexUpper width b.toNat
  let v := h.version
  s!"{shown 1 (v[0] >>> 4)}.{shown 1 (v[0] &&& 0x0F)}.{shown 2 v[1]}.{shown 1 v[2]}{shown 1 v[3]}"

/-- The date, year first; its digits are stored as they are shown. -/
def dateText (h : FirmwareHeader) : String :=
  let shown (b : UInt8) : String := Numeral.hexUpper 2 b.toNat
  let d := h.date
  s!"{shown d[0]}{shown d[1]}.{shown d[2]}.{shown d[3]}"

/-- The octets of the USB string that its descriptor counts, as far as there is room. -/
def stringOctets (h : FirmwareHeader) : List UInt8 :=
  h.stringUnits.toList.take (min (h.stringLength.toNat - 2) 46)

/-- The USB string without NULs at its end. -/
def usbString (h : FirmwareHeader) : String :=
  String.ofList (dropEndWhile (· = '\x00') (Utf16.decode (Utf16.units h.stringOctets)))

end FirmwareHeader

end PlayerLink
