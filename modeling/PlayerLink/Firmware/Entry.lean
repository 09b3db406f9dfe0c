import PlayerLink.Checksum
import PlayerLink.Command
import PlayerLink.Layout
import PlayerLink.Text.Numeral
import PlayerLink.Text.Stored

/-!
# Entries of the firmware directory

A firmware image is a header with a directory, followed by the content of the entries. An
entry of 32 octets gives the name of a part, where it starts, counted in sectors from the
header on, and how long it is in octets. A slot whose name starts with a zero is unused.
-/

namespace PlayerLink

open Text

/-- One slot of the firmware directory. -/
structure DirectoryEntry where
  /-- Eight characters and an extension of three, without the dot. -/
  filename : Field 11
  kind : UInt8
  reserved₁ : Field 2
  version : UInt16
  /-- In sectors, from the header on. -/
  offset : UInt32
  /-- In octets. -/
  length : UInt32
  reserved₂ : Field 4
  checksum : UInt32
  deriving DecidableEq, Repr

namespace DirectoryEntry

/-- How an entry fills its octets. -/
def layout : Layout DirectoryEntry :=
  ((Layout.field 11).pair <| Layout.octet.pair <| (Layout.field 2).pair <|
    Layout.word16.pair <| Layout.word32.pair <| Layout.word32.pair <|
    (Layout.field 4).pair Layout.word32).via
    (fun e => (e.filename, e.kind, e.reserved₁, e.version, e.offset, e.length, e.reserved₂,
      e.checksum))
    (fun (filename, kind, reserved₁, version, offset, length, reserved₂, checksum) =>
      { filename, kind, reserved₁, version, offset, length, reserved₂, checksum })
    (fun _ => rfl) (fun _ => rfl)

/-- An entry fills 32 octets. -/
theorem size_layout : layout.size = 32 := rfl

/-- Whether the slot is used. -/
def IsUsed (e : DirectoryEntry) : Prop := e.filename.first ≠ 0

instance (e : DirectoryEntry) : Decidable e.IsUsed := inferInstanceAs (Decidable (_ ≠ _))

/-- The name with a dot before the extension, if there is one. -/
def name (e : DirectoryEntry) : String :=
  let base := stored (e.filename.toList.take 8)
  let extension := storedChars (e.filename.toList.drop 8)
  if extension.isEmpty then base else base ++ "." ++ String.ofList extension

/-- The number of sectors that the content takes. -/
def sectorCount (e : DirectoryEntry) : Nat := (e.length.toNat + (sectorSize - 1)) / sectorSize

/-- The entry on one line. -/
def text (e : DirectoryEntry) : String :=
  s!"{Numeral.alignLeft 12 e.name} attr {Numeral.marked 2 e.kind.toNat} " ++
    s!"ver {Numeral.marked 4 e.version.toNat} offset {Numeral.marked 8 e.offset.toNat} " ++
    s!"length {Numeral.alignRight 8 (toString e.length.toNat)} " ++
    s!"checksum {Numeral.marked 8 e.checksum.toNat}"

/-- Whether data agree with the checksum of an entry. Octets past its length do not count. -/
def Verifies (e : DirectoryEntry) (data : List UInt8) : Prop :=
  Checksum.sum32 (data.take e.length.toNat) = e.checksum

instance (e : DirectoryEntry) (data : List UInt8) : Decidable (e.Verifies data) :=
  inferInstanceAs (Decidable (_ = _))

end DirectoryEntry

end PlayerLink
