import PlayerLink.Checksum
import PlayerLink.Files.Error
import PlayerLink.Layout

/-!
# Containers

A container holds firmware parts in one file: a header of 4096 octets with 126 slots, and the
data of the entries behind it. A slot gives the name of a part, the address it is loaded to,
where its data start in the file, how long they are, and their sum. A slot whose name starts
with a zero is unused. The header is guarded by a sum over everything before it.
-/

namespace PlayerLink

/-- One slot of a container. -/
structure ContainerEntry where
  filename : Field 11
  kind : UInt8
  address : UInt32
  /-- In octets, from the start of the container. -/
  offset : UInt32
  length : UInt32
  reserved : Field 4
  checksum : UInt32
  deriving DecidableEq, Repr

namespace ContainerEntry

/-- How an entry fills its octets. -/
def layout : Layout ContainerEntry :=
  ((Layout.field 11).pair <| Layout.octet.pair <| Layout.word32.pair <| Layout.word32.pair <|
    Layout.word32.pair <| (Layout.field 4).pair Layout.word32).via
    (fun e => (e.filename, e.kind, e.address, e.offset, e.length, e.reserved, e.checksum))
    (fun (filename, kind, address, offset, length, reserved, checksum) =>
      { filename, kind, address, offset, length, reserved, checksum })
    (fun _ => rfl) (fun _ => rfl)

/-- An entry that has no place yet. -/
def unplaced (filename : Field 11) (kind : UInt8) (address : UInt32) : ContainerEntry where
  filename
  kind
  address
  offset := 0
  length := 0
  reserved := .zero 4
  checksum := 0

/-- An unused slot. -/
def blank : ContainerEntry := unplaced (.zero 11) 0 0

/-- Whether the slot is used. -/
def IsUsed (e : ContainerEntry) : Prop := e.filename.first ≠ 0

instance (e : ContainerEntry) : Decidable e.IsUsed := inferInstanceAs (Decidable (_ ≠ _))

/-- The place right after the data. -/
def endOffset (e : ContainerEntry) : Nat := e.offset.toNat + e.length.toNat

end ContainerEntry

/-- Why a container could not be read or written. -/
inductive ContainerError where
  | directoryFull
  | tooLarge (size : Nat)
  | badMagic
  | file (cause : FileError)
  deriving DecidableEq, Repr

/-- The number of slots in a container. -/
def containerSlots : Nat := 126

namespace ContainerError

/-- The text of a failure. -/
def message : ContainerError → String
  | directoryFull => s!"all {containerSlots} directory slots are used"
  | tooLarge size => s!"entry data of {size} bytes does not fit the container"
  | badMagic => "not an AFI container"
  | file _ => "failed to write container"

/-- The texts of what caused a failure. -/
def causes : ContainerError → List String
  | file cause => [cause.message]
  | _ => []

end ContainerError

/-- The header of a container. -/
structure ContainerHeader where
  magic : Field 4
  vendorId : UInt16
  productId : UInt16
  reserved₁ : Field 24
  entries : Vector ContainerEntry containerSlots
  reserved₂ : Field 28
  /-- The sum over every octet before this word. -/
  checksum : UInt32
  deriving DecidableEq, Repr

namespace ContainerHeader

/-- A header fills this many octets. -/
def size : Nat := 4096

/-- The octets that the sum covers. -/
def summed : Nat := size - 4

/-- How a header fills its octets. -/
def layout : Layout ContainerHeader :=
  ((Layout.field 4).pair <| Layout.word16.pair <| Layout.word16.pair <|
    (Layout.field 24).pair <| (Layout.many containerSlots ContainerEntry.layout).pair <|
    (Layout.field 28).pair Layout.word32).via
    (fun h => (h.magic, h.vendorId, h.productId, h.reserved₁, h.entries, h.reserved₂,
      h.checksum))
    (fun (magic, vendorId, productId, reserved₁, entries, reserved₂, checksum) =>
      { magic, vendorId, productId, reserved₁, entries, reserved₂, checksum })
    (fun _ => rfl) (fun _ => rfl)

theorem size_layout : layout.size = size := rfl

/-- The octets of a header. -/
def toOctets (h : ContainerHeader) : List UInt8 := layout.encode h

/-- A container starts with these letters, `AFI`. -/
def mark : List UInt8 := [0x41, 0x46, 0x49]

/-- Reads a header from the start of a run that holds all of it. -/
def ofOctets (bs : List UInt8) : Except ContainerError ContainerHeader :=
  if bs.take mark.length = mark ∧ size ≤ bs.length then .ok (layout.decode bs)
  else .error .badMagic

/-- The sum over the header. -/
def computedChecksum (h : ContainerHeader) : UInt32 := Checksum.sum32 (h.toOctets.take summed)

/-- Whether the sum over the header is the stored one. -/
def SumOk (h : ContainerHeader) : Prop := h.computedChecksum = h.checksum

instance (h : ContainerHeader) : Decidable h.SumOk := inferInstanceAs (Decidable (_ = _))

/-- The header with its sum set right. -/
def repaired (h : ContainerHeader) : ContainerHeader := { h with checksum := h.computedChecksum }

/-- The header of a container without entries. -/
def empty (vendorId productId : UInt16) : ContainerHeader :=
  repaired
    { magic := .ofList 4 mark
      vendorId
      productId
      reserved₁ := .zero 24
      entries := .replicate containerSlots .blank
      reserved₂ := .zero 28
      checksum := 0 }

/-- The used entries in the order of their slots. -/
def used (h : ContainerHeader) : List ContainerEntry :=
  h.entries.toList.filter fun e => e.IsUsed

/-- Where the data of the next entry go: after the data placed last, or right after the header
if there are none. -/
def nextOffset (h : ContainerHeader) : Nat :=
  (h.used.map ContainerEntry.endOffset).max?.getD size

/-- The first unused slot. -/
def freeSlot (h : ContainerHeader) : Option Nat :=
  h.entries.toList.findIdx? fun e => ¬ e.IsUsed

/-- The header with an entry in a slot and its sum set right. -/
def place (h : ContainerHeader) (slot : Nat) (e : ContainerEntry) : ContainerHeader :=
  repaired { h with entries := h.entries.setIfInBounds slot e }

end ContainerHeader

end PlayerLink
