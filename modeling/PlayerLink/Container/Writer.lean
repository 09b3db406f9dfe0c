import PlayerLink.Container.Header
import PlayerLink.Files.Medium
import PlayerLink.Log
import PlayerLink.Text.Numeral

/-!
# Writing containers

A writer only appends. The data of an entry go right behind the data placed last, its slot is
the first one that is free, and the header is written again after each entry.

`append` writes the data and records the entry. `stream` writes data alone, for a caller that
gets them in pieces and records the entry afterwards with `record`. An entry that finds no slot
is refused before the medium is touched, and so are data that no container could hold. Whether
data fit behind those placed so far is asked when the entry is recorded.
-/

namespace PlayerLink

open Text

/-- A container on its way to a medium. -/
structure ContainerWriter where
  medium : Medium
  header : ContainerHeader
  deriving DecidableEq, Repr

/-- Steps of a writer that may fail. What was done before a failure stays done. -/
abbrev WriterM := ExceptT ContainerError (StateT ContainerWriter LogM)

namespace ContainerWriter

/-- A call on the medium. -/
def onMedium (call : StateM Medium (Except FileError Unit)) : WriterM Unit :=
  fun w =>
    let (outcome, medium) := call w.medium
    pure (outcome.mapError .file, { w with medium })

/-- Writes the header in front of the data. -/
def writeHeader : WriterM Unit := do
  onMedium (Medium.seek 0)
  let w ← get
  onMedium (Medium.writeAll w.header.toOctets)
  onMedium Medium.flush

/-- A writer for an empty container, whose header is not written yet. -/
def on (medium : Medium) (vendorId productId : UInt16) : ContainerWriter where
  medium
  header := .empty vendorId productId

/-- Moves to where the data of the next entry go. -/
def seekData : WriterM Unit := do
  let w ← get
  onMedium (Medium.seek w.header.nextOffset)

/-- Writes data at the position. -/
def writeData (data : List UInt8) : WriterM Unit := onMedium (Medium.writeAll data)

/-- Writes pieces one after the other to where the data of the next entry go. -/
def stream (pieces : List (List UInt8)) : WriterM Unit := do
  seekData
  pieces.forM writeData

/-- Records an entry whose data are in place and gives its slot. Its length and its sum are the
caller's; its offset is set here. -/
def record (entry : ContainerEntry) : WriterM Nat := do
  let w ← get
  match w.header.freeSlot with
  | none => throw .directoryFull
  | some slot =>
    let offset := w.header.nextOffset
    if offset + entry.length.toNat > 0xFFFFFFFF then throw (.tooLarge entry.length.toNat)
    else
      let placed := { entry with offset := UInt32.ofNat offset }
      set { w with header := w.header.place slot placed }
      writeHeader
      LogM.debug <| s!"AFI slot {slot}: offset {Numeral.marked 0 offset} " ++
        s!"length {placed.length} checksum {Numeral.marked 8 placed.checksum.toNat}"
      pure slot

/-- Writes the data of an entry and records it. -/
def append (entry : ContainerEntry) (data : List UInt8) : WriterM Nat := do
  if data.length > 0xFFFFFFFF then throw (.tooLarge data.length)
  else
    let w ← get
    if w.header.freeSlot.isNone then throw .directoryFull
    else
      seekData
      writeData data
      record { entry with
        length := UInt32.ofNat data.length
        checksum := Checksum.sum32 data }

/-- Makes sure that everything is kept. -/
def finish : WriterM Unit := onMedium Medium.flush

end ContainerWriter

end PlayerLink
