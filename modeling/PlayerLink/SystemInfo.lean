import PlayerLink.Engine.Operations
import PlayerLink.Firmware.Error

/-!
# System information in a player's memory

The boot code of a player keeps a block of 192 octets in memory: a mark, what it found out
about the hardware, and what it found out about the firmware. A player that does not allow
general reads of its memory answers every one of them with this block, so a read at sector 0
tells which kind it is.
-/

namespace PlayerLink

/-- What the boot code found out about one half of the player. -/
structure ScanFrame where
  /-- Two letters. -/
  kind : Field 2
  data : Field 90
  deriving DecidableEq, Repr

/-- How a frame fills its octets. -/
def ScanFrame.layout : Layout ScanFrame :=
  ((Layout.field 2).pair (Layout.field 90)).via (fun f => (f.kind, f.data))
    (fun (kind, data) => { kind, data }) (fun _ => rfl) (fun _ => rfl)

/-- The letters of a frame as text. -/
def ScanFrame.kindText (f : ScanFrame) : String :=
  String.ofList (Text.Utf8.decode f.kind.toList)

/-- The block that the boot code keeps in memory. -/
structure SystemInfo where
  magic : Field 8
  hardware : ScanFrame
  firmware : ScanFrame
  deriving DecidableEq, Repr

namespace SystemInfo

/-- How the block fills its octets. -/
def layout : Layout SystemInfo :=
  ((Layout.field 8).pair <| ScanFrame.layout.pair ScanFrame.layout).via
    (fun i => (i.magic, i.hardware, i.firmware))
    (fun (magic, hardware, firmware) => { magic, hardware, firmware })
    (fun _ => rfl) (fun _ => rfl)

/-- The block fills this many octets. -/
def size : Nat := 192

theorem size_layout : layout.size = size := rfl

/-- The block is kept in this sector of the memory. -/
def sector : UInt32 := 4

/-- The mark, `SYS INFO`, and the letters of the first frame, `HW`. -/
def mark : List UInt8 := [0x53, 0x59, 0x53, 0x20, 0x49, 0x4E, 0x46, 0x4F, 0x48, 0x57]

/-- Whether a run of octets starts like the block. -/
def IsMarked (bs : List UInt8) : Prop := bs.take mark.length = mark

instance (bs : List UInt8) : Decidable (IsMarked bs) := inferInstanceAs (Decidable (_ = _))

/-- The octets of the block. -/
def toOctets (i : SystemInfo) : List UInt8 := layout.encode i

/-- Reads the block from the start of a run that holds all of it. -/
def ofOctets (bs : List UInt8) : Except FirmwareError SystemInfo :=
  if IsMarked bs ∧ size ≤ bs.length then .ok (layout.decode bs) else .error .badSystemInfo

/-- The mark as text. -/
def magicText (i : SystemInfo) : String := String.ofList (Text.Utf8.decode i.magic.toList)

variable {σ : Type} [BulkLink σ]

/-- Reads a block's worth of memory from a sector on. -/
def readBlock (sector : UInt32) : EngineM σ (Except FirmwareError (List UInt8)) := do
  let filled ← Engine.readMemory sector (List.replicate size 0)
  match filled.result with
  | .error e => pure (.error (.command e))
  | .ok () => pure (.ok filled.buffer)

/-- Reads the block from a player. -/
def read : EngineM σ (Except FirmwareError SystemInfo) := do
  match ← readBlock sector with
  | .error e => pure (.error e)
  | .ok bs => pure (ofOctets bs)

/-- Whether a player allows general reads of its memory. -/
def allowsMemoryReads : EngineM σ (Except FirmwareError Bool) := do
  match ← readBlock 0 with
  | .error e => pure (.error e)
  | .ok bs =>
    let supported := decide ¬ IsMarked bs
    LogM.debug s!"General RAM access supported: {supported}"
    pure (.ok supported)

end SystemInfo

end PlayerLink
