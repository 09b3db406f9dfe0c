import PlayerLink.Layout

/-!
# The commands

A command block is what a device executes: up to sixteen octets, the first of which names the
operation, the number of octets that count, and the logical unit that is meant.

Two families of commands share the bulk-only transport. The SCSI ones name the logical unit in
the three high bits of octet 1 and put the most significant octet of an address first. The
vendor ones carry a fixed marker in octet 1, put the least significant octet first, and all
claim a length of eleven; players refuse the SCSI order in them.
-/

namespace PlayerLink

/-! ### Blocks -/

/-- A command as it is put into a wrapper. -/
structure CommandBlock where
  octets : Field 16
  length : UInt8
  lun : UInt8 := 0
  deriving DecidableEq, Repr

namespace CommandBlock

/-- A wrapper has room for sixteen octets, so a block must not claim to have more. -/
def Fits (b : CommandBlock) : Prop := b.length ≤ 16

instance (b : CommandBlock) : Decidable b.Fits := inferInstanceAs (Decidable (b.length ≤ 16))

/-- The complaint about a block that claims to be longer than a wrapper has room for. -/
def tooLong : String := "Command block too long"

/-- A block of given octets, filled up with zeros, for logical unit 0. -/
def raw (octets : List UInt8) (length : UInt8) : CommandBlock where
  octets := Field.ofList 16 octets
  length

end CommandBlock

/-! ### Commands -/

/-- Memory of a player is read and written in sectors of this many octets. -/
def sectorSize : Nat := 512

/-- Which view of the flash memory a vendor sector read goes through. -/
inductive FlashArea where
  /-- Through the flash layer, as the player's own firmware sees it. -/
  | logical
  /-- Raw flash pages. -/
  | physical
  deriving DecidableEq, Repr

/-- A command with its arguments. -/
inductive Command where
  | inquiry (lun allocation : UInt8)
  | capacity (lun : UInt8)
  | read (lun : UInt8) (address : UInt32)
  | write (lun : UInt8) (address : UInt32)
  | identify
  | initialise
  | readSector (lun : UInt8) (address : UInt32) (area : FlashArea)
  | readMemory (sector length : UInt32)
  | detach
  | enter (parameter : UInt16)
  deriving DecidableEq, Repr

namespace Command

/-- The octet that names the operation. -/
def opcode : Command → UInt8
  | inquiry .. => 0x12
  | capacity .. => 0x25
  | read .. => 0x28
  | write .. => 0x2A
  | identify => 0xCC
  | initialise => 0xCB
  | readSector _ _ .logical => 0x08
  | readSector _ _ .physical => 0x09
  | readMemory .. => 0x05
  | detach => 0x16
  | enter .. => 0x20

/-- Stands in octet 1 of every vendor command. -/
def vendorMarker : UInt8 := 0x80

/-- The logical unit as SCSI commands carry it, in the three high bits. -/
def unitBits (lun : UInt8) : UInt8 := (lun &&& 0x07) <<< 5

/-- Octet 1 of the block. -/
def target : Command → UInt8
  | inquiry lun _ | capacity lun | read lun _ | write lun _ => unitBits lun
  | _ => vendorMarker

/-- The octets from octet 2 on, up to the last one that is not zero by format. -/
def arguments : Command → List UInt8
  | inquiry _ allocation => [0, 0, allocation]
  | capacity _ => []
  | read _ address | write _ address => Word.be32 address ++ [0, 0, 1]
  | readSector _ address _ => Word.le32 address
  | readMemory sector length => Word.le32 sector ++ Word.le32 length
  | enter parameter => Word.le16 parameter
  | identify | initialise | detach => []

/-- How many octets of the block count. -/
def length : Command → UInt8
  | inquiry .. => 6
  | capacity .. | read .. | write .. => 10
  | _ => 11

/-- The logical unit that the wrapper names: the command's own where it has one, else 0. -/
def lun : Command → UInt8
  | inquiry lun _ | capacity lun | read lun _ | write lun _ | readSector lun _ _ => lun
  | _ => 0

/-- The block that goes into the wrapper. -/
def block (c : Command) : CommandBlock where
  octets := Field.ofList 16 (c.opcode :: c.target :: c.arguments)
  length := c.length
  lun := c.lun

theorem length_le (c : Command) : c.length ≤ 16 := by
  unfold length
  split <;> decide

theorem block_fits (c : Command) : c.block.Fits := c.length_le

end Command

end PlayerLink
