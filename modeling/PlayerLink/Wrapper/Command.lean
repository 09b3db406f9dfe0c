import PlayerLink.Command

/-!
# Command wrappers

Every command travels to the device in a wrapper of exactly 31 octets: a signature, the tag
that the device has to repeat, the length and direction of the data that follow, the logical
unit, and the command block.

`CommandWrapper.ofOctets?` reads a packet as a device would. Of the octet that holds the
direction only the top bit counts, so it is the one octet that writing may not reproduce.
-/

namespace PlayerLink

/-- Which way the data of a command go. -/
inductive Direction where
  | input
  | output
  deriving DecidableEq, Repr

namespace Direction

/-- The flags octet of a wrapper. -/
def flags : Direction → UInt8
  | input => 0x80
  | output => 0x00

/-- Only the top bit of the flags octet counts. -/
def ofFlags (flags : UInt8) : Direction := if flags &&& 0x80 ≠ 0 then input else output

@[simp] theorem ofFlags_flags (d : Direction) : ofFlags d.flags = d := by
  cases d <;> decide

end Direction

/-- A command on its way to the device. -/
structure CommandWrapper where
  tag : UInt32
  dataLength : UInt32
  direction : Direction
  lun : UInt8
  commandLength : UInt8
  command : Field 16
  deriving DecidableEq, Repr

namespace CommandWrapper

/-- Marks a packet as a command wrapper. -/
def signature : UInt32 := 0x43425355

/-- A command wrapper is always this long. -/
def size : Nat := 31

/-- What a packet of the right length holds, signature and flags included. -/
structure Packet where
  signature : UInt32
  tag : UInt32
  dataLength : UInt32
  flags : UInt8
  lun : UInt8
  commandLength : UInt8
  command : Field 16

namespace Packet

/-- How a packet fills its octets. -/
def layout : Layout Packet :=
  (Layout.word32.pair <| Layout.word32.pair <| Layout.word32.pair <| Layout.octet.pair <|
    Layout.octet.pair <| Layout.octet.pair <| Layout.field 16).via
    (fun p => (p.signature, p.tag, p.dataLength, p.flags, p.lun, p.commandLength, p.command))
    (fun (signature, tag, dataLength, flags, lun, commandLength, command) =>
      { signature, tag, dataLength, flags, lun, commandLength, command })
    (fun _ => rfl) (fun _ => rfl)

end Packet

/-- Wraps a block that fits. -/
def wrap (tag dataLength : UInt32) (direction : Direction) (block : CommandBlock)
    (_fits : block.Fits) : CommandWrapper where
  tag
  dataLength
  direction
  lun := block.lun
  commandLength := block.length
  command := block.octets

/-- The octet that names the operation. -/
def opcode (w : CommandWrapper) : UInt8 := w.command.first

/-- The operation that a wrapper names is that of the command in it. -/
@[simp] theorem opcode_wrap (tag dataLength : UInt32) (direction : Direction) (c : Command) :
    (wrap tag dataLength direction c.block c.block_fits).opcode = c.opcode := rfl

/-- The packet that carries a wrapper. -/
def toPacket (w : CommandWrapper) : Packet where
  signature
  tag := w.tag
  dataLength := w.dataLength
  flags := w.direction.flags
  lun := w.lun
  commandLength := w.commandLength
  command := w.command

/-- The octets of a wrapper. -/
def toOctets (w : CommandWrapper) : List UInt8 := Packet.layout.encode w.toPacket

/-- The wrapper that a packet carries. -/
def ofPacket (p : Packet) : CommandWrapper where
  tag := p.tag
  dataLength := p.dataLength
  direction := .ofFlags p.flags
  lun := p.lun
  commandLength := p.commandLength
  command := p.command

/-- Reads a packet as a device would: anything else than 31 octets that start with the
signature is no command wrapper. -/
def ofOctets? (bs : List UInt8) : Option CommandWrapper :=
  if bs.length = size ∧ bs.take 4 = Word.le32 signature then
    some (ofPacket (Packet.layout.decode bs))
  else none

@[simp] theorem ofPacket_toPacket (w : CommandWrapper) : ofPacket w.toPacket = w := by
  simp [ofPacket, toPacket]

@[simp] theorem length_toOctets (w : CommandWrapper) : w.toOctets.length = size :=
  Packet.layout.length_encode _

end CommandWrapper

end PlayerLink
