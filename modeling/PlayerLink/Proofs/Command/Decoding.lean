import PlayerLink.Command
import PlayerLink.Proofs.Wrappers

/-!
# Commands as a device reads them

A device gets nothing but a packet. `CommandWrapper.command?` is how it finds out what it is asked
for: the operation code tells the family, and the family tells where the address stands and in which
order its octets come. Every command is read back from its packet, so no two commands, tags, lengths
or directions share one.

`Command.LaidOut` says octet by octet what the packet of a command looks like.
-/

namespace PlayerLink

/-- The two families of commands. -/
inductive Dialect where
  | scsi
  | vendor
  deriving DecidableEq, Repr

namespace Dialect

/-- The word that a run starts with, in the order of the family. -/
def word : Dialect → List UInt8 → UInt32
  | scsi, bs => Word.ofBe32 bs
  | vendor, bs => Word.ofLe32 bs

/-- Octet 1 of a block that is meant for a logical unit. -/
def target : Dialect → UInt8 → UInt8
  | scsi, lun => UInt8.ofNat (lun.toNat % 8 * 32)
  | vendor, _ => 0x80

end Dialect

namespace Command

/-- The family that a command belongs to. -/
def dialect : Command → Dialect
  | inquiry .. | capacity _ | read .. | write .. => .scsi
  | identify | initialise | readSector .. | readMemory .. | detach | enter _ => .vendor

/-- The logical unit that a command is given, if it is given one. -/
def unit? : Command → Option UInt8
  | inquiry lun _ | capacity lun | read lun _ | write lun _ | readSector lun _ _ => some lun
  | identify | initialise | readMemory .. | detach | enter _ => none

/-- The address that a command is given, if it is given one. -/
def address? : Command → Option UInt32
  | read _ address | write _ address | readSector _ address _ | readMemory address _ =>
    some address
  | inquiry .. | capacity _ | identify | initialise | detach | enter _ => none

/-- The packet that carries a command. -/
def packet (c : Command) (tag dataLength : UInt32) (direction : Direction) : List UInt8 :=
  (CommandWrapper.wrap tag dataLength direction c.block c.block_fits).toOctets

/-- What the packet of a command looks like from the octet on that names the logical unit. The block
starts at octet 15. -/
structure LaidOut (c : Command) (packet : List UInt8) : Prop where
  unit : packet[13]? = some (c.unit?.getD 0)
  length : packet[14]? = some c.length
  target : packet[16]? = some (c.dialect.target (c.unit?.getD 0))
  address : ∀ a ∈ c.address?, c.dialect.word ((packet.drop 17).take 4) = a
  rest : ∀ i, c.length.toNat ≤ i → i < 16 → packet[15 + i]? = some 0

/-! ### The octets of a block -/

/-- The arguments end where the block is said to end, or before. -/
theorem length_arguments_add_le (c : Command) : c.arguments.length + 2 ≤ c.length.toNat := by
  cases c <;> simp [arguments, length]

/-- The arguments, filled up with zeros. -/
def filled (c : Command) : List UInt8 :=
  c.arguments ++ List.replicate (14 - c.arguments.length) 0

theorem toList_block (c : Command) :
    c.block.octets.toList = c.opcode :: c.target :: c.filled := by
  have short := c.length_arguments_add_le
  have room : c.length.toNat ≤ 16 := UInt8.le_iff_toNat_le.mp c.length_le
  have whole : (c.opcode :: c.target :: c.arguments).length = c.arguments.length + 2 := rfl
  have fill : 16 - (c.arguments.length + 2) = 14 - c.arguments.length := by omega
  rw [block, Field.toList_ofList, zeroPad, List.take_of_length_le (by omega), whole, fill, filled]
  rfl

theorem lun_eq (c : Command) : c.lun = c.unit?.getD 0 := by
  cases c <;> rfl

/-- The three low bits of the logical unit, moved to the top. -/
theorem unitBits_eq (lun : UInt8) : unitBits lun = UInt8.ofNat (lun.toNat % 8 * 32) := by
  have low : lun.toNat &&& 7 = lun.toNat % 8 := Nat.and_two_pow_sub_one_eq_mod lun.toNat 3
  apply UInt8.toNat_inj.mp
  rw [unitBits, UInt8.toNat_shiftLeft, UInt8.toNat_and, UInt8.toNat_ofNat', Nat.shiftLeft_eq]
  exact congrArg (· * 32 % 256) low

theorem target_eq (c : Command) : c.target = c.dialect.target (c.unit?.getD 0) := by
  cases c with
  | inquiry lun => exact unitBits_eq lun
  | capacity lun => exact unitBits_eq lun
  | read lun => exact unitBits_eq lun
  | write lun => exact unitBits_eq lun
  | identify | initialise | readSector | readMemory | detach | enter => rfl

/-- An address stands right behind the octet for the logical unit. -/
theorem word_filled (c : Command) {a : UInt32} (given : a ∈ c.address?) :
    c.dialect.word (c.filled.take 4) = a := by
  have big (rest : List UInt8) : Word.ofBe32 ((Word.be32 a ++ rest).take 4) = a := by
    rw [List.take_left' (Word.length_be32 a)]
    simpa using Word.ofBe32_append a []
  have little (rest : List UInt8) : Word.ofLe32 ((Word.le32 a ++ rest).take 4) = a := by
    rw [List.take_left' (Word.length_le32 a)]
    simpa using Word.ofLe32_append a []
  cases c with
  | read | write =>
    cases given
    rw [filled, arguments, List.append_assoc]
    exact big _
  | readSector =>
    cases given
    exact little _
  | readMemory =>
    cases given
    rw [filled, arguments, List.append_assoc]
    exact little _
  | inquiry | capacity | identify | initialise | detach | enter => cases given

/-- What is behind the end that the block is said to have is zero. -/
theorem getElem?_filled (c : Command) {i : Nat} (behind : c.length.toNat ≤ i + 2)
    (inside : i < 14) : c.filled[i]? = some 0 := by
  have fits := c.length_arguments_add_le
  rw [filled, List.getElem?_append_right (by omega), List.getElem?_replicate, if_pos (by omega)]

end Command

namespace CommandWrapper

/-- The command that a device takes a wrapper for. A block that reads or writes sectors says how
many, and it is one here. -/
def command? (w : CommandWrapper) : Option Command :=
  let arguments := w.command.toList.drop 2
  let single := (arguments.drop 5).take 2 = Word.be16 1
  match w.opcode with
  | 0x12 => some (.inquiry w.lun (arguments.getD 2 0))
  | 0x25 => some (.capacity w.lun)
  | 0x28 => if single then some (.read w.lun (Word.ofBe32 arguments)) else none
  | 0x2A => if single then some (.write w.lun (Word.ofBe32 arguments)) else none
  | 0xCC => some .identify
  | 0xCB => some .initialise
  | 0x08 => some (.readSector w.lun (Word.ofLe32 arguments) .logical)
  | 0x09 => some (.readSector w.lun (Word.ofLe32 arguments) .physical)
  | 0x05 => some (.readMemory (Word.ofLe32 arguments) (Word.ofLe32 (arguments.drop 4)))
  | 0x16 => some .detach
  | 0x20 => some (.enter (Word.ofLe16 arguments))
  | _ => none

/-- Every command is read back from its wrapper. -/
theorem command?_wrap (tag dataLength : UInt32) (direction : Direction) (c : Command) :
    (wrap tag dataLength direction c.block c.block_fits).command? = some c := by
  have behind : (wrap tag dataLength direction c.block c.block_fits).command.toList.drop 2 =
      c.filled := by
    change c.block.octets.toList.drop 2 = c.filled
    rw [c.toList_block]
    rfl
  rw [command?, behind, opcode_wrap]
  cases c with
  | inquiry | capacity | identify | initialise | detach => rfl
  | read _ address | write _ address =>
    have single (rest : List UInt8) :
        ((Word.be32 address ++ (0 :: 0 :: 1 :: rest)).drop 5).take 2 = Word.be16 1 := rfl
    refine (if_pos ?_).trans (congrArg some ?_)
    · rw [Command.filled, Command.arguments, List.append_assoc]
      exact single _
    · rw [Command.filled, Command.arguments, List.append_assoc, Word.ofBe32_append]
      rfl
  | readSector lun address area =>
    cases area
    · refine congrArg some ?_
      rw [Command.filled, Command.arguments, Word.ofLe32_append]
      rfl
    · refine congrArg some ?_
      rw [Command.filled, Command.arguments, Word.ofLe32_append]
      rfl
  | readMemory sector length =>
    refine congrArg some ?_
    rw [Command.filled, Command.arguments, List.append_assoc, Word.ofLe32_append, List.drop_left',
      Word.ofLe32_append]
    rfl
  | enter parameter =>
    refine congrArg some ?_
    rw [Command.filled, Command.arguments, Word.ofLe16_append]

end CommandWrapper

namespace Command

variable {c c' : Command} {tag tag' dataLength dataLength' : UInt32}
variable {direction direction' : Direction}

/-- The packet from the octet on that names the logical unit. -/
theorem packet_eq (c : Command) (tag dataLength : UInt32) (direction : Direction) :
    ∃ front, front.length = 13 ∧ c.packet tag dataLength direction =
      front ++ (c.lun :: c.length :: c.opcode :: c.target :: c.filled) := by
  refine ⟨Word.le32 CommandWrapper.signature ++ (Word.le32 tag ++ (Word.le32 dataLength ++
    [direction.flags])), rfl, ?_⟩
  rw [← toList_block]
  simp only [List.append_assoc]
  rfl

theorem packet_injective
    (same : c.packet tag dataLength direction = c'.packet tag' dataLength' direction') :
    c = c' ∧ tag = tag' ∧ dataLength = dataLength' ∧ direction = direction' := by
  have read := CommandWrapper.ofOctets?_toOctets
    (CommandWrapper.wrap tag dataLength direction c.block c.block_fits)
  rw [← packet, same, packet, CommandWrapper.ofOctets?_toOctets, Option.some.injEq] at read
  have command := CommandWrapper.command?_wrap tag dataLength direction c
  rw [← read, CommandWrapper.command?_wrap, Option.some.injEq] at command
  exact ⟨command.symm, (congrArg CommandWrapper.tag read).symm,
    (congrArg CommandWrapper.dataLength read).symm, (congrArg CommandWrapper.direction read).symm⟩

theorem laidOut_packet (c : Command) (tag dataLength : UInt32) (direction : Direction) :
    c.LaidOut (c.packet tag dataLength direction) := by
  obtain ⟨front, length, octets⟩ := c.packet_eq tag dataLength direction
  have there (i : Nat) : (c.packet tag dataLength direction)[13 + i]? =
      (c.lun :: c.length :: c.opcode :: c.target :: c.filled)[i]? := by
    rw [octets, List.getElem?_append_right (by omega), length, Nat.add_sub_cancel_left]
  refine
    { unit := ?_
      length := there 1
      target := ?_
      address := ?_
      rest := ?_ }
  · rw [← lun_eq]
    exact there 0
  · rw [← target_eq]
    exact there 3
  · intro a given
    have behind : (c.packet tag dataLength direction).drop 17 = c.filled := by
      rw [octets, List.drop_append, length, List.drop_eq_nil_of_le (by omega)]
      rfl
    rw [behind]
    exact c.word_filled given
  · intro i behind inside
    have two := c.length_arguments_add_le
    obtain ⟨j, rfl⟩ : ∃ j, i = j + 2 := ⟨i - 2, by omega⟩
    have place : 15 + (j + 2) = 13 + (j + 4) := by omega
    rw [place, there (j + 4)]
    exact c.getElem?_filled behind (by omega)

/-- Two packets are the same only if they carry the same command with the same tag, length and
direction, and each of them is laid out as the family of its command has it. -/
theorem packet_eq_iff_laidOut (c c' : Command) (tag tag' dataLength dataLength' : UInt32)
    (direction direction' : Direction) :
    (c.packet tag dataLength direction = c'.packet tag' dataLength' direction' ↔
      c = c' ∧ tag = tag' ∧ dataLength = dataLength' ∧ direction = direction') ∧
    c.LaidOut (c.packet tag dataLength direction) := by
  refine ⟨⟨packet_injective, ?_⟩, laidOut_packet c tag dataLength direction⟩
  rintro ⟨rfl, rfl, rfl, rfl⟩
  rfl

end Command

end PlayerLink
