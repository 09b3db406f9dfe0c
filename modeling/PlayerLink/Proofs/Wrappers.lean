import PlayerLink.Wrapper.Command
import PlayerLink.Wrapper.Status

/-!
# Wrappers on the wire

A wrapper is read back from its octets, and what is read from a packet is written as that packet;
only the octet for the direction is brought down to its top bit. A packet looks like a status
exactly if it is read as one with the right signature.
-/

namespace PlayerLink

/-- Of the flags octet the top bit is kept. -/
theorem Direction.flags_ofFlags (flags : UInt8) : (ofFlags flags).flags = flags &&& 0x80 := by
  have all : ∀ b : BitVec 8, (ofFlags ⟨b⟩).flags = ⟨b⟩ &&& 0x80 := by decide
  exact all flags.toBitVec

namespace CommandWrapper

theorem ofOctets?_toOctets (w : CommandWrapper) : ofOctets? w.toOctets = some w := by
  have signed : w.toOctets.take 4 = Word.le32 signature := rfl
  rw [ofOctets?, if_pos ⟨length_toOctets w, signed⟩, toOctets, Layout.decode_encode,
    ofPacket_toPacket]

theorem isSome_ofOctets?_iff (bs : List UInt8) :
    (ofOctets? bs).isSome ↔ bs.length = size ∧ Word.le32 signature <+: bs := by
  have marked : Word.le32 signature <+: bs ↔ bs.take 4 = Word.le32 signature :=
    List.prefix_iff_eq_take.trans eq_comm
  rw [marked, ofOctets?]
  split
  next read => simp only [Option.isSome_some, read, and_self]
  next unread => simp only [Option.isSome_none, unread, Bool.false_eq_true]

/-- What is read keeps all of a packet that has the right signature, but for the low bits of its
flags. -/
theorem toPacket_ofPacket {p : Packet} (signed : p.signature = signature) :
    (ofPacket p).toPacket = { p with flags := p.flags &&& 0x80 } := by
  rw [ofPacket, toPacket, Direction.flags_ofFlags, ← signed]

/-- The flags stand behind twelve other octets. -/
theorem Packet.encode_flags (p : Packet) : ∃ front back, front.length = 12 ∧
    ∀ flags, layout.encode { p with flags } = front ++ flags :: back :=
  ⟨Word.le32 p.signature ++ (Word.le32 p.tag ++ Word.le32 p.dataLength),
    p.lun :: p.commandLength :: p.command.toList, rfl, fun _ => rfl⟩

/-- Writing what was read gives the packet back, with the top bit of its flags. -/
theorem toOctets_of_ofOctets? {bs : List UInt8} {w : CommandWrapper}
    (read : ofOctets? bs = some w) :
    w.toOctets = bs.modify 12 (· &&& 0x80) := by
  rw [ofOctets?] at read
  by_cases accepted : bs.length = size ∧ bs.take 4 = Word.le32 signature
  · rw [if_pos accepted, Option.some.injEq] at read
    obtain ⟨length, front⟩ := accepted
    have signed : (Packet.layout.decode bs).signature = signature := by
      have first : (Packet.layout.decode bs).signature = Word.ofLe32 bs := rfl
      rw [first, ← List.take_append_drop 4 bs, front, Word.ofLe32_append]
    obtain ⟨before, behind, place, octets⟩ := (Packet.layout.decode bs).encode_flags
    have whole : bs = before ++ (Packet.layout.decode bs).flags :: behind := by
      rw [← octets, Packet.layout.encode_decode bs (Nat.le_of_eq length.symm)]
      exact (List.take_of_length_le (Nat.le_of_eq length)).symm
    calc w.toOctets
        = before ++ ((Packet.layout.decode bs).flags &&& 0x80) :: behind := by
          rw [← read, toOctets, toPacket_ofPacket signed, octets]
      _ = (before ++ (Packet.layout.decode bs).flags :: behind).modify before.length
            (· &&& 0x80) :=
          (List.modifyTailIdx_add (List.modifyHead (· &&& 0x80)) 0 before (_ :: behind)).symm
      _ = bs.modify 12 (· &&& 0x80) := by rw [← whole, place]
  · rw [if_neg accepted] at read
    cases read

end CommandWrapper

namespace StatusWrapper

@[simp] theorem decode_toOctets (s : StatusWrapper) : layout.decode s.toOctets = s :=
  layout.decode_encode s

theorem ofOctets?_toOctets (s : StatusWrapper) : ofOctets? s.toOctets = some s := by
  rw [ofOctets?, if_pos (length_toOctets s), decode_toOctets]

theorem toOctets_of_ofOctets? {bs : List UInt8} {s : StatusWrapper} (read : ofOctets? bs = some s) :
    bs.length = size ∧ s.toOctets = bs := by
  rw [ofOctets?] at read
  by_cases length : bs.length = size
  · rw [if_pos length, Option.some.injEq] at read
    rw [← read, toOctets, layout.encode_decode bs (Nat.le_of_eq length.symm)]
    exact ⟨length, List.take_of_length_le (Nat.le_of_eq length)⟩
  · rw [if_neg length] at read
    cases read

theorem isSome_ofOctets?_iff (bs : List UInt8) : (ofOctets? bs).isSome ↔ bs.length = size := by
  rw [ofOctets?]
  by_cases length : bs.length = size
  · simp only [length, if_true, Option.isSome_some]
  · simp only [length, if_false, Option.isSome_none, Bool.false_eq_true]

theorem isStatus_toOctets_iff (s : StatusWrapper) : IsStatus s.toOctets ↔ s.IsMarked := by
  have front : s.toOctets.take 4 = Word.le32 s.signature := rfl
  rw [IsStatus, front]
  constructor
  · intro ⟨_, same⟩
    exact Layout.word32.encode_injective same
  · intro marked
    exact ⟨length_toOctets s, congrArg Word.le32 marked⟩

theorem isStatus_make (tag residue : UInt32) (status : UInt8) :
    IsStatus (make tag residue status).toOctets :=
  (isStatus_toOctets_iff _).mpr rfl

/-- A packet looks like a status exactly if it is read as one with the right signature. -/
theorem isStatus_iff (bs : List UInt8) : IsStatus bs ↔ ∃ s ∈ ofOctets? bs, s.IsMarked := by
  constructor
  · intro looks
    obtain ⟨s, read⟩ := Option.isSome_iff_exists.mp ((isSome_ofOctets?_iff bs).mpr looks.1)
    rw [← (toOctets_of_ofOctets? read).2, isStatus_toOctets_iff] at looks
    exact ⟨s, read, looks⟩
  · rintro ⟨s, read, marked⟩
    rwa [← (toOctets_of_ofOctets? read).2, isStatus_toOctets_iff]

/-- What is accepted as a status looks like one. -/
theorem isStatus_of_isMarked {bs : List UInt8} {s : StatusWrapper} (read : ofOctets? bs = some s)
    (marked : s.IsMarked) : IsStatus bs ∧ layout.decode bs = s := by
  refine ⟨(isStatus_iff bs).mpr ⟨s, read, marked⟩, ?_⟩
  rw [← (toOctets_of_ofOctets? read).2, decode_toOctets]

end StatusWrapper

/-- Every wrapper is read back from its octets. A command wrapper is read from exactly the packets
of 31 octets that start with `USBC`, and written as the packet it was read from, its flags brought
down to their top bit. A status is read from exactly the packets of 13 octets and written as that
packet, and a packet looks like a status exactly if it is read as one with the right signature. -/
theorem wrappers_round_trip (w : CommandWrapper) (s : StatusWrapper) (bs : List UInt8) :
    CommandWrapper.ofOctets? w.toOctets = some w ∧
    ((CommandWrapper.ofOctets? bs).isSome ↔ bs.length = 31 ∧ [0x55, 0x53, 0x42, 0x43] <+: bs) ∧
    (∀ read ∈ CommandWrapper.ofOctets? bs, read.toOctets = bs.modify 12 (· &&& 0x80)) ∧
    StatusWrapper.ofOctets? s.toOctets = some s ∧
    ((StatusWrapper.ofOctets? bs).isSome ↔ bs.length = 13) ∧
    (∀ read ∈ StatusWrapper.ofOctets? bs, read.toOctets = bs) ∧
    (StatusWrapper.IsStatus bs ↔ ∃ read ∈ StatusWrapper.ofOctets? bs, read.IsMarked) :=
  ⟨CommandWrapper.ofOctets?_toOctets w, CommandWrapper.isSome_ofOctets?_iff bs,
    fun _ read => CommandWrapper.toOctets_of_ofOctets? read,
    StatusWrapper.ofOctets?_toOctets s, StatusWrapper.isSome_ofOctets?_iff bs,
    fun _ read => (StatusWrapper.toOctets_of_ofOctets? read).2, StatusWrapper.isStatus_iff bs⟩

/-- A packet whose flags have low bits, and one with a foreign signature. -/
theorem wrappers_round_trip_unusual :
    let flagged : List UInt8 :=
      [0x55, 0x53, 0x42, 0x43, 7, 0, 0, 0, 36, 0, 0, 0, 0xFF] ++ List.replicate 18 0x12
    let foreign : List UInt8 := [0x58, 0x53, 0x42, 0x53, 9, 0, 0, 0, 0, 0, 0, 0, 1]
    (∃ w ∈ CommandWrapper.ofOctets? flagged,
      w.toOctets = flagged.set 12 0x80 ∧ CommandWrapper.ofOctets? w.toOctets = some w) ∧
    (∃ s ∈ StatusWrapper.ofOctets? foreign, s.toOctets = foreign ∧ ¬ s.IsMarked) ∧
    ¬ StatusWrapper.IsStatus foreign := by
  intro flagged foreign
  obtain ⟨w, read⟩ : ∃ w, CommandWrapper.ofOctets? flagged = some w := ⟨_, rfl⟩
  obtain ⟨s, read'⟩ : ∃ s, StatusWrapper.ofOctets? foreign = some s := ⟨_, rfl⟩
  have looks : ¬ StatusWrapper.IsStatus foreign := by decide
  obtain ⟨back, -, written, -⟩ := wrappers_round_trip w s flagged
  obtain ⟨-, -, -, -, -, written', looks_iff⟩ := wrappers_round_trip w s foreign
  refine ⟨⟨w, read, written w read, back⟩, ⟨s, read', written' s read', ?_⟩, looks⟩
  intro marked
  exact looks (looks_iff.mpr ⟨s, read', marked⟩)

end PlayerLink
