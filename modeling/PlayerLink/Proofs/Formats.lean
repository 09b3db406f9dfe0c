import PlayerLink.Container.Header
import PlayerLink.Firmware.Header
import PlayerLink.SystemInfo

/-!
# Formats

The headers of firmware and of containers and the system information are read from the start of a
run of octets. Each reader takes a run exactly if it starts with the mark of the format and holds a
whole structure. Nothing is lost on the way: what was read is written as the front part of the run,
so every octet has its place in a field, reserved or not, and a structure is read back whatever
follows it.
-/

namespace PlayerLink

/-- A format of fixed length: a reader takes exactly the runs that are long enough and start with a
mark, and a writer undoes it in both directions. -/
structure Format {α ε : Type} (size : Nat) (mark : List UInt8) (write : α → List UInt8)
    (read : List UInt8 → Except ε α) : Prop where
  accepts : ∀ bs, (∃ a, read bs = .ok a) ↔ size ≤ bs.length ∧ mark <+: bs
  writesBack : ∀ bs a, read bs = .ok a → write a = bs.take size
  readsBack : ∀ a rest, mark <+: write a → read (write a ++ rest) = .ok a

/-- A layout makes a format if its reader decodes just the runs that it should. -/
theorem Layout.format {α ε : Type} (L : Layout α) {mark : List UInt8}
    {read : List UInt8 → Except ε α} {taken : List UInt8 → Prop} [DecidablePred taken]
    {refusal : List UInt8 → ε} (taken_iff : ∀ bs, taken bs ↔ mark <+: bs ∧ L.size ≤ bs.length)
    (reads : ∀ bs, read bs = if taken bs then .ok (L.decode bs) else .error (refusal bs)) :
    Format L.size mark L.encode read := by
  have decodes {bs : List UInt8} (long : L.size ≤ bs.length) (marked : mark <+: bs) :
      read bs = .ok (L.decode bs) := by
    rw [reads, if_pos ((taken_iff bs).mpr ⟨marked, long⟩)]
  have accepted {bs : List UInt8} {a : α} (given : read bs = .ok a) :
      L.size ≤ bs.length ∧ mark <+: bs := by
    rw [reads] at given
    split at given
    next taken => exact ((taken_iff bs).mp taken).symm
    next => cases given
  refine
    { accepts := fun bs => ⟨fun ⟨_, given⟩ => accepted given,
        fun ⟨long, marked⟩ => ⟨_, decodes long marked⟩⟩
      writesBack := ?_
      readsBack := ?_ }
  · intro bs a given
    obtain ⟨long, marked⟩ := accepted given
    rw [decodes long marked, Except.ok.injEq] at given
    rw [← given, L.encode_decode bs long]
  · intro a rest marked
    have long : L.size ≤ (L.encode a ++ rest).length := by
      rw [List.length_append, L.length_encode]
      exact Nat.le_add_right _ _
    rw [decodes long (marked.trans (List.prefix_append _ _)), L.decode_encode_append]

/-- Whether a run starts with a mark is told from as many octets as the mark has. -/
theorem take_length_eq_iff (mark bs : List UInt8) : bs.take mark.length = mark ↔ mark <+: bs :=
  eq_comm.trans List.prefix_iff_eq_take.symm

/-- The number that the first four octets stand for, the least significant one first, or 0 if there
are fewer. -/
def firstWord : List UInt8 → Nat
  | a :: b :: c :: d :: _ => a.toNat + 0x100 * b.toNat + 0x10000 * c.toNat + 0x1000000 * d.toNat
  | _ => 0

namespace FirmwareHeader

theorem leadingWord_eq (bs : List UInt8) : leadingWord bs = UInt32.ofNat (firstWord bs) := by
  match bs with
  | a :: b :: c :: d :: rest =>
    have long : 4 ≤ (a :: b :: c :: d :: rest).length := by simp
    have value : Word.value [a, b, c, d] = firstWord (a :: b :: c :: d :: rest) := by
      simp only [Word.value, firstWord]
      omega
    rw [leadingWord, if_pos long, Word.ofLe32, ← value]
    rfl
  | [] | [_] | [_, _] | [_, _, _] => rfl

theorem leadingWord_eq_mark_iff (bs : List UInt8) :
    leadingWord bs = mark ↔ Word.le32 mark <+: bs := by
  constructor
  · intro marked
    by_cases long : 4 ≤ bs.length
    · rw [leadingWord, if_pos long] at marked
      rw [← marked, Word.le32_ofLe32 long]
      exact List.take_prefix 4 bs
    · rw [leadingWord, if_neg long] at marked
      cases marked
  · rintro ⟨rest, rfl⟩
    rw [leadingWord, if_pos (by simp), Word.ofLe32_append]

theorem format : Format size (Word.le32 mark) toOctets ofOctets :=
  layout.format (fun bs => and_congr_left' (leadingWord_eq_mark_iff bs)) fun _ => rfl

/-- A run that is refused is told with its first word. -/
theorem ofOctets_cases (bs : List UInt8) :
    (∃ h, ofOctets bs = .ok h) ∨
      ofOctets bs = .error (.badMagic (UInt32.ofNat (firstWord bs))) := by
  rw [ofOctets, ← leadingWord_eq]
  split
  · exact .inl ⟨_, rfl⟩
  · exact .inr rfl

end FirmwareHeader

theorem ContainerHeader.format : Format size mark toOctets ofOctets :=
  layout.format (fun bs => and_congr_left' (take_length_eq_iff mark bs)) fun _ => rfl

theorem SystemInfo.format : Format size mark toOctets ofOctets :=
  layout.format (fun bs => and_congr_left' (take_length_eq_iff mark bs)) fun _ => rfl

/-- The header of a firmware is read from exactly the runs of at least 8192 octets that start with
the word `0x0FF0AA55`, that of a container from those of 4096 octets that start with `AFI`, and the
system information from those of 192 octets that start with `SYS INFOHW`. In each case what was read
is written as the front part of the run, and what was written is read back. The header of a firmware
that is refused is told with the word that it starts with. -/
theorem formats_read_exactly :
    Format 8192 [0x55, 0xAA, 0xF0, 0x0F] FirmwareHeader.toOctets FirmwareHeader.ofOctets ∧
    Format 4096 [0x41, 0x46, 0x49] ContainerHeader.toOctets ContainerHeader.ofOctets ∧
    Format 192 [0x53, 0x59, 0x53, 0x20, 0x49, 0x4E, 0x46, 0x4F, 0x48, 0x57]
      SystemInfo.toOctets SystemInfo.ofOctets ∧
    ∀ bs, (∃ h, FirmwareHeader.ofOctets bs = .ok h) ∨
      FirmwareHeader.ofOctets bs = .error (.badMagic (UInt32.ofNat (firstWord bs))) :=
  ⟨FirmwareHeader.format, ContainerHeader.format, SystemInfo.format,
    FirmwareHeader.ofOctets_cases⟩

end PlayerLink
