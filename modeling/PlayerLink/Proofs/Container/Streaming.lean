import PlayerLink.Proofs.Checksum
import PlayerLink.Proofs.Container.Growth

/-!
# Data that arrive in pieces

A caller that does not have the data of an entry at once writes them piece by piece, adds each piece
to a running sum, and records the entry at the end. `appendPieces` is this caller. It comes to what
`append` comes to with the pieces joined: the same slot, the same directory and the same file,
however the data were cut and however the writes of the one and of the other turned out.
-/

namespace PlayerLink

namespace ContainerWriter

open ContainerHeader Medium PlayerLink.Part

/-- Writes pieces one after the other and adds each of them to a sum. -/
def writeSummed : List (List UInt8) → Checksum.Running → WriterM Checksum.Running
  | [], sum => pure sum
  | piece :: rest, sum => do
    writeData piece
    writeSummed rest (sum.add piece)

/-- Writes the data of an entry in pieces and records it with what they came to. -/
def appendPieces (entry : ContainerEntry) (pieces : List (List UInt8)) : WriterM Nat := do
  seekData
  let sum ← writeSummed pieces {}
  record { entry with length := UInt32.ofNat pieces.flatten.length, checksum := sum.sum }

variable {w v : ContainerWriter}

/-- Each piece is taken right behind the one before it. -/
theorem gives_writeSummed (h : w.medium.Steady) (pieces : List (List UInt8))
    (sum : Checksum.Running) :
    ∃ m, Gives (writeSummed pieces sum).run w (.ok (pieces.foldl .add sum)) { w with medium := m } ∧
      Took pieces.flatten w.medium m := by
  induction pieces generalizing w sum with
  | nil => exact ⟨w.medium, Gives.pure _ w, h, (putAt_nil _ _).symm, rfl⟩
  | cons piece rest ih =>
    obtain ⟨m, wrote, first⟩ := writeAll_of_steady h piece
    obtain ⟨m', others, second⟩ := @ih { w with medium := m } first.steady (sum.add piece)
    have call := gives_onMedium (Medium.writeAll piece) w
    rw [wrote] at call
    exact ⟨m', call.bindOk others, first.append second⟩

/-- What is recorded in the end is the part that the pieces make up. -/
theorem gives_appendPieces (h : w.medium.Steady) (entry : ContainerEntry)
    (pieces : List (List UInt8)) {slot : Nat} (free : w.header.freeSlot = some slot)
    (fits : w.header.nextOffset + pieces.flatten.length ≤ lastPlace) :
    ∃ w', Gives (appendPieces entry pieces).run w (.ok slot) w' ∧
      Appended slot (entry, pieces.flatten) w w' := by
  obtain ⟨m₁, sought, steady, content, position⟩ := seek_of_steady h w.header.nextOffset
  obtain ⟨m₂, wrote, took⟩ := @gives_writeSummed { w with medium := m₁ } steady pieces {}
  have behind : m₂.content = putAt w.header.nextOffset pieces.flatten w.medium.content := by
    rw [took.content, position, content]
  obtain ⟨w', recorded, appended⟩ :=
    @gives_record_part w { w with medium := m₂ } (entry, pieces.flatten) slot rfl took.steady behind
      free fits
  refine ⟨w', ?_, appended⟩
  have call := gives_onMedium (Medium.seek w.header.nextOffset) w
  rw [sought] at call
  rw [← Checksum.Running.sum_foldl_add] at recorded
  exact Gives.bindOk (Ends.bindExcept_get call) (wrote.bindOk recorded)

/-- Two writers hold the same container, each on a medium on which nothing fails for good, though
what does fail need not be the same. One takes data in pieces, the other takes them joined. If a
slot is left and the data fit, both record the entry in this slot, and they hold the same container
again. -/
theorem appendPieces_eq_append (entry : ContainerEntry) (pieces : List (List UInt8)) {slot : Nat}
    (header : v.header = w.header) (content : v.medium.content = w.medium.content)
    (steadyW : w.medium.Steady) (steadyV : v.medium.Steady)
    (free : w.header.freeSlot = some slot)
    (fits : w.header.nextOffset + pieces.flatten.length ≤ lastPlace) :
    ∃ w' v', Gives (appendPieces entry pieces).run w (.ok slot) w' ∧
      Gives (append entry pieces.flatten).run v (.ok slot) v' ∧
      w'.header = v'.header ∧ w'.medium.content = v'.medium.content := by
  obtain ⟨w', streamed, left⟩ := gives_appendPieces steadyW entry pieces free fits
  obtain ⟨v', appended, right⟩ := gives_append steadyV (entry, pieces.flatten)
    (by rw [header]; exact free) (by rw [header]; exact fits)
  have headers : w'.header = v'.header := by
    rw [left.header, right.header, header]
  refine ⟨w', v', streamed, appended, headers, ?_⟩
  rw [left.content, right.content, headers, header, content]

/-- A second entry in five pieces, none of which ends with a word, behind an entry of three octets.
The two media take little at a time, each in its own way. -/
theorem appendPieces_eq_append_uneven :
    let header := (ContainerHeader.empty 0x10D6 0x1101).place 0
      { ContainerEntry.unplaced (.ofList 11 [0x41]) 0x49 0 with offset := 4096, length := 3 }
    let content := header.toOctets ++ [1, 2, 3]
    let pieces : List (List UInt8) := [[4], [], [5, 6, 7, 8, 9, 10], [], [11, 12]]
    let w : ContainerWriter :=
      { medium := { content, writes := [.upTo 1, .fail .interrupted, .upTo 4, .fail .interrupted] }
        header }
    let v : ContainerWriter := { medium := { content, writes := [.all, .upTo 100] }, header }
    ∃ w' v',
      Gives (appendPieces (.unplaced (.ofList 11 [0x42]) 0x49 0x8000) pieces).run w (.ok 1) w' ∧
      Gives (append (.unplaced (.ofList 11 [0x42]) 0x49 0x8000) pieces.flatten).run v (.ok 1) v' ∧
      w'.header = v'.header ∧ w'.medium.content = v'.medium.content := by
  intro header content pieces w v
  exact appendPieces_eq_append _ pieces rfl rfl
    ⟨by simp [w], by simp [w, WriteStep.IsSteady], by simp [w], rfl⟩
    ⟨by simp [v], by simp [v, WriteStep.IsSteady], by simp [v], rfl⟩
    (by decide +kernel) (by decide +kernel)

end ContainerWriter

end PlayerLink
