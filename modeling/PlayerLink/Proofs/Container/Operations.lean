import PlayerLink.Container.Writer
import PlayerLink.Proofs.Container.Directory
import PlayerLink.Proofs.Files.Writing
import PlayerLink.Proofs.Steps

/-!
# What the operations of a container writer may do

For any medium, whatever fails on it: writing data puts them where the next data go and leaves the
directory alone; recording changes the directory by one placing, or not at all, and puts the new
header at the start of the file. Everything else that is known of a writer follows from these.
-/

namespace PlayerLink

namespace ContainerWriter

open ContainerHeader Medium

variable {w w' w'' : ContainerWriter}

/-- Octets were to be put at a place, and nothing else was done. -/
structure Wrote (place : Nat) (bs : List UInt8) (w w' : ContainerWriter) : Prop where
  header : w'.header = w.header
  puts : Puts place bs w.medium w'.medium

namespace Wrote

variable {place : Nat} {a b bs : List UInt8}

theorem refl (place : Nat) (bs : List UInt8) (w : ContainerWriter) : Wrote place bs w w :=
  ⟨rfl, .refl place bs w.medium⟩

theorem trans (first : Wrote place bs w w') (second : Wrote place bs w' w'') :
    Wrote place bs w w'' :=
  ⟨second.header.trans first.header, first.puts.trans second.puts⟩

theorem widen (h : Wrote place a w w') : Wrote place (a ++ b) w w' :=
  ⟨h.header, h.puts.widen⟩

theorem append (first : Wrote place a w w') (second : Wrote (place + a.length) b w' w'') :
    Wrote place (a ++ b) w w'' :=
  ⟨second.header.trans first.header, first.puts.append second.puts⟩

end Wrote

/-- The directory stays as it is, or it gains an entry right behind the data placed last. -/
inductive Advance (h : ContainerHeader) : ContainerHeader → Prop
  | stay : Advance h h
  | place (slot : Nat) (e : ContainerEntry) (free : h.freeSlot = some slot)
      (here : e.offset = UInt32.ofNat h.nextOffset)
      (fits : h.nextOffset + e.length.toNat ≤ lastPlace) : Advance h (h.place slot e)

/-- An entry was recorded, or refused, or its header could not be written. -/
structure Recorded (w w' : ContainerWriter) : Prop where
  advance : Advance w.header w'.header
  puts : Puts 0 w'.header.toOctets w.medium w'.medium

theorem gives_onMedium (call : StateM Medium (Except FileError Unit)) (w : ContainerWriter) :
    Gives (onMedium call).run w ((call w.medium).1.mapError .file)
      { w with medium := (call w.medium).2 } :=
  fun _ => ⟨rfl, rfl⟩

/-- A call that succeeded for the container succeeded on the medium. -/
theorem mapError_eq_ok {ε ε' α : Type} {f : ε → ε'} {x : Except ε α} {a : α}
    (h : x.mapError f = .ok a) : x = .ok a := by
  cases x with
  | ok b =>
    cases h
    rfl
  | error e => cases h

theorem ends_seek (position : Nat) (place : Nat) (bs : List UInt8) (w : ContainerWriter) :
    Ends (onMedium (Medium.seek position)).run
      (fun r w' => Wrote place bs w w' ∧ (r = .ok () → w'.medium.position = position)) w := by
  refine (gives_onMedium _ w).ends ⟨⟨rfl, puts_seek place bs position w.medium⟩, fun h => ?_⟩
  exact seek_position (mapError_eq_ok h)

theorem ends_writeData (data : List UInt8) (w : ContainerWriter) :
    Ends (writeData data).run
      (fun r w' => Wrote w.medium.position data w w' ∧
        (r = .ok () → w'.medium.position = w.medium.position + data.length)) w := by
  refine (gives_onMedium _ w).ends ⟨⟨rfl, puts_writeAll data w.medium⟩, fun h => ?_⟩
  exact writeAll_position (mapError_eq_ok h)

/-- Data that are written from a place on leave the position behind it, even if they fail. -/
theorem ends_writeData_behind {place : Nat} (data : List UInt8) (w : ContainerWriter)
    (start : place ≤ w.medium.position) :
    Ends (writeData data).run
      (fun _ w' => w'.header = w.header ∧ Behind place w.medium w'.medium ∧
        place ≤ w'.medium.position) w := by
  refine (gives_onMedium _ w).ends ⟨rfl, .of_puts (puts_writeAll data w.medium) start, ?_⟩
  exact Nat.le_trans start (le_position_writeAll data w.medium)

theorem ends_flush (place : Nat) (bs : List UInt8) (w : ContainerWriter) :
    Ends (onMedium Medium.flush).run (fun _ w' => Wrote place bs w w') w :=
  (gives_onMedium _ w).ends ⟨rfl, puts_flush place bs w.medium⟩

theorem ends_writeHeader (w : ContainerWriter) :
    Ends writeHeader.run (fun _ w' => Wrote 0 w.header.toOctets w w') w := by
  rw [writeHeader]
  refine Ends.bindExcept (ends_seek 0 0 w.header.toOctets w) ?_ (fun _ _ h => h.1)
  rintro _ u ⟨sought, start⟩
  have position := start rfl
  refine Ends.bindExcept_get (Ends.bindExcept (ends_writeData u.header.toOctets u) ?_ ?_)
  · rintro _ v ⟨wrote, -⟩
    rw [position, sought.header] at wrote
    exact (ends_flush 0 _ v).mono fun _ _ flushed => (sought.trans wrote).trans flushed
  · rintro _ v ⟨wrote, -⟩
    rw [position, sought.header] at wrote
    exact sought.trans wrote

theorem ends_seekData (bs : List UInt8) (w : ContainerWriter) :
    Ends seekData.run
      (fun r w' => Wrote w.header.nextOffset bs w w' ∧
        (r = .ok () → w'.medium.position = w.header.nextOffset)) w :=
  Ends.bindExcept_get (ends_seek _ _ bs w)

/-- Pieces go one behind the other from the position on. -/
theorem ends_forM_writeData (pieces : List (List UInt8)) (w : ContainerWriter) :
    Ends (pieces.forM writeData).run
      (fun _ w' => Wrote w.medium.position pieces.flatten w w') w := by
  induction pieces generalizing w with
  | nil => exact Ends.pure_iff.mpr (.refl _ _ w)
  | cons piece pieces ih =>
    refine Ends.bindExcept (ends_writeData piece w) ?_ (fun _ _ h => h.1.widen)
    rintro _ u ⟨wrote, finish⟩
    refine (ih u).mono fun _ v rest => ?_
    rw [finish rfl] at rest
    exact wrote.append rest

theorem ends_stream (pieces : List (List UInt8)) (w : ContainerWriter) :
    Ends (stream pieces).run
      (fun _ w' => Wrote w.header.nextOffset pieces.flatten w w') w := by
  refine Ends.bindExcept (ends_seekData pieces.flatten w) ?_ (fun _ _ h => h.1)
  rintro _ u ⟨sought, start⟩
  refine (ends_forM_writeData pieces u).mono fun _ v wrote => ?_
  rw [start rfl] at wrote
  exact sought.trans wrote

theorem ends_record (entry : ContainerEntry) (w : ContainerWriter) :
    Ends (record entry).run (fun _ w' => Recorded w w') w := by
  rw [record]
  refine Ends.bindExcept_get ?_
  have refused (e : ContainerError) :
      Ends (throw e : WriterM Nat).run (fun _ w' => Recorded w w') w :=
    Ends.pure_iff.mpr ⟨.stay, .refl _ _ w.medium⟩
  cases free : w.header.freeSlot with
  | none => exact refused _
  | some slot =>
    by_cases large : w.header.nextOffset + entry.length.toNat > 0xFFFFFFFF
    · simp only [if_pos large]
      exact refused _
    · simp only [if_neg large]
      have placed : Advance w.header (w.header.place slot
          { entry with offset := UInt32.ofNat w.header.nextOffset }) :=
        .place slot _ free rfl (Nat.le_of_not_lt large)
      refine Ends.bindExcept_set (Ends.bindExcept (ends_writeHeader _) ?_ ?_)
      · rintro _ u wrote
        refine Ends.bindExcept_lift (Ends.pure_iff.mpr ?_)
        exact ⟨wrote.header ▸ placed, by rw [wrote.header]; exact wrote.puts⟩
      · rintro _ u wrote
        exact ⟨wrote.header ▸ placed, by rw [wrote.header]; exact wrote.puts⟩

/-- The data come first, then the record of them. -/
theorem ends_append (entry : ContainerEntry) (data : List UInt8) (w : ContainerWriter) :
    Ends (append entry data).run
      (fun _ w' => ∃ mid, Wrote w.header.nextOffset data w mid ∧ Recorded mid w') w := by
  have nothing : ∀ u, Wrote w.header.nextOffset data w u →
      ∃ mid, Wrote w.header.nextOffset data w mid ∧ Recorded mid u :=
    fun u wrote => ⟨u, wrote, .stay, .refl _ _ u.medium⟩
  have refused (e : ContainerError) :
      Ends (throw e : WriterM Nat).run
        (fun _ w' => ∃ mid, Wrote w.header.nextOffset data w mid ∧ Recorded mid w') w :=
    Ends.pure_iff.mpr (nothing w (.refl _ _ w))
  rw [append]
  by_cases large : data.length > 0xFFFFFFFF
  · rw [if_pos large]
    exact refused _
  rw [if_neg large]
  refine Ends.bindExcept_get ?_
  by_cases full : w.header.freeSlot.isNone
  · rw [if_pos full]
    exact refused _
  rw [if_neg full]
  refine Ends.bindExcept (ends_seekData data w) ?_ (fun _ u h => nothing u h.1)
  rintro _ u ⟨sought, start⟩
  refine Ends.bindExcept (ends_writeData data u) ?_ ?_
  · rintro _ v ⟨wrote, -⟩
    rw [start rfl] at wrote
    exact (ends_record _ v).mono fun _ x recorded => ⟨v, sought.trans wrote, recorded⟩
  · rintro _ v ⟨wrote, -⟩
    rw [start rfl] at wrote
    exact nothing v (sought.trans wrote)

/-! ### The log is not read -/

theorem blind_onMedium (call : StateM Medium (Except FileError Unit)) : Blind (onMedium call).run :=
  fun w => ⟨_, _, gives_onMedium call w⟩

theorem blind_writeHeader : Blind writeHeader.run := by
  refine .bindExcept (blind_onMedium _) fun _ => .bindExcept_get fun w => ?_
  exact .bindExcept (blind_onMedium _) fun _ => blind_onMedium _

theorem blind_record (entry : ContainerEntry) : Blind (record entry).run := by
  refine .bindExcept_get fun w => ?_
  cases w.header.freeSlot with
  | none => exact .pure _
  | some slot =>
    refine .ite (.pure _) (.bindExcept_set _ (.bindExcept blind_writeHeader fun _ => ?_))
    exact .bindExcept_lift (.pure _)

theorem blind_append (entry : ContainerEntry) (data : List UInt8) :
    Blind (append entry data).run := by
  refine .ite (.pure _) (.bindExcept_get fun w => .ite (.pure _) ?_)
  refine .bindExcept (.bindExcept_get fun w => blind_onMedium _) fun _ => ?_
  exact .bindExcept (blind_onMedium _) fun _ => blind_record _

theorem blind_finish : Blind finish.run := blind_onMedium _

end ContainerWriter

end PlayerLink
