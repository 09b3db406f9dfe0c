import PlayerLink.Proofs.Files.Content

/-!
# What calls on a medium leave behind

`Puts` says what a run of calls may have done that was meant to put octets at a place: whatever
failed and however little was taken at a time, nothing outside of that run of places changed, and
every write that was made put its own part of the octets where it belongs. It holds for any
script of outcomes.

On a medium whose seeks and flushes succeed and whose writes make headway or are interrupted, the
octets are there in the end: `Steady` is such a medium.
-/

namespace PlayerLink

/-- A write that makes headway, or that is made again. -/
def WriteStep.IsSteady : WriteStep → Prop
  | .all => True
  | .upTo n => n ≠ 0
  | .fail e => e = .interrupted

namespace Medium

/-- The calls write octets of a run that starts at a place, each at its own place. -/
def Lays (place : Nat) (bs : List UInt8) (calls : List MediumCall) : Prop :=
  ∀ position taken, .write position taken ∈ calls →
    place ≤ position ∧ position + taken.length ≤ place + bs.length ∧
      taken = (bs.drop (position - place)).take taken.length

/-- Calls that were to put octets at a place, from one state of the medium to another. -/
structure Puts (place : Nat) (bs : List UInt8) (m m' : Medium) : Prop where
  keeps : ∀ p, p < place ∨ place + bs.length ≤ p → Keeps p m.content m'.content
  calls : ∃ new, m'.calls.toList = m.calls.toList ++ new ∧ Lays place bs new

theorem Lays.append {place : Nat} {bs : List UInt8} {a b : List MediumCall}
    (ha : Lays place bs a) (hb : Lays place bs b) : Lays place bs (a ++ b) := by
  intro position taken h
  rcases List.mem_append.mp h with h | h
  · exact ha position taken h
  · exact hb position taken h

/-- What is a part of the rest at its place is a part of the whole there. -/
theorem Lays.extend {place : Nat} {a b : List UInt8} {calls : List MediumCall}
    (h : Lays (place + a.length) b calls) : Lays place (a ++ b) calls := by
  intro position taken ht
  obtain ⟨start, finish, part⟩ := h position taken ht
  refine ⟨by omega, by rw [List.length_append]; omega, ?_⟩
  rwa [List.drop_append, List.drop_eq_nil_of_le (by omega), List.nil_append, Nat.sub_sub]

theorem Lays.widen {place : Nat} {a b : List UInt8} {calls : List MediumCall}
    (h : Lays place a calls) : Lays place (a ++ b) calls := by
  intro position taken ht
  obtain ⟨start, finish, part⟩ := h position taken ht
  refine ⟨start, by rw [List.length_append]; omega, ?_⟩
  rw [List.drop_append_of_le_length (by omega), List.take_append_of_le_length]
  · exact part
  · rw [List.length_drop]
    omega

namespace Puts

variable {place : Nat} {a b bs : List UInt8} {m m' m'' : Medium}

/-- Calls that write nothing. -/
theorem quiet (content : m'.content = m.content)
    (calls : ∃ new, m'.calls.toList = m.calls.toList ++ new ∧ ∀ p o, .write p o ∉ new) :
    Puts place bs m m' := by
  obtain ⟨new, hnew, none⟩ := calls
  refine ⟨fun p _ => ?_, new, hnew, fun p o h => absurd h (none p o)⟩
  rw [content]
  exact .refl p m.content

theorem refl (place : Nat) (bs : List UInt8) (m : Medium) : Puts place bs m m :=
  quiet rfl ⟨[], by simp, by simp⟩

theorem trans (first : Puts place bs m m') (second : Puts place bs m' m'') :
    Puts place bs m m'' := by
  obtain ⟨c, hc, lc⟩ := first.calls
  obtain ⟨d, hd, ld⟩ := second.calls
  refine ⟨fun p h => (first.keeps p h).trans (second.keeps p h), c ++ d, ?_, lc.append ld⟩
  rw [hd, hc, List.append_assoc]

theorem widen (h : Puts place a m m') : Puts place (a ++ b) m m' := by
  obtain ⟨c, hc, lc⟩ := h.calls
  refine ⟨fun p hp => h.keeps p ?_, c, hc, lc.widen⟩
  rw [List.length_append] at hp
  omega

theorem extend (h : Puts (place + a.length) b m m') : Puts place (a ++ b) m m' := by
  obtain ⟨c, hc, lc⟩ := h.calls
  refine ⟨fun p hp => h.keeps p ?_, c, hc, lc.extend⟩
  rw [List.length_append] at hp
  omega

/-- The rest of the octets is put behind the first of them. -/
theorem append (first : Puts place a m m') (second : Puts (place + a.length) b m' m'') :
    Puts place (a ++ b) m m'' :=
  first.widen.trans second.extend

end Puts

/-- Calls that write nothing in front of a place. -/
structure Behind (place : Nat) (m m' : Medium) : Prop where
  keeps : ∀ p < place, Keeps p m.content m'.content
  calls : ∃ new, m'.calls.toList = m.calls.toList ++ new ∧
    ∀ position taken, .write position taken ∈ new → place ≤ position

namespace Behind

variable {place : Nat} {bs : List UInt8} {m m' m'' : Medium}

theorem of_puts {start : Nat} (h : Puts start bs m m') (le : place ≤ start) :
    Behind place m m' := by
  obtain ⟨new, hnew, lays⟩ := h.calls
  refine ⟨fun p hp => h.keeps p (Or.inl (by omega)), new, hnew, fun position taken ht => ?_⟩
  exact Nat.le_trans le (lays position taken ht).1

theorem refl (place : Nat) (m : Medium) : Behind place m m :=
  of_puts (.refl place [] m) (Nat.le_refl place)

theorem trans (first : Behind place m m') (second : Behind place m' m'') :
    Behind place m m'' := by
  obtain ⟨c, hc, behindC⟩ := first.calls
  obtain ⟨d, hd, behindD⟩ := second.calls
  refine ⟨fun p hp => (first.keeps p hp).trans (second.keeps p hp), c ++ d, ?_, ?_⟩
  · rw [hd, hc, List.append_assoc]
  · intro position taken h
    rcases List.mem_append.mp h with h | h
    · exact behindC position taken h
    · exact behindD position taken h

end Behind

/-! ### One call -/

variable {bs : List UInt8} {m : Medium}

@[simp] theorem take_position (m : Medium) (bs : List UInt8) :
    (m.take bs).position = m.position + bs.length := rfl

theorem puts_take (m : Medium) (bs : List UInt8) : Puts m.position bs m (m.take bs) := by
  refine ⟨fun p outside => ?_, [.write m.position bs], by simp [take], ?_⟩
  · rw [take]
    split
    · exact keeps_putAt outside
    · exact .refl p m.content
  · intro position taken h
    simp only [List.mem_singleton, MediumCall.write.injEq] at h
    obtain ⟨rfl, rfl⟩ := h
    simp

theorem puts_seek (place : Nat) (bs : List UInt8) (position : Nat) (m : Medium) :
    Puts place bs m (seek position m).2 := by
  refine Puts.quiet ?_ ⟨[.seek position], ?_, by simp⟩ <;>
    · rw [seek]
      split <;> simp

theorem seek_position {position : Nat} (h : (seek position m).1 = .ok ()) :
    (seek position m).2.position = position := by
  rw [seek] at h ⊢
  split at h
  · cases h
  · rfl

theorem puts_flush (place : Nat) (bs : List UInt8) (m : Medium) :
    Puts place bs m (flush m).2 := by
  refine Puts.quiet ?_ ⟨[.flush], ?_, by simp⟩ <;>
    · rw [flush]
      split <;> simp

/-- Octets are put at the position whatever the script says, and all of them if it goes well. -/
theorem puts_writeWith (steps : List WriteStep) (bs : List UInt8) (m : Medium) :
    Puts m.position bs m (writeWith steps bs m).2 ∧
      ((writeWith steps bs m).1 = .ok () →
        (writeWith steps bs m).2.position = m.position + bs.length) := by
  induction steps generalizing bs m with
  | nil =>
    cases bs with
    | nil => exact ⟨.quiet rfl ⟨[], by simp [writeWith], by simp⟩, fun _ => rfl⟩
    | cons b bs => exact ⟨⟨(puts_take m _).keeps, (puts_take m _).calls⟩, fun _ => rfl⟩
  | cons step steps ih =>
    cases bs with
    | nil => exact ⟨.quiet rfl ⟨[], by simp [writeWith], by simp⟩, fun _ => rfl⟩
    | cons b bs =>
      cases step with
      | all => exact ⟨⟨(puts_take m _).keeps, (puts_take m _).calls⟩, fun _ => rfl⟩
      | upTo n =>
        have first : Puts m.position ((b :: bs).take n) m (m.take ((b :: bs).take n)) :=
          puts_take m _
        rw [writeWith]
        by_cases hn : n = 0
        · rw [if_pos hn]
          refine ⟨?_, fun h => by cases h⟩
          have whole := first.widen (b := (b :: bs).drop n)
          rw [List.take_append_drop] at whole
          exact ⟨whole.keeps, whole.calls⟩
        · rw [if_neg hn]
          obtain ⟨rest, position⟩ := ih ((b :: bs).drop n) (m.take ((b :: bs).take n))
          refine ⟨?_, fun h => ?_⟩
          · have whole := first.append rest
            rwa [List.take_append_drop] at whole
          · rw [position h, take_position, Nat.add_assoc, ← List.length_append,
              List.take_append_drop]
      | fail e =>
        have noted : Puts m.position (b :: bs) m
            { m with calls := m.calls.push .writeFailed } :=
          .quiet rfl ⟨[.writeFailed], by simp, by simp⟩
        rw [writeWith]
        by_cases he : e = .interrupted
        · rw [if_pos he]
          obtain ⟨rest, position⟩ := ih (b :: bs) { m with calls := m.calls.push .writeFailed }
          exact ⟨noted.trans rest, position⟩
        · rw [if_neg he]
          exact ⟨⟨noted.keeps, noted.calls⟩, fun h => by cases h⟩

/-- A write never moves the position back, even if it fails. -/
theorem le_position_writeWith (steps : List WriteStep) (bs : List UInt8) (m : Medium) :
    m.position ≤ (writeWith steps bs m).2.position := by
  induction steps generalizing bs m with
  | nil =>
    cases bs with
    | nil => exact Nat.le_refl _
    | cons b bs => exact Nat.le_add_right _ _
  | cons step steps ih =>
    cases bs with
    | nil => exact Nat.le_refl _
    | cons b bs =>
      cases step with
      | all => exact Nat.le_add_right _ _
      | upTo n =>
        rw [writeWith]
        by_cases hn : n = 0
        · rw [if_pos hn]
          exact Nat.le_add_right _ _
        · rw [if_neg hn]
          exact Nat.le_trans (Nat.le_add_right _ _) (ih _ (m.take ((b :: bs).take n)))
      | fail e =>
        rw [writeWith]
        by_cases he : e = .interrupted
        · rw [if_pos he]
          exact ih (b :: bs) { m with calls := m.calls.push .writeFailed }
        · simp only [if_neg he, Nat.le_refl]

theorem puts_writeAll (bs : List UInt8) (m : Medium) :
    Puts m.position bs m (writeAll bs m).2 :=
  (puts_writeWith m.writes bs m).1

theorem le_position_writeAll (bs : List UInt8) (m : Medium) :
    m.position ≤ (writeAll bs m).2.position :=
  le_position_writeWith m.writes bs m

theorem writeAll_position (h : (writeAll bs m).1 = .ok ()) :
    (writeAll bs m).2.position = m.position + bs.length :=
  (puts_writeWith m.writes bs m).2 h

/-! ### Media that take everything in the end -/

/-- No call fails for good. -/
structure Steady (m : Medium) : Prop where
  seeks : ∀ fault ∈ m.seeks, fault = none
  writes : ∀ step ∈ m.writes, step.IsSteady
  flushes : ∀ fault ∈ m.flushes, fault = none
  limit : m.limit = none

/-- A steady medium after octets were put at its position. -/
structure Took (bs : List UInt8) (m m' : Medium) : Prop where
  steady : m'.Steady
  content : m'.content = putAt m.position bs m.content
  position : m'.position = m.position + bs.length

theorem Steady.head?_join {faults : List (Option FileError)}
    (h : ∀ fault ∈ faults, fault = none) : faults.head?.join = none := by
  cases faults with
  | nil => rfl
  | cons fault faults =>
    rw [h fault List.mem_cons_self]
    rfl

theorem seek_of_steady (h : m.Steady) (position : Nat) :
    ∃ m', seek position m = (.ok (), m') ∧ m'.Steady ∧ m'.content = m.content ∧
      m'.position = position := by
  rw [seek, Steady.head?_join h.seeks]
  refine ⟨_, rfl, ?_, rfl, rfl⟩
  exact ⟨fun fault hf => h.seeks fault (List.mem_of_mem_tail hf), h.writes, h.flushes, h.limit⟩

theorem flush_of_steady (h : m.Steady) :
    ∃ m', flush m = (.ok (), m') ∧ m'.Steady ∧ m'.content = m.content ∧
      m'.position = m.position := by
  rw [flush, Steady.head?_join h.flushes]
  refine ⟨_, rfl, ?_, rfl, rfl⟩
  exact ⟨h.seeks, h.writes, fun fault hf => h.flushes fault (List.mem_of_mem_tail hf), h.limit⟩

/-- One write of a steady medium, whatever its script is after it. -/
theorem took_take {steps : List WriteStep} (h : m.Steady) (hs : ∀ step ∈ steps, step.IsSteady)
    (bs : List UInt8) : Took bs m { m.take bs with writes := steps } where
  steady := ⟨h.seeks, hs, h.flushes, h.limit⟩
  content := by simp [take, h.limit]
  position := rfl

theorem Took.append {a b : List UInt8} {m m' m'' : Medium} (first : Took a m m')
    (second : Took b m' m'') : Took (a ++ b) m m'' where
  steady := second.steady
  content := by rw [second.content, first.content, first.position, putAt_putAt]
  position := by rw [second.position, first.position, List.length_append, Nat.add_assoc]

/-- The script is used up, so every write ends; what was interrupted is made again, and what
was left over is written next. -/
theorem writeWith_of_steady (steps : List WriteStep) (bs : List UInt8) (m : Medium)
    (h : m.Steady) (hs : ∀ step ∈ steps, step.IsSteady) :
    ∃ m', writeWith steps bs m = (.ok (), m') ∧ Took bs m m' := by
  induction steps generalizing bs m with
  | nil =>
    cases bs with
    | nil => exact ⟨_, rfl, ⟨h.seeks, by simp, h.flushes, h.limit⟩, rfl, rfl⟩
    | cons b bs => exact ⟨_, rfl, took_take h (by simp) _⟩
  | cons step steps ih =>
    obtain ⟨headway, rest⟩ := List.forall_mem_cons.mp hs
    cases bs with
    | nil => exact ⟨_, rfl, ⟨h.seeks, hs, h.flushes, h.limit⟩, rfl, rfl⟩
    | cons b bs =>
      cases step with
      | all => exact ⟨_, rfl, took_take h rest _⟩
      | upTo n =>
        have first : Took ((b :: bs).take n) m (m.take ((b :: bs).take n)) :=
          took_take h h.writes _
        obtain ⟨m', written, second⟩ := ih ((b :: bs).drop n) _ first.steady rest
        refine ⟨m', ?_, ?_⟩
        · rw [writeWith, if_neg headway]
          exact written
        · have whole := first.append second
          rwa [List.take_append_drop] at whole
      | fail e =>
        have interrupted : e = .interrupted := headway
        obtain ⟨m', written, took⟩ := ih (b :: bs)
          { m with calls := m.calls.push .writeFailed }
          ⟨h.seeks, h.writes, h.flushes, h.limit⟩ rest
        refine ⟨m', ?_, took.steady, took.content, took.position⟩
        rw [writeWith, if_pos interrupted]
        exact written

theorem writeAll_of_steady (h : m.Steady) (bs : List UInt8) :
    ∃ m', writeAll bs m = (.ok (), m') ∧ Took bs m m' :=
  writeWith_of_steady m.writes bs m h h.writes

end Medium

end PlayerLink
