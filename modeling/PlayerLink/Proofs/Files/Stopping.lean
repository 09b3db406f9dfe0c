import PlayerLink.Proofs.Files.Writing

/-!
# Where a write stops

A write that fails for good has taken a first part of its octets and nothing behind it. `Stops` says
how long that part is: the file has it over what was there before, and the calls that were made took
as many octets between them.
-/

namespace PlayerLink

/-- How many octets a call put down that were to start in front of a place. -/
def MediumCall.octetsBefore (place : Nat) : MediumCall → Nat
  | .write position taken => if position < place then taken.length else 0
  | _ => 0

/-- How many octets calls put down in front of a place. -/
def octetsBefore (place : Nat) (calls : List MediumCall) : Nat :=
  totalOf (MediumCall.octetsBefore place) calls

theorem octetsBefore_append (place : Nat) (a b : List MediumCall) :
    octetsBefore place (a ++ b) = octetsBefore place a + octetsBefore place b :=
  totalOf_append _ a b

namespace Medium

/-- The calls of a write that was to put octets at a place and stopped behind the first `k`. -/
structure StopsAt (place : Nat) (bs : List UInt8) (k : Nat) (calls : List MediumCall) : Prop where
  still : ∀ p, .seek p ∉ calls
  front : ∀ n, place + bs.length ≤ n → octetsBefore n calls = k
  behind : ∀ n, n ≤ place → octetsBefore n calls = 0

/-- A write that stopped behind the first `k` of its octets. -/
structure Stops (bs : List UInt8) (k : Nat) (m m' : Medium) : Prop where
  le : k ≤ bs.length
  position : m'.position = m.position + k
  limit : m'.limit = m.limit
  content : m.limit = none → m'.content = putAt m.position (bs.take k) m.content
  calls : ∃ new, m'.calls.toList = m.calls.toList ++ new ∧ StopsAt m.position bs k new

variable {place k : Nat} {a b bs : List UInt8} {m m' m'' : Medium}

/-- The rest was to go behind a first part that was taken whole. -/
theorem StopsAt.append {c d : List MediumCall} (first : StopsAt place a a.length c)
    (second : StopsAt (place + a.length) b k d) :
    StopsAt place (a ++ b) (a.length + k) (c ++ d) where
  still p h := by
    rcases List.mem_append.mp h with h | h
    · exact first.still p h
    · exact second.still p h
  front n le := by
    rw [List.length_append] at le
    rw [octetsBefore_append, first.front n (by omega), second.front n (by omega)]
  behind n le := by
    rw [octetsBefore_append, first.behind n le, second.behind n (by omega)]

namespace Stops

/-- Nothing was taken, and only a failure was noted, if anything. -/
theorem none (bs : List UInt8) (position : m'.position = m.position) (limit : m'.limit = m.limit)
    (content : m'.content = m.content)
    (calls : m'.calls = m.calls ∨ m'.calls = m.calls.push .writeFailed) : Stops bs 0 m m' where
  le := Nat.zero_le _
  position := position
  limit := limit
  content _ := by rw [content, List.take_zero, putAt_nil]
  calls := by
    rcases calls with same | failed
    · exact ⟨[], by simp [same], by simp, fun _ _ => rfl, fun _ _ => rfl⟩
    · exact ⟨[.writeFailed], by simp [failed], by simp, fun _ _ => rfl, fun _ _ => rfl⟩

/-- One call that took everything it was offered. -/
theorem take (m : Medium) (bs : List UInt8) : Stops bs bs.length m (m.take bs) where
  le := Nat.le_refl _
  position := rfl
  limit := rfl
  content kept := by simp [Medium.take, kept]
  calls := by
    refine ⟨[.write m.position bs], by simp [Medium.take], by simp, ?_, ?_⟩
    · intro n le
      have inside : m.position < n ∨ bs.length = 0 := by omega
      simp only [octetsBefore, totalOf, MediumCall.octetsBefore]
      split <;> omega
    · intro n le
      simp only [octetsBefore, totalOf, MediumCall.octetsBefore]
      rw [if_neg (by omega)]

theorem append (first : Stops a a.length m m') (second : Stops b k m' m'') :
    Stops (a ++ b) (a.length + k) m m'' where
  le := by
    rw [List.length_append]
    exact Nat.add_le_add_left second.le _
  position := by rw [second.position, first.position, Nat.add_assoc]
  limit := second.limit.trans first.limit
  content kept := by
    rw [second.content (first.limit.trans kept), first.content kept, first.position,
      List.take_length, putAt_putAt, List.take_length_add_append]
  calls := by
    obtain ⟨c, hc, stopsC⟩ := first.calls
    obtain ⟨d, hd, stopsD⟩ := second.calls
    refine ⟨c ++ d, by rw [hd, hc, List.append_assoc], stopsC.append ?_⟩
    rw [← first.position]
    exact stopsD

/-- A failure that does not end the write was noted before it. -/
theorem afterFailure (h : Stops bs k { m with calls := m.calls.push .writeFailed } m') :
    Stops bs k m m' where
  le := h.le
  position := h.position
  limit := h.limit
  content := h.content
  calls := by
    obtain ⟨new, hnew, stops⟩ := h.calls
    refine ⟨.writeFailed :: new, by rw [hnew]; simp, ?_, ?_, ?_⟩
    · intro p hp
      rcases List.mem_cons.mp hp with failed | hp
      · cases failed
      · exact stops.still p hp
    · intro n le
      exact (Nat.zero_add _).trans (stops.front n le)
    · intro n le
      exact (Nat.zero_add _).trans (stops.behind n le)

/-- What is left of the script does not matter. -/
theorem withWrites (h : Stops bs k m m') (steps : List WriteStep) :
    Stops bs k m { m' with writes := steps } :=
  ⟨h.le, h.position, h.limit, h.content, h.calls⟩

end Stops

/-- Whatever the script says, a write stops somewhere, and behind the last octet if it succeeds. -/
theorem exists_stops_writeWith (steps : List WriteStep) (bs : List UInt8) (m : Medium) :
    ∃ k, Stops bs k m (writeWith steps bs m).2 ∧
      ((writeWith steps bs m).1 = .ok () → k = bs.length) := by
  induction steps generalizing bs m with
  | nil =>
    cases bs with
    | nil => exact ⟨0, .none [] rfl rfl rfl (Or.inl rfl), fun _ => rfl⟩
    | cons b bs => exact ⟨_, (Stops.take m (b :: bs)).withWrites [], fun _ => rfl⟩
  | cons step steps ih =>
    cases bs with
    | nil => exact ⟨0, .none [] rfl rfl rfl (Or.inl rfl), fun _ => rfl⟩
    | cons b bs =>
      cases step with
      | all => exact ⟨_, (Stops.take m (b :: bs)).withWrites steps, fun _ => rfl⟩
      | upTo n =>
        have first := Stops.take m ((b :: bs).take n)
        rw [writeWith]
        by_cases hn : n = 0
        · subst hn
          have still : Stops (b :: bs) 0 (m.take []) (m.take []) :=
            .none (b :: bs) rfl rfl rfl (Or.inl rfl)
          exact ⟨0, (first.append still).withWrites steps, by rintro ⟨⟩⟩
        · obtain ⟨k, rest, whole⟩ := ih ((b :: bs).drop n) (m.take ((b :: bs).take n))
          rw [if_neg hn]
          refine ⟨((b :: bs).take n).length + k, ?_, ?_⟩
          · have all := first.append rest
            rwa [List.take_append_drop] at all
          · intro ok
            rw [whole ok, ← List.length_append, List.take_append_drop]
      | fail e =>
        rw [writeWith]
        by_cases he : e = .interrupted
        · obtain ⟨k, rest, whole⟩ := ih (b :: bs) { m with calls := m.calls.push .writeFailed }
          rw [if_pos he]
          exact ⟨k, rest.afterFailure, whole⟩
        · rw [if_neg he]
          exact ⟨0, .none (b :: bs) rfl rfl rfl (Or.inr rfl), by rintro ⟨⟩⟩

theorem exists_stops_writeAll (bs : List UInt8) (m : Medium) :
    ∃ k, Stops bs k m (writeAll bs m).2 ∧ ((writeAll bs m).1 = .ok () → k = bs.length) :=
  exists_stops_writeWith m.writes bs m

end Medium

end PlayerLink
