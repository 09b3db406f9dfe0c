import PlayerLink.Files.Medium

/-!
# Octets of a file, place by place

A write changes the octets between its two ends and no other; before its start it can only add
the zeros that fill a gap. `Keeps` says this of one place, for any two contents of a file, so
that it can be followed through any number of writes.
-/

namespace PlayerLink

/-- The sum of what the members of a list measure. -/
def totalOf {α : Type} (measure : α → Nat) : List α → Nat
  | [] => 0
  | a :: rest => measure a + totalOf measure rest

theorem totalOf_append {α : Type} (measure : α → Nat) (as bs : List α) :
    totalOf measure (as ++ bs) = totalOf measure as + totalOf measure bs := by
  induction as with
  | nil => exact (Nat.zero_add _).symm
  | cons a rest ih => rw [List.cons_append, totalOf, totalOf, ih, Nat.add_assoc]

theorem totalOf_map {α β : Type} (measure : β → Nat) (f : α → β) (as : List α) :
    totalOf measure (as.map f) = totalOf (fun a => measure (f a)) as := by
  induction as with
  | nil => rfl
  | cons a rest ih => rw [List.map_cons, totalOf, totalOf, ih]

theorem getElem?_zeroPad (n : Nat) (bs : List UInt8) (p : Nat) :
    (zeroPad n bs)[p]? = if p < n then some (bs.getD p 0) else none := by
  have hl : (bs.take n).length = min n bs.length := List.length_take
  rw [zeroPad, hl]
  by_cases hn : p < n
  · rw [if_pos hn]
    by_cases hb : p < bs.length
    · rw [List.getElem?_append_left (by omega), List.getElem?_take_of_lt hn,
        List.getD_eq_getElem?_getD, List.getElem?_eq_getElem hb, Option.getD_some]
    · rw [List.getElem?_append_right (by omega), List.getElem?_replicate, if_pos (by omega),
        List.getD_eq_getElem?_getD, List.getElem?_eq_none (by omega), Option.getD_none]
  · rw [if_neg hn]
    apply List.getElem?_eq_none
    simp only [List.length_append, List.length_replicate, hl]
    omega

/-- Every place of a file after a write: what was written, what was there, or a filled gap. -/
theorem getElem?_putAt {position : Nat} {bs content : List UInt8} (h : bs ≠ []) (p : Nat) :
    (putAt position bs content)[p]? =
      if p < position then some (content.getD p 0)
      else if p < position + bs.length then bs[p - position]?
      else content[p]? := by
  have hz : (zeroPad position content).length = position := length_zeroPad position content
  rw [putAt, if_neg (by simpa using h), List.append_assoc]
  by_cases hp : p < position
  · rw [if_pos hp, List.getElem?_append_left (by omega), getElem?_zeroPad, if_pos hp]
  · rw [if_neg hp, List.getElem?_append_right (by omega), hz]
    by_cases hb : p < position + bs.length
    · rw [if_pos hb, List.getElem?_append_left (by omega)]
    · rw [if_neg hb, List.getElem?_append_right (by omega), List.getElem?_drop]
      congr 1
      omega

@[simp] theorem putAt_nil (position : Nat) (content : List UInt8) :
    putAt position [] content = content := rfl

/-- Two writes, the second right behind the first, are one. -/
theorem putAt_putAt (position : Nat) (a b content : List UInt8) :
    putAt (position + a.length) b (putAt position a content) = putAt position (a ++ b) content := by
  by_cases ha : a = []
  · simp [ha]
  by_cases hb : b = []
  · simp [hb]
  have hab : a ++ b ≠ [] := by simp [ha]
  apply List.ext_getElem?
  intro p
  rw [getElem?_putAt hb, getElem?_putAt hab, List.getD_eq_getElem?_getD, getElem?_putAt ha,
    List.getElem?_append, List.length_append]
  by_cases hp : p < position
  · simp [hp, show p < position + a.length by omega]
  by_cases hpa : p < position + a.length
  · have hin : p - position < a.length := by omega
    simp [hp, hpa, hin, show p < position + (a.length + b.length) by omega]
  · have hout : ¬ p - position < a.length := by omega
    simp only [hp, hpa, hout, if_false, Nat.add_assoc, Nat.sub_sub]

/-- A write at the end of a file. -/
theorem putAt_length (bs content : List UInt8) :
    putAt content.length bs content = content ++ bs := by
  cases bs with
  | nil => simp
  | cons b bs => simp [putAt, zeroPad_of_le]

/-- A write at the start of a file. -/
theorem putAt_zero (bs content : List UInt8) :
    putAt 0 bs content = bs ++ content.drop bs.length := by
  cases bs with
  | nil => rfl
  | cons b bs => simp [putAt, zeroPad_of_le]

/-- The octet at a place is still the one that was there. Where the file did not reach, there may
be a zero now, which fills the gap before something that was written further on. -/
def Keeps (p : Nat) (before after : List UInt8) : Prop :=
  after[p]? = before[p]? ∨ before[p]? = none ∧ after[p]? = some 0

namespace Keeps

variable {p : Nat} {a b c : List UInt8}

theorem refl (p : Nat) (a : List UInt8) : Keeps p a a := Or.inl rfl

theorem trans (first : Keeps p a b) (second : Keeps p b c) : Keeps p a c := by
  rcases second with same | ⟨none, zero⟩
  · rcases first with h | ⟨hn, hz⟩
    · exact Or.inl (same.trans h)
    · exact Or.inr ⟨hn, same.trans hz⟩
  · rcases first with h | ⟨-, hz⟩
    · exact Or.inr ⟨h.symm.trans none, zero⟩
    · rw [hz] at none
      cases none

end Keeps

/-- A write keeps every place outside of the run that it fills. -/
theorem keeps_putAt {position p : Nat} {bs content : List UInt8}
    (outside : p < position ∨ position + bs.length ≤ p) :
    Keeps p content (putAt position bs content) := by
  by_cases hb : bs = []
  · rw [hb, putAt_nil]
    exact .refl p content
  rw [Keeps, getElem?_putAt hb]
  rcases outside with before | behind
  · rw [if_pos before, List.getD_eq_getElem?_getD]
    cases content[p]? with
    | none => exact Or.inr ⟨rfl, rfl⟩
    | some o => exact Or.inl rfl
  · rw [if_neg (by omega), if_neg (by omega)]
    exact Or.inl rfl

/-- A first part that is new, and behind it what was there. -/
theorem take_eq_of_keeps {n : Nat} (new : List UInt8) {before after : List UInt8}
    (fits : new.length ≤ n) (long : n ≤ before.length)
    (front : ∀ p < new.length, after[p]? = new[p]?)
    (keeps : ∀ p, new.length ≤ p → p < n → Keeps p before after) :
    after.take n = new ++ (before.take n).drop new.length := by
  apply List.ext_getElem?
  intro p
  by_cases inside : p < n
  · rw [List.getElem?_take_of_lt inside]
    by_cases first : p < new.length
    · rw [front p first, List.getElem?_append_left first]
    · rw [List.getElem?_append_right (by omega), List.getElem?_drop,
        Nat.add_sub_cancel' (by omega), List.getElem?_take_of_lt inside]
      rcases keeps p (by omega) inside with same | ⟨none, -⟩
      · exact same
      · rw [List.getElem?_eq_none_iff] at none
        omega
  · have short : (new ++ (before.take n).drop new.length).length ≤ p := by
      rw [List.length_append, List.length_drop, List.length_take]
      omega
    rw [List.getElem?_eq_none short, List.getElem?_eq_none (by rw [List.length_take]; omega)]

/-- Two runs that start alike may be cut anywhere and joined: the joined run starts like them. -/
theorem take_take_append_drop {a b : List UInt8} {k n : Nat} (alike : a.take n = b.take n)
    (long : k ≤ a.length) : (a.take k ++ b.drop k).take n = a.take n := by
  have part : (a.take k).length = k := by
    rw [List.length_take, Nat.min_eq_left long]
  by_cases cut : n ≤ k
  · rw [List.take_append_of_le_length (by omega), List.take_take, Nat.min_eq_left cut]
  · have rest : (b.drop k).take (n - k) = (a.take n).drop k := by
      rw [alike, List.drop_take]
    have first : a.take k = (a.take n).take k := by
      rw [List.take_take, Nat.min_eq_left (by omega)]
    rw [List.take_append, part, rest, List.take_of_length_le (by omega), first,
      List.take_append_drop]

end PlayerLink
