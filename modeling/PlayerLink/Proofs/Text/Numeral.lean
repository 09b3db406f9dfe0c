import Mathlib.Algebra.Order.Ring.Nat
import Mathlib.Data.List.Induction
import PlayerLink.Text.Numeral

/-!
# What a numeral writes

`Writes` is positional notation: a digit is a numeral, and a digit behind a numeral makes the number
`base` times as large and adds its own value. Reading and showing are measured by it. `readDigits`
reads the numerals and nothing else and gives what they write; what `digits` shows is a numeral for
the number that is shown, however many zeros stand in front and in either case.
-/

namespace PlayerLink.Text.Numeral

/-- A digit of the base and its value. Digits past nine are letters, in either case. -/
def IsDigit (base : Nat) (c : Char) (v : Nat) : Prop :=
  v < base ∧ (c = v.digitChar ∨ c = v.digitChar.toUpper)

/-- One or more digits, the most significant first, and the number that they write. -/
inductive Writes (base : Nat) : List Char → Nat → Prop
  | digit {c : Char} {v : Nat} (only : IsDigit base c v) : Writes base [c] v
  | append {cs : List Char} {n : Nat} {c : Char} {v : Nat} (front : Writes base cs n)
      (last : IsDigit base c v) : Writes base (cs ++ [c]) (n * base + v)

/-- A numeral with or without a plus sign in front of it, and its number. -/
def Signed (base : Nat) (cs : List Char) (n : Nat) : Prop :=
  Writes base cs n ∨ ∃ ds, cs = '+' :: ds ∧ Writes base ds n

variable {base width limit n v : Nat} {c : Char} {cs : List Char}

/-! ### Digits -/

theorem digitValue_digitChar : ∀ v < 16,
    digitValue v.digitChar = some v ∧ digitValue v.digitChar.toUpper = some v := by
  decide

theorem digitChar_of_digitValue (h : digitValue c = some v) :
    v < 16 ∧ (c = v.digitChar ∨ c = v.digitChar.toUpper) := by
  -- All digits are among the first characters, so there are few to look at.
  have few : ∀ k < 0x67, ∀ v ∈ digitValue (Char.ofNat k), v < 16 ∧
      (Char.ofNat k = v.digitChar ∨ Char.ofNat k = v.digitChar.toUpper) := by
    decide
  have le (d : Char) (hd : c ≤ d) (small : d.toNat < 0x67) : c.toNat < 0x67 :=
    Nat.lt_of_le_of_lt (UInt32.le_iff_toNat_le.mp hd) small
  have bound : c.toNat < 0x67 := by
    simp only [digitValue] at h
    split at h
    · next range => exact le '9' range.2 (by decide)
    · split at h
      · next range => exact le 'f' range.2 (by decide)
      · split at h
        · next range => exact le 'F' range.2 (by decide)
        · cases h
  have found := few c.toNat bound v
  rw [Char.ofNat_toNat] at found
  exact found h

theorem digitIn_eq_some_iff (small : base ≤ 16) : digitIn base c = some v ↔ IsDigit base c v := by
  rw [digitIn, Option.filter_eq_some_iff, decide_eq_true_eq]
  constructor
  · rintro ⟨value, lt⟩
    exact ⟨lt, (digitChar_of_digitValue value).2⟩
  · rintro ⟨lt, rfl | rfl⟩
    · exact ⟨(digitValue_digitChar v (by omega)).1, lt⟩
    · exact ⟨(digitValue_digitChar v (by omega)).2, lt⟩

theorem isDigit_zero (pos : 0 < base) : IsDigit base '0' 0 := ⟨pos, Or.inl rfl⟩

theorem isDigit_digitChar (lt : v < base) : IsDigit base v.digitChar v := ⟨lt, Or.inl rfl⟩

/-- Every number past fifteen has the same mark in place of a digit. -/
theorem digitChar_cases {P : Char → Prop} (low : ∀ v < 16, P (Nat.digitChar v)) (high : P '*')
    (v : Nat) : P v.digitChar := by
  by_cases lt : v < 16
  · exact low v lt
  · rw [Nat.digitChar_eq_star.mpr (Nat.le_of_not_lt lt)]
    exact high

theorem IsDigit.toUpper (h : IsDigit base c v) : IsDigit base c.toUpper v := by
  obtain ⟨lt, rfl | rfl⟩ := h
  · exact ⟨lt, Or.inr rfl⟩
  · refine ⟨lt, Or.inr ?_⟩
    exact digitChar_cases (P := fun d => d.toUpper.toUpper = d.toUpper) (by decide) (by decide) v

theorem IsDigit.utf8Size (h : IsDigit base c v) : c.utf8Size = 1 := by
  obtain ⟨-, rfl | rfl⟩ := h
  · exact digitChar_cases (P := fun d => d.utf8Size = 1) (by decide) (by decide) v
  · exact digitChar_cases (P := fun d => d.toUpper.utf8Size = 1) (by decide) (by decide) v

/-- Neither a sign nor a colon is a digit. -/
theorem IsDigit.ne (h : IsDigit base c v) : c ≠ '+' ∧ c ≠ ':' := by
  obtain ⟨-, rfl | rfl⟩ := h
  · exact digitChar_cases (P := fun d => d ≠ '+' ∧ d ≠ ':') (by decide) (by decide) v
  · exact digitChar_cases (P := fun d => d.toUpper ≠ '+' ∧ d.toUpper ≠ ':') (by decide) (by decide)
      v

/-! ### Numerals -/

namespace Writes

theorem exists_isDigit (h : Writes base cs n) : ∀ c ∈ cs, ∃ v, IsDigit base c v := by
  induction h with
  | digit only => simpa using ⟨_, only⟩
  | append front last ih =>
    intro d hd
    rcases List.mem_append.mp hd with hd | hd
    · exact ih d hd
    · rw [List.mem_singleton.mp hd]
      exact ⟨_, last⟩

theorem lt_pow (h : Writes base cs n) : n < base ^ cs.length := by
  induction h with
  | digit only => simpa using only.1
  | @append cs n c v front last ih =>
    have next : n * base + base ≤ base ^ cs.length * base := by
      rw [← Nat.succ_mul]
      exact Nat.mul_le_mul_right base ih
    have lt := last.1
    rw [List.length_append, List.length_singleton, Nat.pow_succ]
    omega

theorem ne_nil (h : Writes base cs n) : cs ≠ [] := by
  cases h <;> simp

theorem zero_cons (h : Writes base cs n) : Writes base ('0' :: cs) n := by
  induction h with
  | digit only =>
    have led := append (.digit (isDigit_zero (Nat.zero_lt_of_lt only.1))) only
    rwa [Nat.zero_mul, Nat.zero_add] at led
  | append front last ih => exact append ih last

theorem toUpper (h : Writes base cs n) : Writes base (cs.map Char.toUpper) n := by
  induction h with
  | digit only => exact digit only.toUpper
  | append front last ih =>
    rw [List.map_append]
    exact append ih last.toUpper

end Writes

theorem Signed.ne_nil (h : Signed base cs n) : cs ≠ [] := by
  rcases h with h | ⟨ds, rfl, -⟩
  · exact h.ne_nil
  · exact List.cons_ne_nil '+' ds

theorem Signed.lt_pow (h : Signed base cs n) (pos : 0 < base) : n < base ^ cs.length := by
  rcases h with h | ⟨ds, rfl, h⟩
  · exact h.lt_pow
  · exact Nat.lt_of_lt_of_le h.lt_pow (Nat.pow_le_pow_right pos (Nat.le_succ _))

/-- Without a sign there are digits only. -/
theorem signed_iff (unsigned : '+' ∉ cs) : Signed base cs n ↔ Writes base cs n := by
  refine ⟨?_, Or.inl⟩
  rintro (h | ⟨ds, rfl, -⟩)
  · exact h
  · exact absurd List.mem_cons_self unsigned

/-! ### Reading -/

theorem readDigitsFrom_append (acc : Nat) (cs ds : List Char) :
    readDigitsFrom base acc (cs ++ ds) =
      (readDigitsFrom base acc cs).bind fun n => readDigitsFrom base n ds := by
  induction cs generalizing acc with
  | nil => rfl
  | cons c cs ih =>
    rw [List.cons_append, readDigitsFrom, readDigitsFrom, Option.bind_assoc]
    exact congrArg _ (funext fun d => ih (acc * base + d))

theorem readDigits_of_ne_nil (some : cs ≠ []) : readDigits base cs = readDigitsFrom base 0 cs := by
  cases cs with
  | nil => exact absurd rfl some
  | cons c cs => rfl

theorem readDigits_singleton (c : Char) : readDigits base [c] = digitIn base c := by
  rw [readDigits_of_ne_nil (List.cons_ne_nil c []), readDigitsFrom, Nat.zero_mul]
  simp [readDigitsFrom]

/-- One more digit behind a numeral. -/
theorem readDigits_append_singleton (some : cs ≠ []) (c : Char) :
    readDigits base (cs ++ [c]) =
      (readDigits base cs).bind fun n => (digitIn base c).map fun v => n * base + v := by
  rw [readDigits_of_ne_nil (by simp), readDigits_of_ne_nil some, readDigitsFrom_append]
  congr 1
  funext n
  rw [readDigitsFrom, Option.map_eq_bind]
  rfl

/-- Reading gives a number for the numerals alone, and it is the one that they write. -/
theorem readDigits_eq_some_iff (small : base ≤ 16) :
    readDigits base cs = some n ↔ Writes base cs n := by
  constructor
  · intro h
    induction cs using List.reverseRecOn generalizing n with
    | nil => cases h
    | append_singleton cs c ih =>
      by_cases none : cs = []
      · subst none
        rw [List.nil_append, readDigits_singleton] at h
        exact .digit ((digitIn_eq_some_iff small).mp h)
      · rw [readDigits_append_singleton none] at h
        obtain ⟨m, front, h⟩ := Option.bind_eq_some_iff.mp h
        obtain ⟨v, last, rfl⟩ := Option.map_eq_some_iff.mp h
        exact .append (ih front) ((digitIn_eq_some_iff small).mp last)
  · intro h
    induction h with
    | digit only => rw [readDigits_singleton, (digitIn_eq_some_iff small).mpr only]
    | append front last ih =>
      rw [readDigits_append_singleton front.ne_nil, ih, (digitIn_eq_some_iff small).mpr last]
      rfl

/-- A numeral writes one number only. -/
theorem Writes.unique {m : Nat} (small : base ≤ 16) (first : Writes base cs n)
    (second : Writes base cs m) : n = m := by
  rw [← readDigits_eq_some_iff small] at first second
  exact Option.some.inj (first.symm.trans second)

/-- A plus sign is passed over once. -/
theorem readUpTo_eq_some_iff (small : base ≤ 16) :
    readUpTo base limit cs = some n ↔ Signed base cs n ∧ n ≤ limit := by
  have plus (ds : List Char) (n : Nat) : ¬ Writes base ('+' :: ds) n := by
    intro h
    obtain ⟨v, digit⟩ := h.exists_isDigit '+' List.mem_cons_self
    exact digit.ne.1 rfl
  unfold readUpTo
  rw [Option.filter_eq_some_iff, decide_eq_true_eq, and_congr_left_iff]
  intro _
  rw [readDigits_eq_some_iff small]
  split
  · next ds =>
    constructor
    · exact fun h => Or.inr ⟨ds, rfl, h⟩
    · rintro (h | ⟨_, ⟨⟩, h⟩)
      · exact absurd h (plus ds n)
      · exact h
  · next unsigned =>
    constructor
    · exact Or.inl
    · rintro (h | ⟨ds, rfl, -⟩)
      · exact h
      · exact absurd rfl (unsigned ds)

/-- What is read as a word, whose numbers are those up to the limit. -/
theorem map_readUpTo_eq_some_iff {α : Type} {ofNat : Nat → α} {toNat : α → Nat} {w : α}
    (small : base ≤ 16) (toNat_ofNat : ∀ n ≤ limit, toNat (ofNat n) = n)
    (ofNat_toNat : ∀ w, ofNat (toNat w) = w) (le : ∀ w, toNat w ≤ limit) :
    (readUpTo base limit cs).map ofNat = some w ↔ Signed base cs (toNat w) := by
  rw [Option.map_eq_some_iff]
  constructor
  · rintro ⟨n, read, rfl⟩
    obtain ⟨written, within⟩ := (readUpTo_eq_some_iff small).mp read
    rwa [toNat_ofNat n within]
  · intro written
    exact ⟨toNat w, (readUpTo_eq_some_iff small).mpr ⟨written, le w⟩, ofNat_toNat w⟩

/-! ### Showing -/

theorem writes_toDigits (two : 1 < base) (n : Nat) : Writes base (Nat.toDigits base n) n := by
  induction n using Nat.strongRecOn with
  | ind n ih =>
    rw [Nat.toDigits_eq_if two]
    split
    · next lt => exact .digit (isDigit_digitChar lt)
    · next ge =>
      have shorter : n / base < n := Nat.div_lt_self (by omega) two
      have grown := (ih _ shorter).append (isDigit_digitChar (Nat.mod_lt n (by omega)))
      rwa [Nat.div_add_mod'] at grown

theorem toDigits_injective (two : 1 < base) (small : base ≤ 16) :
    Function.Injective (Nat.toDigits base) := by
  intro m n same
  have second := writes_toDigits two n
  rw [← same] at second
  exact (writes_toDigits two m).unique small second

/-- Zeros in front change nothing. -/
theorem writes_digits (two : 1 < base) (width n : Nat) : Writes base (digits base width n) n := by
  rw [digits]
  induction width - (Nat.toDigits base n).length with
  | zero => exact writes_toDigits two n
  | succ k ih => exact ih.zero_cons

/-- No more digits than the width are shown if the number has no more. -/
theorem length_digits (two : 1 < base) (pos : 0 < width) (lt : n < base ^ width) :
    (digits base width n).length = width := by
  have short := (Nat.length_toDigits_le_iff two pos).mpr lt
  rw [digits, List.length_append, List.length_replicate]
  omega

end PlayerLink.Text.Numeral
