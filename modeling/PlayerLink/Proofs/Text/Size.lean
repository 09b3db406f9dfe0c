import Mathlib.Algebra.Order.Field.Basic
import Mathlib.Algebra.Order.Field.Rat
import Mathlib.Algebra.Ring.Parity
import Mathlib.Data.List.Basic
import Mathlib.Tactic.FieldSimp
import Mathlib.Tactic.Linarith
import Mathlib.Tactic.Positivity
import Mathlib.Tactic.Ring
import PlayerLink.Proofs.Text.Numeral
import PlayerLink.Text.Size

/-!
# What the text of a size says

`Says` reads the text of a size as a number of tenths of a unit, and there is one such reading at
most. The unit is the largest one of which the size has at least one, and the tenths are the nearest
ones to the size in that unit. The unit goes by the size itself and not by what is shown of it: a
size that falls short of the next unit by no more than a twentieth of the smaller one is shown as
1024.0 of the smaller one, and no other size is. Only sizes of more than 53 bits are rounded before
any of this.
-/

namespace PlayerLink.Text.Size

open Numeral

/-- A whole number nearest to a quantity; of two that are as near, the even one. -/
structure Nearest (x : ℚ) (k : Nat) : Prop where
  near : |(k : ℚ) - x| ≤ 1 / 2
  even : |(k : ℚ) - x| = 1 / 2 → Even k

/-- The text says a number of tenths of a unit. Units are ranked from the byte, which has rank
zero. -/
def Says (s : String) (tenths rank : Nat) : Prop :=
  ∃ unit, ("B" :: units)[rank]? = some unit ∧ s = s!"{tenths / 10}.{tenths % 10} {unit}"

/-- The largest unit past the byte of which the size has at least one, and the nearest number of
tenths of it. -/
structure Scaled (size tenths rank : Nat) : Prop where
  past_byte : 1 ≤ rank
  known : rank ≤ 4
  reached : 1024 ^ rank ≤ size
  largest : rank < 4 → size < 1024 ^ (rank + 1)
  nearest : Nearest (10 * ((size : ℚ) / 1024 ^ rank)) tenths

variable {num den n k m tenths rank bytes : Nat} {x : ℚ}

/-! ### Rounding -/

namespace Nearest

theorem of_lt (h : |(k : ℚ) - x| < 1 / 2) : Nearest x k :=
  ⟨h.le, fun tie => absurd tie h.ne⟩

theorem of_even (near : |(k : ℚ) - x| ≤ 1 / 2) (even : Even k) : Nearest x k :=
  ⟨near, fun _ => even⟩

theorem bounds (h : Nearest x k) : (k : ℚ) - 1 / 2 ≤ x ∧ x ≤ k + 1 / 2 := by
  obtain ⟨below, above⟩ := abs_le.mp h.near
  constructor <;> linarith

/-- An even number is reached from a half below it on, since the tie goes to it. -/
theorem le_iff_of_even (h : Nearest x k) (even : Even m) : m ≤ k ↔ (m : ℚ) - 1 / 2 ≤ x := by
  obtain ⟨below, above⟩ := h.bounds
  constructor
  · intro le
    have le' : (m : ℚ) ≤ k := Nat.cast_le.mpr le
    linarith
  · intro le
    by_contra lt
    have next : k + 1 ≤ m := Nat.lt_of_not_le lt
    have next' : (k : ℚ) + 1 ≤ m := by exact_mod_cast next
    -- There is nothing between the two, so the quantity lies halfway and both are even.
    have tie : x = k + 1 / 2 := by linarith
    have odd : m = k + 1 := by
      have eq : (m : ℚ) = ↑(k + 1) := by
        push_cast
        linarith
      exact Nat.cast_injective eq
    have evenBelow : Even k := h.even (by rw [tie]; norm_num [abs_of_nonneg])
    rw [odd, Nat.even_add_one] at even
    exact even evenBelow

/-- The nearest multiple of a quantity is off by half of it at most. -/
theorem near_mul {c : ℚ} (h : Nearest (x / c) k) (pos : 0 < c) : |k * c - x| ≤ c / 2 := by
  obtain ⟨below, above⟩ := h.bounds
  rw [le_div_iff₀ pos] at below
  rw [div_le_iff₀ pos] at above
  rw [abs_le]
  constructor <;> linarith

/-- A whole number that is not exceeded is not exceeded after rounding either. -/
theorem le_of_le (h : Nearest x k) (le : x ≤ m) : k ≤ m := by
  have below := h.bounds.1
  have lt : (k : ℚ) < ↑(m + 1) := by
    push_cast
    linarith
  exact Nat.le_of_lt_succ (Nat.cast_lt.mp lt)

end Nearest

theorem cast_div_eq_add (pos : 0 < den) :
    (num : ℚ) / den = ↑(num / den) + ↑(num % den) / den := by
  have ne : (den : ℚ) ≠ 0 := Nat.cast_ne_zero.mpr pos.ne'
  field_simp
  exact_mod_cast (Nat.div_add_mod num den).symm

theorem div_lt_half_iff (pos : 0 < den) : (n : ℚ) / den < 1 / 2 ↔ 2 * n < den := by
  rw [div_lt_div_iff₀ (Nat.cast_pos.mpr pos) two_pos, one_mul, mul_comm]
  exact_mod_cast Iff.rfl

theorem half_lt_div_iff (pos : 0 < den) : 1 / 2 < (n : ℚ) / den ↔ den < 2 * n := by
  rw [div_lt_div_iff₀ two_pos (Nat.cast_pos.mpr pos), one_mul, mul_comm]
  exact_mod_cast Iff.rfl

theorem nearest_roundDiv (pos : 0 < den) : Nearest (num / den) (roundDiv num den) := by
  have rest_nonneg : (0 : ℚ) ≤ ↑(num % den) / den := by positivity
  have rest_lt : (↑(num % den) : ℚ) / den < 1 := by
    rw [div_lt_one (Nat.cast_pos.mpr pos)]
    exact_mod_cast Nat.mod_lt num pos
  rw [cast_div_eq_add pos, roundDiv]
  simp only [← div_lt_half_iff pos, ← half_lt_div_iff pos]
  split_ifs with below above even
  · apply Nearest.of_lt
    rw [abs_lt]
    constructor <;> linarith
  · apply Nearest.of_lt
    rw [abs_lt]
    push_cast
    constructor <;> linarith
  · apply Nearest.of_even _ (Nat.even_iff.mpr even)
    rw [abs_le]
    constructor <;> linarith
  · apply Nearest.of_even _ (Nat.even_add_one.mpr (mt Nat.even_iff.mp even))
    rw [abs_le]
    push_cast
    constructor <;> linarith

/-! ### Significant bits -/

theorem significant_of_lt (lt : n < 2 ^ 53) : significant n = n := by
  have small : n.log2 + 1 - 53 = 0 := by
    by_cases zero : n = 0
    · rw [zero]
      rfl
    · have few := (Nat.log2_lt zero).mpr lt
      omega
  simp [significant, roundDiv, small, Nat.mod_one]

/-- With 53 significant bits a size is off by one part in 2^53 at most. -/
theorem significant_near (n : Nat) : |(significant n : ℚ) - n| ≤ n / 2 ^ 53 := by
  by_cases lt : n < 2 ^ 53
  · rw [significant_of_lt lt, sub_self, abs_zero]
    positivity
  · have ne : n ≠ 0 := by
      rintro rfl
      exact lt (by decide)
    have many : 53 ≤ n.log2 := Nat.le_of_not_lt (mt (Nat.log2_lt ne).mp lt)
    have grain : n.log2 + 1 - 53 = n.log2 - 52 := by omega
    have pos : 0 < 2 ^ (n.log2 - 52) := Nat.two_pow_pos _
    have pos' : (0 : ℚ) < 2 ^ (n.log2 - 52) := by positivity
    have fine : (2 : ℚ) ^ (n.log2 - 52) ≤ n / 2 ^ 52 := by
      rw [le_div_iff₀ (by positivity), ← pow_add, Nat.sub_add_cancel (by omega)]
      exact_mod_cast Nat.log2_self_le ne
    have nearest : Nearest (n / ↑(2 ^ (n.log2 - 52) : Nat)) (roundDiv n (2 ^ (n.log2 - 52))) :=
      nearest_roundDiv pos
    rw [significant, grain, Nat.one_shiftLeft]
    push_cast at nearest ⊢
    calc |(roundDiv n (2 ^ (n.log2 - 52)) : ℚ) * 2 ^ (n.log2 - 52) - n|
        ≤ 2 ^ (n.log2 - 52) / 2 := nearest.near_mul pos'
      _ ≤ n / 2 ^ 52 / 2 := div_le_div_of_nonneg_right fine two_pos.le
      _ = n / 2 ^ 53 := by ring

theorem le_significant (ge : 1024 ≤ n) : 1024 ≤ significant n := by
  by_cases lt : n < 2 ^ 53
  · rwa [significant_of_lt lt]
  · have large : (2 : ℚ) ^ 53 ≤ n := by exact_mod_cast Nat.le_of_not_lt lt
    have near := (abs_le.mp (significant_near n)).1
    have le : ((1024 : Nat) : ℚ) ≤ significant n := by
      push_cast
      linarith
    exact Nat.cast_le.mp le

/-! ### The unit -/

/-- Going on from one unit to the next ends at the largest one of which there is at least one, or
at the last. -/
theorem choose_spec (n : Nat) (rest : List String) (rank : Nat) (unit : String) :
    ∃ past unit', choose n (1024 ^ rank) unit rest = (1024 ^ (rank + past), unit') ∧
      (unit :: rest)[past]? = some unit' ∧
      (past ≠ 0 → 1024 ^ (rank + past) ≤ n) ∧
      (past < rest.length → n < 1024 ^ (rank + past + 1)) := by
  induction rest generalizing rank unit with
  | nil =>
    exact ⟨0, unit, rfl, rfl, fun ne => absurd rfl ne, fun lt => absurd lt (Nat.not_lt_zero 0)⟩
  | cons next rest ih =>
    rw [choose, ← Nat.pow_succ]
    split
    · next reached =>
      obtain ⟨past, unit', chosen, known, least, largest⟩ := ih (rank + 1) next
      have shift : rank + 1 + past = rank + (past + 1) := by omega
      rw [shift] at chosen least largest
      refine ⟨past + 1, unit', chosen, known, fun _ => ?_, fun lt => ?_⟩
      · cases past with
        | zero => exact reached
        | succ past => exact least (Nat.succ_ne_zero past)
      · exact largest (Nat.lt_of_succ_lt_succ lt)
    · next short =>
      exact ⟨0, unit, rfl, rfl, fun ne => absurd rfl ne, fun _ => Nat.lt_of_not_le short⟩

/-! ### The text -/

theorem notMem_toDigits {c : Char} (other : c.isDigit = false) (n : Nat) :
    c ∉ Nat.toDigits 10 n := by
  intro there
  rw [Nat.isDigit_of_mem_toDigits (by decide) (by decide) there] at other
  cases other

theorem toList_decimal (whole place : Nat) (unit : String) :
    s!"{whole}.{place} {unit}".toList =
      Nat.toDigits 10 whole ++ '.' :: (Nat.toDigits 10 place ++ ' ' :: unit.toList) := by
  simp [toString, String.toList_append, Nat.toList_repr]

/-- The point and the blank stand where the digits end. -/
theorem decimal_inj {whole place total digit : Nat} {unit name : String}
    (plain : '.' ∉ unit.toList ∧ ' ' ∉ unit.toList)
    (same : s!"{whole}.{place} {unit}" = s!"{total}.{digit} {name}") :
    whole = total ∧ place = digit ∧ unit = name := by
  have point : '.' ∉ Nat.toDigits 10 place ++ ' ' :: unit.toList := by
    simp [notMem_toDigits, plain.1]
  have lists := congrArg String.toList same
  rw [toList_decimal, toList_decimal,
    List.append_cons_inj_of_notMem (notMem_toDigits (by decide) _) point,
    List.append_cons_inj_of_notMem (notMem_toDigits (by decide) _) plain.2] at lists
  obtain ⟨wholes, -, places, -, names⟩ := lists
  have digits : Function.Injective (Nat.toDigits 10) :=
    toDigits_injective (by decide) (by decide)
  exact ⟨digits wholes, digits places, String.toList_inj.mp names⟩

/-- A text says one thing only. -/
theorem Says.unique {s : String} {tenths' rank' : Nat} (first : Says s tenths rank)
    (second : Says s tenths' rank') : tenths = tenths' ∧ rank = rank' := by
  obtain ⟨unit, known, rfl⟩ := first
  obtain ⟨unit', known', same⟩ := second
  have plain : ∀ u ∈ "B" :: units, '.' ∉ u.toList ∧ ' ' ∉ u.toList := by decide
  obtain ⟨whole, place, rfl⟩ := decimal_inj (plain unit (List.mem_of_getElem? known)) same
  have inside : rank < ("B" :: units).length := (List.getElem?_eq_some_iff.mp known).1
  constructor
  · omega
  · rw [← List.getElem?_inj inside (by decide), known, known']

theorem nearest_tenths (n rank : Nat) :
    Nearest (10 * ((n : ℚ) / 1024 ^ rank)) (roundDiv (n * 10) (1024 ^ rank)) := by
  have nearest : Nearest (↑(n * 10) / ↑(1024 ^ rank : Nat)) (roundDiv (n * 10) (1024 ^ rank)) :=
    nearest_roundDiv (Nat.pow_pos (by decide))
  push_cast at nearest
  rwa [mul_comm, mul_div_assoc] at nearest

/-- What is shown is the number of bytes itself or tenths of a larger unit, and the unit goes by the
size with its significant bits. -/
theorem text_cases (bytes : Nat) :
    (significant bytes < 1024 ∧ text bytes = s!"{bytes} B") ∨
      ∃ tenths rank, Says (text bytes) tenths rank ∧
        Scaled (significant bytes) tenths rank := by
  obtain ⟨rank, unit, chosen, known, reached, largest⟩ :=
    choose_spec (significant bytes) units 0 "B"
  rw [Nat.pow_zero, Nat.zero_add] at chosen
  rw [Nat.zero_add] at reached largest
  by_cases byte : rank = 0
  · subst byte
    cases known
    refine .inl ⟨largest (by decide), ?_⟩
    simp only [text, chosen, Nat.pow_zero, if_true]
    exact String.append_assoc
  · have past : 1024 ^ rank ≠ 1 := (Nat.one_lt_pow byte (by decide)).ne'
    have inside : rank < ("B" :: units).length := (List.getElem?_eq_some_iff.mp known).1
    refine .inr ⟨_, rank, ⟨unit, known, ?_⟩, Nat.one_le_iff_ne_zero.mpr byte,
      Nat.le_of_lt_succ inside, reached byte, largest, nearest_tenths (significant bytes) rank⟩
    simp only [text, chosen, if_neg past]

namespace Scaled

variable {size : Nat}

theorem near (h : Scaled size tenths rank) :
    |(tenths : ℚ) / 10 - size / 1024 ^ rank| ≤ 1 / 20 := by
  obtain ⟨below, above⟩ := h.nearest.bounds
  rw [abs_le]
  constructor <;> linarith

/-- At least one whole unit is shown. -/
theorem one_le (h : Scaled size tenths rank) : 1 ≤ (tenths : ℚ) / 10 := by
  have unit : (0 : ℚ) < 1024 ^ rank := by positivity
  have reached : (1 : ℚ) ≤ size / 1024 ^ rank := by
    rw [one_le_div₀ unit]
    exact_mod_cast h.reached
  have ten : 10 ≤ tenths := by
    rw [h.nearest.le_iff_of_even (by decide)]
    push_cast
    linarith
  have ten' : (10 : ℚ) ≤ tenths := by exact_mod_cast ten
  linarith

/-- Of a unit that is not the last one no more than 1024 are shown. -/
theorem le_next (h : Scaled size tenths rank) (lt : rank < 4) : (tenths : ℚ) / 10 ≤ 1024 := by
  have unit : (0 : ℚ) < 1024 ^ rank := by positivity
  have largest : (size : ℚ) / 1024 ^ rank < 1024 := by
    rw [div_lt_iff₀ unit, ← pow_succ']
    exact_mod_cast h.largest lt
  have le : tenths ≤ 10240 := by
    apply h.nearest.le_of_le
    push_cast
    linarith
  have le' : (tenths : ℚ) ≤ 10240 := by exact_mod_cast le
  linarith

/-- Fewer than 1024 are shown as long as more than a twentieth is missing. -/
theorem lt_next_iff (h : Scaled size tenths rank) :
    (tenths : ℚ) / 10 < 1024 ↔ (size : ℚ) / 1024 ^ rank < 1024 - 1 / 20 := by
  have reaches := h.nearest.le_iff_of_even (by decide : Even 10240)
  have cast : 10240 ≤ tenths ↔ (1024 : ℚ) ≤ tenths / 10 := by
    rw [le_div_iff₀ (by norm_num)]
    norm_num
  rw [← not_le, ← not_le, ← cast, reaches]
  push_cast
  constructor <;> intro h' le <;> exact h' (by linarith)

end Scaled

/-- A size of any number of bits is off by a twentieth of the unit and one part in 2^53 at most. -/
theorem text_near (ge : 1024 ≤ bytes) (reading : Says (text bytes) tenths rank) :
    |(tenths : ℚ) / 10 - bytes / 1024 ^ rank| ≤ 1 / 20 + bytes / 1024 ^ rank / 2 ^ 53 := by
  rcases text_cases bytes with ⟨lt, -⟩ | ⟨tenths', rank', only, scaled⟩
  · exact absurd (le_significant ge) (Nat.not_le_of_lt lt)
  · obtain ⟨rfl, rfl⟩ := only.unique reading
    have unit : (0 : ℚ) < 1024 ^ rank' := by positivity
    have bits : |(significant bytes : ℚ) / 1024 ^ rank' - bytes / 1024 ^ rank'| ≤
        bytes / 1024 ^ rank' / 2 ^ 53 := by
      rw [← sub_div, abs_div, abs_of_pos unit, div_right_comm]
      exact div_le_div_of_nonneg_right (significant_near bytes) unit.le
    calc |(tenths' : ℚ) / 10 - bytes / 1024 ^ rank'|
        ≤ |(tenths' : ℚ) / 10 - significant bytes / 1024 ^ rank'| +
          |(significant bytes : ℚ) / 1024 ^ rank' - bytes / 1024 ^ rank'| := abs_sub_le _ _ _
      _ ≤ 1 / 20 + bytes / 1024 ^ rank' / 2 ^ 53 := add_le_add scaled.near bits

/-- Below 2^53 every size is exact. One of less than a kibibyte is shown as it is. Of any other, the
text says a number of tenths of a unit past the byte: the nearest number for the largest unit of
which there is at least one, a tie to the even tenth. That is at least one whole unit, and no more
than 1024 of a unit that is not the last. It is less than 1024 if and only if the size falls short
of that by more than a twentieth of the unit, so that a size closer to the next unit is shown as
1024.0 of the smaller one. -/
theorem text_scaled (exact : bytes < 2 ^ 53) :
    (bytes < 1024 → text bytes = s!"{bytes} B") ∧
    (1024 ≤ bytes → (∃ tenths rank, Says (text bytes) tenths rank) ∧
      ∀ tenths rank, Says (text bytes) tenths rank →
        Scaled bytes tenths rank ∧
        |(tenths : ℚ) / 10 - bytes / 1024 ^ rank| ≤ 1 / 20 ∧
        1 ≤ (tenths : ℚ) / 10 ∧
        (rank < 4 → (tenths : ℚ) / 10 ≤ 1024 ∧
          ((tenths : ℚ) / 10 < 1024 ↔ (bytes : ℚ) / 1024 ^ rank < 1024 - 1 / 20))) := by
  have cases := text_cases bytes
  rw [significant_of_lt exact] at cases
  constructor
  · intro lt
    rcases cases with ⟨-, plain⟩ | ⟨tenths, rank, -, scaled⟩
    · exact plain
    · have unit : 1024 ^ 1 ≤ 1024 ^ rank := Nat.pow_le_pow_right (by decide) scaled.past_byte
      have reached := scaled.reached
      omega
  · intro ge
    rcases cases with ⟨lt, -⟩ | ⟨tenths, rank, reading, scaled⟩
    · exact absurd ge (Nat.not_le_of_lt lt)
    · refine ⟨⟨tenths, rank, reading⟩, fun tenths' rank' other => ?_⟩
      obtain ⟨rfl, rfl⟩ := reading.unique other
      exact ⟨scaled, scaled.near, scaled.one_le, fun lt => ⟨scaled.le_next lt, scaled.lt_next_iff⟩⟩

/-- The last size that is shown with less than 1024 kibibytes and the first that is shown with 1024,
which is 51 bytes short of a mebibyte. -/
theorem text_scaled_turn :
    (1048524 < 2 ^ 53 ∧ 1024 ≤ 1048524 ∧ Says (text 1048524) 10239 1 ∧
      Scaled 1048524 10239 1 ∧ ((1048524 : Nat) : ℚ) / 1024 ^ 1 < 1024 - 1 / 20) ∧
    (1048525 < 2 ^ 53 ∧ 1024 ≤ 1048525 ∧ Says (text 1048525) 10240 1 ∧
      Scaled 1048525 10240 1 ∧ ¬ ((1048525 : Nat) : ℚ) / 1024 ^ 1 < 1024 - 1 / 20) := by
  have below : Says (text 1048524) 10239 1 := ⟨"KiB", rfl, by decide⟩
  have turned : Says (text 1048525) 10240 1 := ⟨"KiB", rfl, by decide⟩
  have exact : 1048524 < 2 ^ 53 ∧ 1048525 < 2 ^ 53 := by decide
  obtain ⟨first, -, -, firstLess⟩ := ((text_scaled exact.1).2 (by decide)).2 10239 1 below
  obtain ⟨second, -, -, secondLess⟩ := ((text_scaled exact.2).2 (by decide)).2 10240 1 turned
  refine ⟨⟨exact.1, by decide, below, first, ?_⟩, exact.2, by decide, turned, second, ?_⟩
  · rw [← (firstLess (by decide)).2]
    norm_num
  · rw [← (secondLess (by decide)).2]
    norm_num

/-- What is rounded up to the next unit is not shown in it: the unit is kept, and 1024 of it are
shown. -/
theorem rounding_up_keeps_unit :
    ¬ ∀ bytes < 2 ^ 53,
      (bytes < 1024 → text bytes = s!"{bytes} B") ∧
      (1024 ≤ bytes → ∃ tenths rank, Says (text bytes) tenths rank ∧ 1 ≤ rank ∧ rank ≤ 4 ∧
        |(tenths : ℚ) / 10 - bytes / 1024 ^ rank| ≤ 1 / 20 ∧
        1 ≤ (tenths : ℚ) / 10 ∧
        (rank < 4 → (tenths : ℚ) / 10 < 1024)) := by
  intro carried
  have kept : Says (text 1048575) 10240 1 := ⟨"KiB", rfl, by decide⟩
  obtain ⟨tenths, rank, reading, -, -, -, -, less⟩ := (carried 1048575 (by decide)).2 (by decide)
  obtain ⟨rfl, rfl⟩ := kept.unique reading
  have lt := less (by decide)
  norm_num at lt

end PlayerLink.Text.Size
