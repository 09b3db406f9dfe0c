import Mathlib.Data.Nat.ModEq
import Mathlib.Tactic.Ring
import PlayerLink.Checksum

/-!
# Sums octet by octet

A sum of words is one of octets, each of which counts as much as its place in a word says.
`weighted` is this sum before it wraps around. It does not matter to it where a run is cut into
pieces, so a running sum comes to the sum of the whole, whatever sums were asked for in between. One
octet that is changed for another changes it by less than what wrapping around can hide.
-/

namespace PlayerLink.Checksum

/-- What the octets of a run count in words of `width` octets, where `place` octets stand in front
of the run. -/
def weighted (width : Nat) : Nat → List UInt8 → Nat
  | _, [] => 0
  | place, b :: rest => b.toNat * 256 ^ (place % width) + weighted width (place + 1) rest

variable {width : Nat}

/-- Whole words in front of a run do not matter. -/
theorem weighted_add_width (place : Nat) (bs : List UInt8) :
    weighted width (place + width) bs = weighted width place bs := by
  induction bs generalizing place with
  | nil => rfl
  | cons b rest ih => rw [weighted, weighted, Nat.add_mod_right, Nat.add_right_comm, ih]

theorem weighted_append (place : Nat) (a b : List UInt8) :
    weighted width place (a ++ b) =
      weighted width place a + weighted width (place + a.length) b := by
  induction a generalizing place with
  | nil => rw [List.nil_append, weighted, Nat.zero_add, List.length_nil, Nat.add_zero]
  | cons c rest ih =>
    rw [List.cons_append, weighted, weighted, ih, List.length_cons, Nat.add_assoc, Nat.add_assoc,
      Nat.add_comm 1]

/-- A run within one word counts what it stands for there. -/
theorem weighted_of_le {place : Nat} (bs : List UInt8) (within : place + bs.length ≤ width) :
    weighted width place bs = 256 ^ place * Word.value bs := by
  induction bs generalizing place with
  | nil => rfl
  | cons b rest ih =>
    rw [List.length_cons] at within
    rw [weighted, Word.value, ih (by omega), Nat.mod_eq_of_lt (by omega), Nat.pow_succ]
    ring

/-- A word and what follows it. -/
theorem weighted_word_append {word : List UInt8} (whole : word.length = width)
    (rest : List UInt8) :
    weighted width 0 (word ++ rest) = Word.value word + weighted width 0 rest := by
  rw [weighted_append, whole, weighted_add_width, weighted_of_le word (by omega), Nat.pow_zero,
    Nat.one_mul]

/-- The sum written out: the octet in place `i` counts as much as its place in a word says. -/
theorem weighted_eq_sum (place : Nat) (bs : List UInt8) :
    weighted width place bs =
      (bs.mapIdx fun i b => b.toNat * 256 ^ ((place + i) % width)).sum := by
  induction bs generalizing place with
  | nil => rfl
  | cons b rest ih =>
    have shift (i : Nat) : place + 1 + i = place + (i + 1) := by omega
    rw [weighted, ih, List.mapIdx_cons, List.sum_cons]
    simp only [shift, Nat.add_zero]

/-! ### The sums of a whole run -/

theorem value_lt_of_length_le {bs : List UInt8} {n : Nat} (short : bs.length ≤ n) :
    Word.value bs < 256 ^ n := by
  have span (n : Nat) : Word.span n = 256 ^ n := by
    induction n with
    | zero => rfl
    | succ n ih => rw [Word.span, ih, Nat.pow_succ, Nat.mul_comm]
  calc Word.value bs < Word.span bs.length := Word.value_lt bs
    _ = 256 ^ bs.length := span _
    _ ≤ 256 ^ n := Nat.pow_le_pow_right (by decide) short

theorem toNat_ofLe16 {bs : List UInt8} (short : bs.length ≤ 2) :
    (Word.ofLe16 bs).toNat = Word.value bs := by
  rw [Word.ofLe16, List.take_of_length_le short,
    UInt16.toNat_ofNat_of_lt' (value_lt_of_length_le short)]

theorem toNat_ofLe32 {bs : List UInt8} (short : bs.length ≤ 4) :
    (Word.ofLe32 bs).toNat = Word.value bs := by
  rw [Word.ofLe32, List.take_of_length_le short,
    UInt32.toNat_ofNat_of_lt' (value_lt_of_length_le short)]

theorem toNat_addWords16 (acc : UInt16) (bs : List UInt8) :
    (addWords16 acc bs).toNat = (acc.toNat + weighted 2 0 bs) % 256 ^ 2 := by
  induction acc, bs using addWords16.induct with
  | case1 acc a b rest ih =>
    have word : (Word.ofLe16 [a, b]).toNat = Word.value [a, b] := toNat_ofLe16 (Nat.le_refl 2)
    have split : weighted 2 0 (a :: b :: rest) = Word.value [a, b] + weighted 2 0 rest :=
      weighted_word_append (Eq.refl [a, b].length) rest
    rw [addWords16, ih, UInt16.toNat_add, word, split]
    omega
  | case2 acc bs last =>
    have short : bs.length ≤ 1 := by
      rcases bs with _ | ⟨a, _ | ⟨b, rest⟩⟩
      · exact Nat.zero_le 1
      · exact Nat.le_refl 1
      · exact (last a b rest rfl).elim
    rw [addWords16, UInt16.toNat_add, toNat_ofLe16 (by omega), weighted_of_le bs (by omega),
      Nat.pow_zero, Nat.one_mul]
    · rfl
    · exact last

/-- What is left of a run when no whole word is. -/
theorem length_lt_of_no_word {bs : List UInt8}
    (last : ∀ a b c d rest, bs = a :: b :: c :: d :: rest → False) : bs.length < 4 := by
  rcases bs with _ | ⟨a, _ | ⟨b, _ | ⟨c, _ | ⟨d, rest⟩⟩⟩⟩
  · exact Nat.zero_lt_succ 3
  · exact Nat.le_add_left 2 2
  · exact Nat.le_add_left 3 1
  · exact Nat.le_refl 4
  · exact (last a b c d rest rfl).elim

theorem toNat_addWords32 (acc : UInt32) (bs : List UInt8) :
    (addWords32 acc bs).toNat = (acc.toNat + weighted 4 0 bs) % 256 ^ 4 := by
  induction acc, bs using addWords32.induct with
  | case1 acc a b c d rest ih =>
    have word : (Word.ofLe32 [a, b, c, d]).toNat = Word.value [a, b, c, d] :=
      toNat_ofLe32 (Nat.le_refl 4)
    have split :
        weighted 4 0 (a :: b :: c :: d :: rest) = Word.value [a, b, c, d] + weighted 4 0 rest :=
      weighted_word_append (Eq.refl [a, b, c, d].length) rest
    rw [addWords32, ih, UInt32.toNat_add, word, split]
    omega
  | case2 acc bs last =>
    have short : bs.length < 4 := length_lt_of_no_word last
    rw [addWords32, UInt32.toNat_add, toNat_ofLe32 (by omega), weighted_of_le bs (by omega),
      Nat.pow_zero, Nat.one_mul]
    · rfl
    · exact last

theorem toNat_sum16 (bs : List UInt8) : (sum16 bs).toNat = weighted 2 0 bs % 256 ^ 2 := by
  rw [sum16, toNat_addWords16, UInt16.toNat_zero, Nat.zero_add]

theorem toNat_sum32 (bs : List UInt8) : (sum32 bs).toNat = weighted 4 0 bs % 256 ^ 4 := by
  rw [sum32, toNat_addWords32, UInt32.toNat_zero, Nat.zero_add]

/-! ### One octet changed -/

/-- What an octet in place `i` counts is exchanged. -/
theorem weighted_set {place i : Nat} {bs : List UInt8} (inside : i < bs.length) (b : UInt8) :
    weighted width place (bs.set i b) + bs[i].toNat * 256 ^ ((place + i) % width) =
      weighted width place bs + b.toNat * 256 ^ ((place + i) % width) := by
  induction bs generalizing place i with
  | nil => exact absurd inside (Nat.not_lt_zero i)
  | cons c rest ih =>
    cases i with
    | zero =>
      simp only [List.set_cons_zero, List.getElem_cons_zero, weighted, Nat.add_zero]
      omega
    | succ i =>
      have tail := @ih (place + 1) i (Nat.lt_of_succ_lt_succ inside)
      rw [Nat.add_assoc, Nat.add_comm 1] at tail
      simp only [List.set_cons_succ, List.getElem_cons_succ, weighted]
      omega

/-- Wrapping around does not hide an octet that is changed for another one. -/
theorem weighted_set_not_modEq {place i : Nat} {bs : List UInt8} {b : UInt8} (wide : 0 < width)
    (inside : i < bs.length) (changed : bs[i] ≠ b) :
    ¬ weighted width place (bs.set i b) ≡ weighted width place bs [MOD 256 ^ width] := by
  intro same
  apply changed
  apply UInt8.toNat_inj.mp
  have short : (place + i) % width < width := Nat.mod_lt _ wide
  have counts : bs[i].toNat * 256 ^ ((place + i) % width) ≡
      b.toNat * 256 ^ ((place + i) % width) [MOD 256 ^ width] :=
    Nat.ModEq.add_left_cancel same (congrArg (· % 256 ^ width) (weighted_set inside b))
  have whole : 256 ^ width = 256 ^ (width - (place + i) % width) * 256 ^ ((place + i) % width) := by
    rw [← Nat.pow_add, Nat.sub_add_cancel (Nat.le_of_lt short)]
  rw [whole] at counts
  have octets : bs[i].toNat ≡ b.toNat [MOD 256 ^ (width - (place + i) % width)] :=
    Nat.ModEq.mul_right_cancel' (Nat.pow_pos (by decide)).ne' counts
  have octet : 256 ≤ 256 ^ (width - (place + i) % width) :=
    Nat.le_self_pow (by omega) 256
  exact octets.eq_of_lt_of_lt (Nat.lt_of_lt_of_le bs[i].toNat_lt octet)
    (Nat.lt_of_lt_of_le b.toNat_lt octet)

/-- A value of runs of `n` octets that changes whenever one octet is changed for another. -/
def Sensitive {α : Type} (n : Nat) (f : List UInt8 → α) : Prop :=
  ∀ (bs : List UInt8) (i : Nat) (b : UInt8), bs.length = n → i < n → bs[i]? ≠ some b →
    f (bs.set i b) ≠ f bs

theorem sensitive_sum16 (n : Nat) : Sensitive n sum16 := by
  rintro bs i b rfl inside changed same
  rw [List.getElem?_eq_getElem inside, ne_eq, Option.some.injEq] at changed
  have differ : ¬ weighted 2 0 (bs.set i b) ≡ weighted 2 0 bs [MOD 256 ^ 2] :=
    weighted_set_not_modEq (by decide) inside changed
  rw [Nat.ModEq, ← toNat_sum16, ← toNat_sum16, same] at differ
  exact differ rfl

theorem sensitive_sum32 (n : Nat) : Sensitive n sum32 := by
  rintro bs i b rfl inside changed same
  rw [List.getElem?_eq_getElem inside, ne_eq, Option.some.injEq] at changed
  have differ : ¬ weighted 4 0 (bs.set i b) ≡ weighted 4 0 bs [MOD 256 ^ 4] :=
    weighted_set_not_modEq (by decide) inside changed
  rw [Nat.ModEq, ← toNat_sum32, ← toNat_sum32, same] at differ
  exact differ rfl

/-- What can be written back tells any two runs apart. -/
theorem sensitive_of_written {α : Type} {n : Nat} {read : List UInt8 → α}
    (write : α → List UInt8) (back : ∀ bs, bs.length = n → write (read bs) = bs) :
    Sensitive n read := by
  intro bs i b whole inside changed same
  have run : bs.set i b = bs := by
    rw [← back (bs.set i b) (by rw [List.length_set, whole]), same, back bs whole]
  rw [← run, List.getElem?_set_self (by omega)] at changed
  exact changed rfl

theorem sensitive_ofLe16 : Sensitive 2 Word.ofLe16 := by
  refine sensitive_of_written Word.le16 fun bs whole => ?_
  rw [Word.le16_ofLe16 whole.ge, List.take_of_length_le whole.le]

theorem sensitive_ofLe32 : Sensitive 4 Word.ofLe32 := by
  refine sensitive_of_written Word.le32 fun bs whole => ?_
  rw [Word.le32_ofLe32 whole.ge, List.take_of_length_le whole.le]

/-- A part of a run has changed its value exactly if the octet was one of the part. -/
theorem Sensitive.part_set_eq_iff {α : Type} {n place i : Nat} {f : List UInt8 → α} {b : UInt8}
    {bs : List UInt8} (sensitive : Sensitive n f) (within : place + n ≤ bs.length)
    (changed : bs[i]? ≠ some b) :
    f (((bs.set i b).drop place).take n) = f ((bs.drop place).take n) ↔
      ¬ (place ≤ i ∧ i < place + n) := by
  by_cases before : i < place
  · rw [List.drop_set_of_lt before]
    simp [Nat.not_le.mpr before]
  have there : ((bs.drop place).take n)[i - place]? = if i < place + n then bs[i]? else none := by
    have shift : i - place < n ↔ i < place + n := by omega
    simp only [List.getElem?_take, List.getElem?_drop, Nat.add_sub_cancel' (Nat.not_lt.mp before),
      shift]
  rw [List.drop_set, if_neg before, List.take_set]
  by_cases inside : i < place + n
  · rw [if_pos inside] at there
    refine iff_of_false ?_ (by omega)
    refine sensitive _ (i - place) b ?_ (by omega) (there ▸ changed)
    rw [List.length_take, List.length_drop]
    omega
  · rw [List.set_eq_of_length_le]
    · exact iff_of_true rfl (by omega)
    · rw [List.length_take]
      omega

/-- A sum over one part of a run and the word that stores it in another part. After one octet was
changed they agree exactly if it was neither in the one nor in the other. -/
theorem sum_eq_stored_set_iff {α : Type} {n m place store i : Nat} {sum word : List UInt8 → α}
    {b : UInt8} {bs : List UInt8} (summed : Sensitive n sum) (stored : Sensitive m word)
    (apart : place + n ≤ store ∨ store + m ≤ place) (long : place + n ≤ bs.length)
    (long' : store + m ≤ bs.length) (changed : bs[i]? ≠ some b)
    (agree : sum ((bs.drop place).take n) = word ((bs.drop store).take m)) :
    sum (((bs.set i b).drop place).take n) = word (((bs.set i b).drop store).take m) ↔
      ¬ (place ≤ i ∧ i < place + n) ∧ ¬ (store ≤ i ∧ i < store + m) := by
  have left := summed.part_set_eq_iff long changed
  have right := stored.part_set_eq_iff long' changed
  by_cases inSum : place ≤ i ∧ i < place + n
  · have same := right.mpr (by omega)
    rw [same, ← agree]
    exact iff_of_false (fun e => left.mp e inSum) (fun e => e.1 inSum)
  · rw [left.mpr inSum, agree, eq_comm, right]
    exact (and_iff_right inSum).symm

/-! ### Sums that arrive in pieces -/

theorem addWords32_nil (acc : UInt32) : addWords32 acc [] = acc := by
  rw [addWords32]
  · exact UInt32.add_zero acc
  · nofun

/-- One word, be it whole or not. -/
theorem addWords32_of_length_le {bs : List UInt8} (one : bs.length ≤ 4) (acc : UInt32) :
    addWords32 acc bs = acc + Word.ofLe32 bs := by
  fun_cases addWords32 acc bs with
  | case1 _ a b c d rest =>
    have none : rest = [] :=
      List.length_eq_zero_iff.mp (Nat.le_zero.mp (Nat.le_of_add_le_add_right (b := 4) one))
    rw [none, addWords32_nil]
  | case2 last => rfl

theorem addWords32_append {a : List UInt8} (whole : 4 ∣ a.length) (acc : UInt32)
    (b : List UInt8) : addWords32 acc (a ++ b) = addWords32 (addWords32 acc a) b := by
  induction acc, a using addWords32.induct with
  | case1 acc o p q r rest ih =>
    rw [List.cons_append, List.cons_append, List.cons_append, List.cons_append, addWords32,
      addWords32]
    exact ih ((Nat.dvd_add_left (Nat.dvd_refl 4)).mp whole)
  | case2 acc a last =>
    have none : a = [] :=
      List.length_eq_zero_iff.mp (Nat.eq_zero_of_dvd_of_lt whole (length_lt_of_no_word last))
    rw [none, List.nil_append, addWords32_nil]

namespace Running

/-- A running sum that has taken the octets of a run. -/
def Took (bs : List UInt8) (r : Running) : Prop :=
  ∃ whole, bs = whole ++ r.held ∧ 4 ∣ whole.length ∧ r.words = addWords32 0 whole

variable {bs : List UInt8} {r : Running}

theorem took_nil : Took [] {} := ⟨[], rfl, Nat.dvd_zero 4, rfl⟩

theorem took_ofWords {whole : List UInt8} (words : 4 ∣ whole.length) (rest : List UInt8) :
    Took (whole ++ rest) (ofWords (addWords32 0 whole) rest) := by
  have length : (rest.take (rest.length / 4 * 4)).length = rest.length / 4 * 4 :=
    List.length_take_of_le (Nat.div_mul_le_self rest.length 4)
  refine ⟨whole ++ rest.take (rest.length / 4 * 4), ?_, ?_, ?_⟩
  · rw [List.append_assoc, ofWords, List.take_append_drop]
  · rw [List.length_append, length]
    exact Nat.dvd_add words (Nat.dvd_mul_left 4 _)
  · rw [addWords32_append words, ofWords]

/-- The step: what is held back together with the piece is cut into words again. -/
theorem Took.add (took : Took bs r) (piece : List UInt8) : Took (bs ++ piece) (r.add piece) := by
  obtain ⟨whole, rfl, words, sum⟩ := took
  have short := r.short
  rw [Running.add, List.append_assoc]
  split
  next none =>
    rw [none, List.nil_append, sum]
    exact took_ofWords words piece
  next some =>
    dsimp only
    split
    next still =>
      rw [List.length_append, List.length_take] at still
      have all : piece.take (4 - r.held.length) = piece := List.take_of_length_le (by omega)
      refine ⟨whole, congrArg (fun taken => whole ++ (r.held ++ taken)) all.symm, words, sum⟩
    next full =>
      have length : (r.held ++ piece.take (4 - r.held.length)).length = 4 := by
        rw [List.length_append, List.length_take] at full ⊢
        omega
      have cut : whole ++ (r.held ++ piece) =
          (whole ++ (r.held ++ piece.take (4 - r.held.length))) ++
            piece.drop (4 - r.held.length) := by
        rw [List.append_assoc, List.append_assoc, List.take_append_drop]
      rw [cut, sum, ← addWords32_of_length_le length.le, ← addWords32_append words]
      refine took_ofWords ?_ _
      rw [List.length_append, length]
      exact Nat.dvd_add words (Nat.dvd_refl 4)

/-- What is held back is summed up like a last word that is not whole. -/
theorem Took.sum (took : Took bs r) : r.sum = sum32 bs := by
  obtain ⟨whole, rfl, words, sum⟩ := took
  rw [sum32, addWords32_append words, addWords32_of_length_le r.short.le, ← sum, Running.sum]
  split
  next none =>
    rw [none]
    exact (UInt32.add_zero r.words).symm
  next some => rfl

/-- Whatever the pieces are, the sum of them is that of the whole. -/
theorem sum_foldl_add (pieces : List (List UInt8)) :
    (pieces.foldl add {}).sum = sum32 pieces.flatten := by
  have all (bs : List UInt8) (r : Running) (took : Took bs r) :
      Took (bs ++ pieces.flatten) (pieces.foldl add r) := by
    induction pieces generalizing bs r with
    | nil => rwa [List.flatten_nil, List.append_nil]
    | cons piece rest ih =>
      rw [List.flatten_cons, ← List.append_assoc, List.foldl_cons]
      exact ih _ _ (took.add piece)
  exact (all [] {} took_nil).sum

/-! ### Sums that are asked for in between -/

/-- What may be asked of a running sum. -/
inductive Request where
  | add (piece : List UInt8)
  /-- The sum of everything added so far. -/
  | sum
  deriving DecidableEq, Repr

/-- The piece that a request adds. -/
def Request.piece? : Request → Option (List UInt8)
  | add piece => some piece
  | sum => none

/-- The sums that are told when requests are made one after the other. -/
def told : Running → List Request → List UInt32
  | _, [] => []
  | r, .add piece :: rest => (r.add piece).told rest
  | r, .sum :: rest => r.sum :: r.told rest

/-- Requests leave behind what their pieces alone would. -/
theorem told_append (r : Running) (front back : List Request) :
    r.told (front ++ back) =
      r.told front ++ ((front.filterMap Request.piece?).foldl add r).told back := by
  induction front generalizing r with
  | nil => rfl
  | cons request rest ih =>
    cases request with
    | add piece => exact ih (r.add piece)
    | sum => exact congrArg (r.sum :: ·) (ih r)

theorem length_told (r : Running) (requests : List Request) :
    (r.told requests).length = requests.count .sum := by
  induction requests generalizing r with
  | nil => rfl
  | cons request rest ih =>
    cases request with
    | add piece =>
      have other : Request.add piece ≠ .sum := nofun
      rw [told, ih, List.count_cons_of_ne other]
    | sum => rw [told, List.length_cons, ih, List.count_cons_self]

/-- However a run is cut into pieces, the sum of them is that of the whole run: each octet counts
as much as its place in the run says, modulo what a word holds. Whatever sums were asked for while
the pieces were added, the next one is this sum. -/
theorem sum_of_pieces (pieces : List (List UInt8)) :
    (pieces.foldl add {}).sum.toNat =
        (pieces.flatten.mapIdx fun i b => b.toNat * 256 ^ (i % 4)).sum % 2 ^ 32 ∧
      (pieces.foldl add {}).sum = sum32 pieces.flatten ∧
      ∀ before after : List Request, before.filterMap Request.piece? = pieces →
        (told {} (before ++ .sum :: after))[before.count .sum]? =
          some (pieces.foldl add {}).sum := by
  refine ⟨?_, sum_foldl_add pieces, ?_⟩
  · have weigh := @weighted_eq_sum 4 0 pieces.flatten
    simp only [Nat.zero_add] at weigh
    rw [sum_foldl_add, toNat_sum32, weigh]
    rfl
  · rintro before after rfl
    rw [told_append, List.getElem?_append_right (length_told _ _).le, length_told, Nat.sub_self,
      told, List.getElem?_cons_zero]

end Running

end PlayerLink.Checksum
