import PlayerLink.Text.Stored

/-!
# What a sequence of 16-bit units says

`Reads` is the reading of any sequence of units, sound or not: the units of a character are that
character, and a surrogate without its partner is one replacement character. Every sequence has
exactly one reading, and `decode` finds it. Since the units of a text have the text for a reading,
whatever is encoded is decoded again, characters past the first plane included. In memory a unit is
two octets, and `units` takes them two by two.
-/

namespace PlayerLink.Text.Utf16

/-- The units and the characters that they are read as. -/
inductive Reads : List UInt16 → List Char → Prop
  | nil : Reads [] []
  | char {us : List UInt16} {cs : List Char} (c : Char) (rest : Reads us cs) :
      Reads (encodeChar c ++ us) (c :: cs)
  | low {u : UInt16} {us : List UInt16} {cs : List Char} (lone : isLow u) (rest : Reads us cs) :
      Reads (u :: us) (replacement :: cs)
  | high {u : UInt16} {us : List UInt16} {cs : List Char} (lone : isHigh u)
      (apart : ∀ v ∈ us.head?, ¬ isLow v) (rest : Reads us cs) :
      Reads (u :: us) (replacement :: cs)

variable {u v : UInt16} {us : List UInt16} {cs : List Char}

/-! ### Units -/

theorem isHigh_iff : isHigh u ↔ 0xD800 ≤ u.toNat ∧ u.toNat < 0xDC00 := by
  rw [isHigh, Bool.and_eq_true, decide_eq_true_eq, decide_eq_true_eq, UInt16.le_iff_toNat_le,
    UInt16.lt_iff_toNat_lt]
  rfl

theorem isLow_iff : isLow u ↔ 0xDC00 ≤ u.toNat ∧ u.toNat < 0xE000 := by
  rw [isLow, Bool.and_eq_true, decide_eq_true_eq, decide_eq_true_eq, UInt16.le_iff_toNat_le,
    UInt16.lt_iff_toNat_lt]
  rfl

/-- No character has the number of a surrogate. -/
theorem toNat_valid (c : Char) : c.toNat < 0xD800 ∨ 0xE000 ≤ c.toNat ∧ c.toNat < 0x110000 := by
  rcases c.valid with h | h
  · exact Or.inl h
  · exact Or.inr ⟨h.1, h.2⟩

theorem toNat_ofNat {n : Nat} (valid : n < 0xD800 ∨ 0xE000 ≤ n ∧ n < 0x110000) :
    (Char.ofNat n).toNat = n := by
  have inRange : n.isValidChar := valid
  rw [Char.ofNat, dif_pos inRange]
  rfl

theorem toNat_unit {n : Nat} (lt : n < 0x10000) : (UInt16.ofNat n).toNat = n :=
  UInt16.toNat_ofNat_of_lt' lt

/-- A character of the first plane is one unit, and the unit is no surrogate. -/
theorem encodeChar_of_lt {c : Char} (plane : c.toNat < 0x10000) :
    ∃ u : UInt16, encodeChar c = [u] ∧ ¬ isHigh u ∧ ¬ isLow u ∧ single u = c := by
  have number := toNat_unit plane
  have valid := toNat_valid c
  have high : ¬ isHigh (UInt16.ofNat c.toNat) := by
    rw [isHigh_iff, number]
    omega
  have low : ¬ isLow (UInt16.ofNat c.toNat) := by
    rw [isLow_iff, number]
    omega
  refine ⟨UInt16.ofNat c.toNat, by rw [encodeChar, if_pos plane], high, low, ?_⟩
  rw [single, number, Char.ofNat_toNat]
  simp [high, low]

/-- A character past the first plane is a high surrogate and the low one after it. -/
theorem encodeChar_of_le {c : Char} (plane : 0x10000 ≤ c.toNat) :
    ∃ u v : UInt16, encodeChar c = [u, v] ∧ isHigh u ∧ isLow v ∧ joined u v = c := by
  have valid := toNat_valid c
  have first : (UInt16.ofNat (0xD800 + (c.toNat - 0x10000) / 0x400)).toNat =
      0xD800 + (c.toNat - 0x10000) / 0x400 := toNat_unit (by omega)
  have second : (UInt16.ofNat (0xDC00 + (c.toNat - 0x10000) % 0x400)).toNat =
      0xDC00 + (c.toNat - 0x10000) % 0x400 := toNat_unit (by omega)
  refine ⟨_, _, by rw [encodeChar, if_neg (Nat.not_lt.mpr plane)], ?_, ?_, ?_⟩
  · rw [isHigh_iff, first]
    omega
  · rw [isLow_iff, second]
    omega
  · rw [joined, first, second]
    have number : 0x10000 + (0xD800 + (c.toNat - 0x10000) / 0x400 - 0xD800) * 0x400 +
        (0xDC00 + (c.toNat - 0x10000) % 0x400 - 0xDC00) = c.toNat := by
      omega
    rw [number, Char.ofNat_toNat]

theorem encodeChar_single (high : ¬ isHigh u) (low : ¬ isLow u) : encodeChar (single u) = [u] := by
  have alone : single u = Char.ofNat u.toNat := by simp [single, high, low]
  rw [isHigh_iff] at high
  rw [isLow_iff] at low
  have lt := u.toNat_lt
  have number : (single u).toNat = u.toNat := by
    rw [alone]
    exact toNat_ofNat (by omega)
  rw [encodeChar, number, if_pos lt, UInt16.ofNat_toNat]

theorem encodeChar_joined (high : isHigh u) (low : isLow v) :
    encodeChar (joined u v) = [u, v] := by
  rw [isHigh_iff] at high
  rw [isLow_iff] at low
  have number : (joined u v).toNat =
      0x10000 + (u.toNat - 0xD800) * 0x400 + (v.toNat - 0xDC00) :=
    toNat_ofNat (by omega)
  have first : 0xD800 + ((joined u v).toNat - 0x10000) / 0x400 = u.toNat := by omega
  have second : 0xDC00 + ((joined u v).toNat - 0x10000) % 0x400 = v.toNat := by omega
  rw [encodeChar, if_neg (by omega)]
  simp only [first, second, UInt16.ofNat_toNat]

/-! ### Readings -/

theorem decode_cons (apart : isHigh u → ∀ v ∈ us.head?, ¬ isLow v) :
    decode (u :: us) = single u :: decode us := by
  cases us with
  | nil => rfl
  | cons v us =>
    rw [decode, if_neg]
    rw [Bool.and_eq_true]
    rintro ⟨high, low⟩
    exact apart high v rfl low

theorem decode_pair (high : isHigh u) (low : isLow v) :
    decode (u :: v :: us) = joined u v :: decode us := by
  rw [decode, if_pos]
  rw [Bool.and_eq_true]
  exact ⟨high, low⟩

theorem decode_encodeChar_append (c : Char) (us : List UInt16) :
    decode (encodeChar c ++ us) = c :: decode us := by
  by_cases plane : c.toNat < 0x10000
  · obtain ⟨u, units, high, -, alone⟩ := encodeChar_of_lt plane
    rw [units, List.singleton_append, decode_cons (fun surrogate => absurd surrogate high), alone]
  · obtain ⟨u, v, units, high, low, pair⟩ := encodeChar_of_le (Nat.le_of_not_lt plane)
    rw [units, List.cons_append, List.singleton_append, decode_pair high low, pair]

theorem single_of_surrogate (surrogate : isHigh u ∨ isLow u) : single u = replacement := by
  rw [single, if_pos]
  rwa [Bool.or_eq_true]

/-- A unit that starts no pair, in front of what is read already. -/
theorem Reads.cons (rest : Reads us cs) (apart : isHigh u → ∀ v ∈ us.head?, ¬ isLow v) :
    Reads (u :: us) (single u :: cs) := by
  by_cases high : isHigh u
  · rw [single_of_surrogate (.inl high)]
    exact .high high (apart high) rest
  · by_cases low : isLow u
    · rw [single_of_surrogate (.inr low)]
      exact .low low rest
    · have read := Reads.char (single u) rest
      rwa [encodeChar_single high low] at read

theorem reads_decode (us : List UInt16) : Reads us (decode us) := by
  induction us using decode.induct with
  | case1 => exact .nil
  | case2 u => exact Reads.nil.cons (fun _ v there => nomatch there)
  | case3 u v rest pair ih =>
    obtain ⟨high, low⟩ := Bool.and_eq_true_iff.mp pair
    have read := Reads.char (joined u v) ih
    rw [decode_pair high low]
    rwa [encodeChar_joined high low] at read
  | case4 u v rest pair ih =>
    have apart : isHigh u → ∀ w ∈ (v :: rest).head?, ¬ isLow w := by
      rintro high w ⟨⟩ low
      exact pair (Bool.and_eq_true_iff.mpr ⟨high, low⟩)
    rw [decode_cons apart]
    exact ih.cons apart

/-- A sequence of units has one reading and no other. -/
theorem reads_iff : Reads us cs ↔ decode us = cs := by
  constructor
  · intro read
    induction read with
    | nil => rfl
    | char c rest ih => rw [decode_encodeChar_append, ih]
    | @low u us cs lone rest ih =>
      have apart : isHigh u → ∀ v ∈ us.head?, ¬ isLow v := by
        intro high
        rw [isHigh_iff] at high
        rw [isLow_iff] at lone
        omega
      rw [decode_cons apart, single_of_surrogate (.inr lone), ih]
    | high lone apart rest ih =>
      rw [decode_cons (fun _ => apart), single_of_surrogate (.inl lone), ih]
  · rintro rfl
    exact reads_decode us

/-- What is encoded is decoded again. -/
theorem decode_encode (cs : List Char) : decode (encode cs) = cs := by
  induction cs with
  | nil => rfl
  | cons c cs ih =>
    rw [encode, List.flatMap_cons, decode_encodeChar_append]
    exact congrArg (c :: ·) ih

/-- A pair, and a low surrogate that is left over. -/
example : decode [0xD83D, 0xDE00, 0xDE00] = ['😀', replacement] := by decide

/-! ### Units in memory -/

/-- The octets of a text: its units, each with the least significant octet first. -/
def octets (t : String) : List UInt8 := (encode t.toList).flatMap Word.le16

theorem units_append (us : List UInt16) (bs : List UInt8) :
    units (us.flatMap Word.le16 ++ bs) = us ++ units bs := by
  induction us with
  | nil => rfl
  | cons u us ih =>
    have pair : Word.le16 u = [UInt8.ofNat u.toNat, UInt8.ofNat (u.toNat / 256)] := rfl
    have unit := Word.ofLe16_append u []
    rw [List.append_nil, pair] at unit
    rw [List.flatMap_cons, List.append_assoc, pair, List.cons_append, List.cons_append,
      List.nil_append, units, unit, ih, List.cons_append]

/-- An octet on its own is no unit. -/
theorem units_singleton (a : UInt8) : units [a] = [] := by
  simp [units]

theorem length_units : ∀ bs : List UInt8, (units bs).length = bs.length / 2
  | [] => rfl
  | [a] => by rw [units_singleton, List.length_nil, List.length_singleton]
  | a :: b :: rest => by
    rw [units, List.length_cons, length_units rest, List.length_cons, List.length_cons]
    omega

/-- Only a last odd octet is not kept. -/
theorem flatMap_units :
    ∀ bs : List UInt8, (units bs).flatMap Word.le16 = bs.take (2 * (units bs).length)
  | [] => rfl
  | [a] => by
    rw [units_singleton]
    rfl
  | a :: b :: rest => by
    have pair : Word.le16 (Word.ofLe16 [a, b]) = [a, b] := Word.le16_ofLe16 (by simp)
    rw [units, List.flatMap_cons, flatMap_units rest, pair, List.length_cons, Nat.mul_succ]
    rfl

end PlayerLink.Text.Utf16
