import Mathlib.Data.List.TakeWhile
import PlayerLink.CommandLine.Value
import PlayerLink.Proofs.Text.Numeral

/-!
# Which texts are values

A text is a sector number if it is a numeral of its base, with or without a plus sign, and a word
can hold the number: `NumberText` says which number, `readNumber` finds it. A text names a device if
it is two hexadecimal halves with a colon between them, of which at least one is not zero:
`DeviceId.Names` says which ids, `DeviceId.read` finds them. A half has four places at most, and a
plus sign in front takes one of them.
-/

namespace PlayerLink

open Text Text.Numeral

variable {s digits : String} {base n : Nat}

/-! ### Words -/

theorem readWord_eq_some_iff (small : base ≤ 16) {cs : List Char} {w : UInt32} :
    readWord base cs = some w ↔ Signed base cs w.toNat :=
  map_readUpTo_eq_some_iff small (fun _ le => UInt32.toNat_ofNat_of_lt' (Nat.lt_succ_of_le le))
    (fun _ => UInt32.ofNat_toNat) fun w => Nat.le_of_lt_succ w.toNat_lt

/-! ### Numbers -/

/-- The text has the mark of a hexadecimal number, and `digits` is what stands behind it. -/
def Marked (s digits : String) : Prop := s = "0x" ++ digits ∨ s = "0X" ++ digits

/-- The number that a text stands for: in hexadecimal behind the mark, and in decimal if there is no
mark. -/
inductive NumberText (s : String) (n : Nat) : Prop
  | hexadecimal {digits : String} (marked : Marked s digits)
      (number : Signed 16 digits.toList n)
  | decimal (unmarked : ∀ digits, ¬ Marked s digits) (number : Signed 10 s.toList n)

theorem Marked.eq {digits' : String} (first : Marked s digits) (second : Marked s digits') :
    digits = digits' := by
  have behind (mark : String) (rest : String) (two : mark.toList.length = 2) :
      (mark ++ rest).toList.drop 2 = rest.toList := by
    rw [String.toList_append, List.drop_left' two]
  have drop {rest : String} (marked : Marked s rest) : s.toList.drop 2 = rest.toList := by
    rcases marked with rfl | rfl
    · exact behind "0x" rest rfl
    · exact behind "0X" rest rfl
  exact String.toList_injective ((drop first).symm.trans (drop second))

theorem marked_of_toList {ds : List Char} (h : s.toList = '0' :: 'x' :: ds ∨
    s.toList = '0' :: 'X' :: ds) : Marked s (String.ofList ds) := by
  refine h.imp (fun h => ?_) fun h => ?_
  · apply String.toList_injective
    simp [h]
  · apply String.toList_injective
    simp [h]

theorem readNumber_of_marked (marked : Marked s digits) :
    readNumber s = (readWord 16 digits.toList).elim (.error .hexadecimal) .ok := by
  rcases marked with rfl | rfl
  · rw [readNumber, String.toList_append]
    rfl
  · rw [readNumber, String.toList_append]
    rfl

theorem readNumber_of_unmarked (unmarked : ∀ digits, ¬ Marked s digits) :
    readNumber s = (readWord 10 s.toList).elim (.error .decimal) .ok := by
  unfold readNumber
  split
  · next ds h => exact absurd (marked_of_toList (.inl h)) (unmarked _)
  · next ds h => exact absurd (marked_of_toList (.inr h)) (unmarked _)
  · rfl

theorem elim_eq_ok_iff {ε α : Type} {x : Option α} {e : ε} {a : α} :
    x.elim (.error e) Except.ok = .ok a ↔ x = some a := by
  cases x <;> simp

theorem elim_eq_error_iff {ε α : Type} {x : Option α} {e e' : ε} :
    x.elim (.error e) Except.ok = .error e' ↔ x = none ∧ e = e' := by
  cases x <;> simp

theorem readNumber_eq_ok_iff {w : UInt32} : readNumber s = .ok w ↔ NumberText s w.toNat := by
  by_cases mark : ∃ digits, Marked s digits
  · obtain ⟨digits, marked⟩ := mark
    rw [readNumber_of_marked marked, elim_eq_ok_iff, readWord_eq_some_iff (Nat.le_refl 16)]
    constructor
    · exact .hexadecimal marked
    · rintro (⟨marked', number⟩ | ⟨unmarked, -⟩)
      · rwa [marked.eq marked']
      · exact absurd marked (unmarked digits)
  · have unmarked := not_exists.mp mark
    rw [readNumber_of_unmarked unmarked, elim_eq_ok_iff, readWord_eq_some_iff (by decide)]
    constructor
    · exact .decimal unmarked
    · rintro (⟨marked, -⟩ | ⟨-, number⟩)
      · exact absurd marked (unmarked _)
      · exact number

theorem message_of_readNumber {e : NumberError} (refused : readNumber s = .error e) :
    ((∃ digits, Marked s digits) → e.message = "invalid hex number") ∧
      ((∀ digits, ¬ Marked s digits) → e.message = "invalid decimal number") := by
  constructor
  · rintro ⟨digits, marked⟩
    rw [readNumber_of_marked marked, elim_eq_error_iff] at refused
    rw [← refused.2]
    rfl
  · intro unmarked
    rw [readNumber_of_unmarked unmarked, elim_eq_error_iff] at refused
    rw [← refused.2]
    rfl

/-- No mark can be taken for a decimal number. -/
theorem unmarked_of_writes (h : Writes 10 s.toList n) : ∀ digits, ¬ Marked s digits := by
  have decimal (mark : Char) (there : mark ∈ s.toList) : mark ≠ 'x' ∧ mark ≠ 'X' := by
    obtain ⟨v, lt, rfl | rfl⟩ := h.exists_isDigit mark there
    · exact (by decide : ∀ v < 10, Nat.digitChar v ≠ 'x' ∧ Nat.digitChar v ≠ 'X') v lt
    · exact (by decide : ∀ v < 10, (Nat.digitChar v).toUpper ≠ 'x' ∧
        (Nat.digitChar v).toUpper ≠ 'X') v lt
  rintro digits (rfl | rfl)
  · exact (decimal 'x' (by simp)).1 rfl
  · exact (decimal 'X' (by simp)).2 rfl

/-- A text is read as the number that it stands for, if a word can hold it, and is turned down if
not; the complaint then tells from the mark which base was expected. So the decimal text of a word
is read back, and so is its hexadecimal text behind a mark, with any number of zeros in front. -/
theorem readNumber_exact :
    (∀ (s : String) (w : UInt32), readNumber s = .ok w ↔ NumberText s w.toNat) ∧
    (∀ s : String, (∃ w, readNumber s = .ok w) ↔ ∃ n ≤ 0xFFFFFFFF, NumberText s n) ∧
    (∀ (s : String) (e : NumberError), readNumber s = .error e →
      ((∃ digits, Marked s digits) → e.message = "invalid hex number") ∧
      ((∀ digits, ¬ Marked s digits) → e.message = "invalid decimal number")) ∧
    ∀ w : UInt32, readNumber (toString w) = .ok w ∧
      ∀ (s : String) (width : Nat),
        Marked s (hex width w.toNat) ∨ Marked s (hexUpper width w.toNat) →
        readNumber s = .ok w := by
  refine ⟨fun s w => readNumber_eq_ok_iff, fun s => ?_, fun s e => message_of_readNumber,
    fun w => ⟨?_, fun s width marked => ?_⟩⟩
  · constructor
    · rintro ⟨w, read⟩
      exact ⟨w.toNat, Nat.le_of_lt_succ w.toNat_lt, readNumber_eq_ok_iff.mp read⟩
    · rintro ⟨n, le, number⟩
      refine ⟨UInt32.ofNat n, readNumber_eq_ok_iff.mpr ?_⟩
      rwa [UInt32.toNat_ofNat_of_lt' (Nat.lt_succ_of_le le)]
  · have decimal : Writes 10 (toString w).toList w.toNat := by
      change Writes 10 (toString w.toNat).toList w.toNat
      rw [Nat.toString_eq_repr, Nat.toList_repr]
      exact writes_toDigits (by decide) w.toNat
    exact readNumber_eq_ok_iff.mpr (.decimal (unmarked_of_writes decimal) (.inl decimal))
  · have shown : Writes 16 (Numeral.digits 16 width w.toNat) w.toNat :=
      writes_digits (by decide) width w.toNat
    refine readNumber_eq_ok_iff.mpr ?_
    rcases marked with marked | marked
    · refine .hexadecimal marked (.inl ?_)
      rwa [hex, String.toList_ofList]
    · refine .hexadecimal marked (.inl ?_)
      rw [hexUpper, String.toList_ofList]
      exact shown.toUpper

/-! ### Devices -/

namespace DeviceId

/-- One half of a text that names a device: a hexadecimal number in four places at most. -/
def Half (half : String) (id : Nat) : Prop := half.length ≤ 4 ∧ Signed 16 half.toList id

/-- One half in which no place is taken by a sign. -/
def PlainHalf (half : String) (id : Nat) : Prop := half.length ≤ 4 ∧ Writes 16 half.toList id

/-- The ids that a text names by its halves, which are not both zero. -/
def Names (Half : String → Nat → Prop) (s : String) (vendorId productId : Nat) : Prop :=
  (vendorId ≠ 0 ∨ productId ≠ 0) ∧
    ∃ vendor product : String, s = vendor ++ ":" ++ product ∧
      Half vendor vendorId ∧ Half product productId

theorem half_iff_plainHalf {half : String} {id : Nat} (unsigned : '+' ∉ half.toList) :
    Half half id ↔ PlainHalf half id := by
  rw [Half, PlainHalf, signed_iff unsigned]

/-- A text without a sign names what it names by plain halves. -/
theorem names_iff_plain {vendorId productId : Nat} (unsigned : '+' ∉ s.toList) :
    Names Half s vendorId productId ↔ Names PlainHalf s vendorId productId := by
  refine and_congr_right fun _ => exists_congr fun vendor => exists_congr fun product =>
    and_congr_right ?_
  rintro rfl
  rw [String.toList_append, String.toList_append, List.mem_append, List.mem_append] at unsigned
  rw [half_iff_plainHalf fun there => unsigned (.inl (.inl there)),
    half_iff_plainHalf fun there => unsigned (.inr there)]

theorem utf8ByteSize_ofList {cs : List Char} (one : ∀ c ∈ cs, c.utf8Size = 1) :
    (String.ofList cs).utf8ByteSize = cs.length := by
  induction cs with
  | nil => rfl
  | cons c cs ih =>
    obtain ⟨here, rest⟩ := List.forall_mem_cons.mp one
    have split : String.ofList (c :: cs) = String.singleton c ++ String.ofList cs := by
      apply String.toList_injective
      simp
    rw [split, String.utf8ByteSize_append, String.utf8ByteSize_singleton, here, ih rest,
      List.length_cons, Nat.add_comm]

/-- Every place of a number takes one octet. -/
theorem utf8ByteSize_of_signed {half : String} (h : Signed base half.toList n) :
    half.utf8ByteSize = half.length := by
  have digits {cs : List Char} (h : Writes base cs n) : ∀ c ∈ cs, c.utf8Size = 1 := by
    intro c hc
    obtain ⟨v, digit⟩ := h.exists_isDigit c hc
    exact digit.utf8Size
  have one : ∀ c ∈ half.toList, c.utf8Size = 1 := by
    rcases h with h | ⟨ds, plus, h⟩
    · exact digits h
    · rw [plus]
      exact List.forall_mem_cons.mpr ⟨rfl, digits h⟩
  have size := utf8ByteSize_ofList one
  rwa [String.ofList_toList, String.length_toList] at size

theorem readHalf_eq_some_iff {half : List Char} {w : UInt16} :
    readHalf half = some w ↔ Signed 16 half w.toNat :=
  map_readUpTo_eq_some_iff (Nat.le_refl 16)
    (fun _ le => UInt16.toNat_ofNat_of_lt' (Nat.lt_succ_of_le le))
    (fun _ => UInt16.ofNat_toNat) fun w => Nat.le_of_lt_succ w.toNat_lt

/-- The octets are counted before the digits are looked at, and what is read has one for each
place. -/
theorem half_iff {half : String} {w : UInt16} :
    HalfFits half.toList ∧ readHalf half.toList = some w ↔ Half half w.toNat := by
  rw [readHalf_eq_some_iff, Half, and_congr_left_iff, HalfFits, String.ofList_toList]
  intro written
  have some : 0 < half.length := by
    rw [← String.length_toList]
    exact List.length_pos_iff.mpr written.ne_nil
  rw [utf8ByteSize_of_signed written]
  exact ⟨fun fits => fits.2, fun le => ⟨some, le⟩⟩

/-- Four hexadecimal places hold sixteen bits. -/
theorem Half.lt {half : String} {id : Nat} (h : Half half id) : id < 0x10000 := by
  refine Nat.lt_of_lt_of_le (h.2.lt_pow (by decide)) ?_
  rw [String.length_toList]
  exact Nat.pow_le_pow_right (by decide) h.1

theorem Half.no_colon {half : String} {id : Nat} (h : Half half id) : ':' ∉ half.toList := by
  intro there
  obtain ⟨-, h | ⟨ds, plus, h⟩⟩ := h
  · obtain ⟨v, digit⟩ := h.exists_isDigit ':' there
    exact digit.ne.2 rfl
  · rw [plus, List.mem_cons] at there
    rcases there with sign | there
    · exact absurd sign (by decide)
    · obtain ⟨v, digit⟩ := h.exists_isDigit ':' there
      exact digit.ne.2 rfl

/-- What is made of the halves of a text. -/
theorem read_append {vendor product : String} (first : ':' ∉ vendor.toList) :
    read (vendor ++ ":" ++ product) =
      if ¬ (HalfFits vendor.toList ∧ HalfFits product.toList) then .error .shape
      else
        match readHalf vendor.toList, readHalf product.toList with
        | none, _ => .error .vendor
        | some _, none => .error .product
        | some vendorId, some productId =>
          if vendorId = 0 ∧ productId = 0 then .error .null else .ok ⟨vendorId, productId⟩ := by
  have other : ∀ c ∈ vendor.toList, decide (c ≠ ':') = true := by
    intro c hc
    exact decide_eq_true fun same => first (same ▸ hc)
  have text : (vendor ++ ":" ++ product).toList = vendor.toList ++ ':' :: product.toList := by
    simp
  have front : (vendor ++ ":" ++ product).toList.takeWhile (· ≠ ':') = vendor.toList := by
    rw [text, List.takeWhile_append_of_pos other]
    simp
  have back : (vendor ++ ":" ++ product).toList.dropWhile (· ≠ ':') = ':' :: product.toList := by
    rw [text, List.dropWhile_append_of_pos other]
    simp
  rw [← front]
  unfold read
  split
  · next none =>
    rw [back] at none
    cases none
  · next there =>
    rw [back] at there
    cases there
    rfl

/-- The first colon of a text, if there is one. -/
theorem exists_halves (s : String) : s.toList.dropWhile (· ≠ ':') = [] ∨
    ∃ vendor product : String, s = vendor ++ ":" ++ product ∧ ':' ∉ vendor.toList := by
  cases back : s.toList.dropWhile (· ≠ ':') with
  | nil => exact Or.inl rfl
  | cons c product =>
    have colon : c = ':' := by
      have stop := List.head?_dropWhile_not (· ≠ ':') s.toList
      rw [back] at stop
      simpa using stop
    have whole := List.takeWhile_append_dropWhile (p := (· ≠ ':')) (l := s.toList)
    rw [back, colon] at whole
    refine Or.inr ⟨String.ofList (s.toList.takeWhile (· ≠ ':')), String.ofList product, ?_, ?_⟩
    · apply String.toList_injective
      simpa using whole.symm
    · rw [String.toList_ofList]
      intro there
      have other := List.mem_takeWhile_imp there
      simp at other

theorem Names.lt {vendorId productId : Nat} (h : Names Half s vendorId productId) :
    vendorId < 0x10000 ∧ productId < 0x10000 := by
  obtain ⟨-, _, _, -, first, second⟩ := h
  exact ⟨first.lt, second.lt⟩

theorem not_null_iff {d : DeviceId} :
    ¬ (d.vendorId = 0 ∧ d.productId = 0) ↔ d.vendorId.toNat ≠ 0 ∨ d.productId.toNat ≠ 0 := by
  rw [not_and_or]
  exact or_congr (not_congr UInt16.toNat_inj.symm) (not_congr UInt16.toNat_inj.symm)

theorem read_eq_ok_iff {d : DeviceId} :
    read s = .ok d ↔ Names Half s d.vendorId.toNat d.productId.toNat := by
  constructor
  · intro ok
    rcases exists_halves s with none | ⟨vendor, product, rfl, first⟩
    · rw [read, none] at ok
      cases ok
    · rw [read_append first] at ok
      split at ok
      · cases ok
      next fits =>
      rw [not_not] at fits
      split at ok
      · cases ok
      · cases ok
      next vendorId productId readVendor readProduct =>
      split at ok
      · cases ok
      next some =>
      cases ok
      exact ⟨not_null_iff.mp some, vendor, product, rfl, half_iff.mp ⟨fits.1, readVendor⟩,
        half_iff.mp ⟨fits.2, readProduct⟩⟩
  · rintro ⟨some, vendor, product, rfl, first, second⟩
    obtain ⟨fitsFirst, readFirst⟩ := half_iff.mpr first
    obtain ⟨fitsSecond, readSecond⟩ := half_iff.mpr second
    rw [read_append first.no_colon, if_neg (not_not.mpr ⟨fitsFirst, fitsSecond⟩), readFirst,
      readSecond]
    simp only [if_neg (not_null_iff.mpr some)]

theorem half_shown (w : UInt16) : Half (hexUpper 4 w.toNat) w.toNat := by
  have shown : Writes 16 (Numeral.digits 16 4 w.toNat) w.toNat := writes_digits (by decide) 4 _
  refine ⟨?_, .inl ?_⟩
  · have four : (Numeral.digits 16 4 w.toNat).length = 4 :=
      length_digits (by decide) (by decide) w.toNat_lt
    rw [hexUpper, ← String.length_toList, String.toList_ofList, List.length_map]
    exact Nat.le_of_eq four
  · rw [hexUpper, String.toList_ofList]
    exact shown.toUpper

theorem exists_read_iff (s : String) :
    (∃ d, read s = .ok d) ↔ ∃ vendorId productId, Names Half s vendorId productId := by
  constructor
  · rintro ⟨d, ok⟩
    exact ⟨_, _, read_eq_ok_iff.mp ok⟩
  · rintro ⟨vendorId, productId, names⟩
    obtain ⟨vendor, product⟩ := names.lt
    refine ⟨⟨UInt16.ofNat vendorId, UInt16.ofNat productId⟩, read_eq_ok_iff.mpr ?_⟩
    rwa [UInt16.toNat_ofNat_of_lt' vendor, UInt16.toNat_ofNat_of_lt' product]

theorem read_text {d : DeviceId} (some : d ≠ ⟨0, 0⟩) : read d.text = .ok d := by
  have notNull : ¬ (d.vendorId = 0 ∧ d.productId = 0) := by
    obtain ⟨vendorId, productId⟩ := d
    rintro ⟨rfl, rfl⟩
    exact some rfl
  exact read_eq_ok_iff.mpr ⟨not_null_iff.mp notNull, _, _, rfl, half_shown d.vendorId,
    half_shown d.productId⟩

/-- A text is read as the ids that it names, and is turned down if it names none: two hexadecimal
numbers with a colon between them, not both zero, each in one to four places, of which a plus sign
may take the first. So a text without that sign is read if and only if it is twice one to four
digits, and the text that is shown for a device is read back. -/
theorem read_exact (s : String) (d : DeviceId) :
    (read s = .ok d ↔ Names Half s d.vendorId.toNat d.productId.toNat) ∧
    ((∃ d, read s = .ok d) ↔ ∃ vendorId productId, Names Half s vendorId productId) ∧
    ('+' ∉ s.toList →
      (read s = .ok d ↔ Names PlainHalf s d.vendorId.toNat d.productId.toNat) ∧
      ((∃ d, read s = .ok d) ↔ ∃ vendorId productId, Names PlainHalf s vendorId productId)) ∧
    (d ≠ ⟨0, 0⟩ → read d.text = .ok d) := by
  refine ⟨read_eq_ok_iff, exists_read_iff s, fun unsigned => ⟨?_, ?_⟩, read_text⟩
  · rw [read_eq_ok_iff, names_iff_plain unsigned]
  · rw [exists_read_iff]
    exact exists_congr fun _ => exists_congr fun _ => names_iff_plain unsigned

/-- A sign is read where a digit was to stand: what is read is not just two times one to four
digits. -/
theorem read_takes_sign :
    ¬ ∀ s : String, (∃ d, read s = .ok d) ↔
      ∃ vendorId productId, Names PlainHalf s vendorId productId := by
  intro digits
  have signed : read "+10d:1101" = .ok ⟨0x10D, 0x1101⟩ := by decide
  obtain ⟨_, _, -, vendor, product, halves, first, second⟩ := (digits _).mp ⟨_, signed⟩
  have there : '+' ∈ (vendor ++ ":" ++ product).toList := by
    rw [← halves]
    decide
  have apart {half : String} {id : Nat} (written : Writes 16 half.toList id) :
      '+' ∉ half.toList := by
    intro there
    obtain ⟨v, digit⟩ := written.exists_isDigit '+' there
    exact digit.ne.1 rfl
  simp [apart first.2, apart second.2] at there

end DeviceId

end PlayerLink
