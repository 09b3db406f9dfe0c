/-!
# Words in memory order

A word travels as a run of octets. `value` reads a run with the least significant octet
first, `octets` writes one of a given width, and the two undo each other: every word that
fits the width is read back, and every run is written back as it was.

SCSI commands put the most significant octet first, so the big-endian forms are the
little-endian ones reversed and inherit their laws.
-/

namespace PlayerLink.Word

/-- The number a run of octets stands for, least significant octet first. -/
def value : List UInt8 → Nat
  | [] => 0
  | b :: bs => b.toNat + 256 * value bs

/-- The `width` low octets of `n`, least significant first. -/
def octets : Nat → Nat → List UInt8
  | 0, _ => []
  | width + 1, n => UInt8.ofNat n :: octets width (n / 256)

/-- How many numbers fit the width. -/
def span : Nat → Nat
  | 0 => 1
  | width + 1 => 256 * span width

theorem value_lt (bs : List UInt8) : value bs < span bs.length := by
  induction bs with
  | nil => exact Nat.zero_lt_one
  | cons b bs ih =>
    have hb : b.toNat < 256 := b.toNat_lt
    simp only [value, List.length_cons, span]
    omega

theorem value_octets (width n : Nat) : value (octets width n) = n % span width := by
  induction width generalizing n with
  | zero => simp [octets, value, span, Nat.mod_one]
  | succ width ih =>
    have octet : (UInt8.ofNat n).toNat = n % 256 := UInt8.toNat_ofNat'
    rw [octets, value, ih, octet, span, Nat.mod_mul]

theorem octets_value (bs : List UInt8) : octets bs.length (value bs) = bs := by
  induction bs with
  | nil => rfl
  | cons b bs ih =>
    have hb : b.toNat < 256 := b.toNat_lt
    have low : UInt8.ofNat (b.toNat + 256 * value bs) = b := by
      apply UInt8.toNat_inj.mp
      rw [UInt8.toNat_ofNat']
      omega
    have high : (b.toNat + 256 * value bs) / 256 = value bs := by omega
    simp only [value, List.length_cons, octets, low, high, ih]

theorem octets_value_of_length {width : Nat} {bs : List UInt8} (h : bs.length = width) :
    octets width (value bs) = bs := by
  subst h
  exact octets_value bs

/-! ### Sixteen bits -/

/-- The octets of a 16-bit word, least significant first. -/
def le16 (w : UInt16) : List UInt8 := octets 2 w.toNat

/-- The 16-bit word that starts a run of octets, least significant octet first. -/
def ofLe16 (bs : List UInt8) : UInt16 := UInt16.ofNat (value (bs.take 2))

/-- The octets of a 16-bit word, most significant first. -/
def be16 (w : UInt16) : List UInt8 := (le16 w).reverse

@[simp] theorem length_le16 (w : UInt16) : (le16 w).length = 2 := rfl

@[simp] theorem ofLe16_append (w : UInt16) (rest : List UInt8) : ofLe16 (le16 w ++ rest) = w := by
  have hw : w.toNat < span 2 := w.toNat_lt
  rw [ofLe16, List.take_left' (length_le16 w), le16, value_octets, Nat.mod_eq_of_lt hw,
    UInt16.ofNat_toNat]

theorem le16_ofLe16 {bs : List UInt8} (h : 2 ≤ bs.length) : le16 (ofLe16 bs) = bs.take 2 := by
  have hl : (bs.take 2).length = 2 := by simp; omega
  have hv : value (bs.take 2) < UInt16.size :=
    Nat.lt_of_lt_of_eq (value_lt _) (congrArg span hl)
  rw [le16, ofLe16, UInt16.toNat_ofNat_of_lt' hv, octets_value_of_length hl]

/-! ### Thirty-two bits -/

/-- The octets of a 32-bit word, least significant first. -/
def le32 (w : UInt32) : List UInt8 := octets 4 w.toNat

/-- The 32-bit word that starts a run of octets, least significant octet first. -/
def ofLe32 (bs : List UInt8) : UInt32 := UInt32.ofNat (value (bs.take 4))

/-- The octets of a 32-bit word, most significant first. -/
def be32 (w : UInt32) : List UInt8 := (le32 w).reverse

/-- The 32-bit word that starts a run of octets, most significant octet first. -/
def ofBe32 (bs : List UInt8) : UInt32 := UInt32.ofNat (value (bs.take 4).reverse)

@[simp] theorem length_le32 (w : UInt32) : (le32 w).length = 4 := rfl

@[simp] theorem length_be32 (w : UInt32) : (be32 w).length = 4 := rfl

@[simp] theorem ofLe32_append (w : UInt32) (rest : List UInt8) : ofLe32 (le32 w ++ rest) = w := by
  have hw : w.toNat < span 4 := w.toNat_lt
  rw [ofLe32, List.take_left' (length_le32 w), le32, value_octets, Nat.mod_eq_of_lt hw,
    UInt32.ofNat_toNat]

@[simp] theorem ofBe32_append (w : UInt32) (rest : List UInt8) : ofBe32 (be32 w ++ rest) = w := by
  have hw : w.toNat < span 4 := w.toNat_lt
  rw [ofBe32, List.take_left' (length_be32 w), be32, List.reverse_reverse, le32, value_octets,
    Nat.mod_eq_of_lt hw, UInt32.ofNat_toNat]

theorem le32_ofLe32 {bs : List UInt8} (h : 4 ≤ bs.length) : le32 (ofLe32 bs) = bs.take 4 := by
  have hl : (bs.take 4).length = 4 := by simp; omega
  have hv : value (bs.take 4) < UInt32.size :=
    Nat.lt_of_lt_of_eq (value_lt _) (congrArg span hl)
  rw [le32, ofLe32, UInt32.toNat_ofNat_of_lt' hv, octets_value_of_length hl]

end PlayerLink.Word
