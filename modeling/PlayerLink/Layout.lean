import PlayerLink.Word

/-!
# Fixed layouts

A layout says how a value fills a fixed number of octets. It carries its own laws: a written
value is read back whatever follows it, and a run that is long enough is written back
exactly. Layouts of records are put together from those of their fields with `pair`, `many`
and `via`, so a record inherits both laws and no octet of it, reserved or not, is lost.

`decode` reads a value from any run; what it makes of a run that is too short is not
specified. Whether a run may be read at all is decided where a format is defined.
-/

namespace PlayerLink

/-- The octets of `bs` cut or filled up with zeros to exactly `n`. -/
def zeroPad (n : Nat) (bs : List UInt8) : List UInt8 :=
  bs.take n ++ List.replicate (n - (bs.take n).length) 0

@[simp] theorem length_zeroPad (n : Nat) (bs : List UInt8) : (zeroPad n bs).length = n := by
  rw [zeroPad, List.length_append, List.length_replicate, List.length_take]
  omega

theorem zeroPad_of_le {n : Nat} {bs : List UInt8} (h : n ≤ bs.length) :
    zeroPad n bs = bs.take n := by
  simp [zeroPad, Nat.min_eq_left h]

/-- A text field or another run of octets of fixed length. -/
abbrev Field (n : Nat) := Vector UInt8 n

namespace Field

/-- The first `n` octets of a run, with zeros for those it does not have. -/
def ofList (n : Nat) (bs : List UInt8) : Field n :=
  ⟨(zeroPad n bs).toArray, by simp⟩

/-- The octet that a field starts with. -/
def first {n : Nat} (f : Field (n + 1)) : UInt8 := f[0]

/-- A field of zeros. -/
def zero (n : Nat) : Field n := Vector.replicate n 0

@[simp] theorem toList_ofList (n : Nat) (bs : List UInt8) :
    (ofList n bs).toList = zeroPad n bs := rfl

end Field

/-- A way to write the values of `α` as exactly `size` octets and to read them back. -/
structure Layout (α : Type) where
  size : Nat
  encode : α → List UInt8
  decode : List UInt8 → α
  length_encode : ∀ a, (encode a).length = size
  decode_encode_append : ∀ a rest, decode (encode a ++ rest) = a
  encode_decode : ∀ bs, size ≤ bs.length → encode (decode bs) = bs.take size

namespace Layout

variable {α β : Type}

theorem decode_encode (L : Layout α) (a : α) : L.decode (L.encode a) = a := by
  simpa using L.decode_encode_append a []

theorem encode_injective (L : Layout α) {a b : α} (h : L.encode a = L.encode b) : a = b := by
  rw [← L.decode_encode a, h, L.decode_encode]

/-- One octet. -/
def octet : Layout UInt8 where
  size := 1
  encode b := [b]
  decode bs := bs.headD 0
  length_encode _ := rfl
  decode_encode_append _ _ := rfl
  encode_decode bs h := by
    cases bs with
    | nil => simp at h
    | cons b bs => rfl

/-- A 16-bit word, least significant octet first. -/
def word16 : Layout UInt16 where
  size := 2
  encode := Word.le16
  decode := Word.ofLe16
  length_encode := Word.length_le16
  decode_encode_append := Word.ofLe16_append
  encode_decode _ h := Word.le16_ofLe16 h

/-- A 32-bit word, least significant octet first. -/
def word32 : Layout UInt32 where
  size := 4
  encode := Word.le32
  decode := Word.ofLe32
  length_encode := Word.length_le32
  decode_encode_append := Word.ofLe32_append
  encode_decode _ h := Word.le32_ofLe32 h

/-- A run of `n` octets kept as it is. -/
def field (n : Nat) : Layout (Field n) where
  size := n
  encode v := v.toList
  decode := Field.ofList n
  length_encode v := by simp
  decode_encode_append v rest := by
    apply Vector.toList_inj.mp
    rw [Field.toList_ofList, zeroPad_of_le (by simp), List.take_left' (by simp)]
  encode_decode bs h := by rw [Field.toList_ofList, zeroPad_of_le h]

/-- Two values, the second right after the first. -/
def pair (A : Layout α) (B : Layout β) : Layout (α × β) where
  size := A.size + B.size
  encode p := A.encode p.1 ++ B.encode p.2
  decode bs := (A.decode bs, B.decode (bs.drop A.size))
  length_encode p := by simp [A.length_encode, B.length_encode]
  decode_encode_append p rest := by
    rw [List.append_assoc, A.decode_encode_append, List.drop_left' (A.length_encode p.1),
      B.decode_encode_append]
  encode_decode bs h := by
    rw [A.encode_decode bs (by omega), B.encode_decode _ (by simp; omega), List.take_add]

/-- `n` values of one layout, one after the other, as a list. -/
def decodeMany (A : Layout α) : Nat → List UInt8 → List α
  | 0, _ => []
  | n + 1, bs => A.decode bs :: decodeMany A n (bs.drop A.size)

@[simp] theorem length_decodeMany (A : Layout α) (n : Nat) (bs : List UInt8) :
    (A.decodeMany n bs).length = n := by
  induction n generalizing bs with
  | zero => rfl
  | succ n ih => simp [decodeMany, ih]

theorem length_flatMap_encode (A : Layout α) (as : List α) :
    (as.flatMap A.encode).length = as.length * A.size := by
  induction as with
  | nil => simp
  | cons a as ih => simp [A.length_encode, ih, Nat.add_mul, Nat.add_comm]

theorem decodeMany_flatMap (A : Layout α) (as : List α) (rest : List UInt8) :
    A.decodeMany as.length (as.flatMap A.encode ++ rest) = as := by
  induction as with
  | nil => rfl
  | cons a as ih =>
    simp only [List.flatMap_cons, List.length_cons, decodeMany, List.append_assoc]
    rw [A.decode_encode_append, List.drop_left' (A.length_encode a), ih]

theorem flatMap_decodeMany (A : Layout α) (n : Nat) (bs : List UInt8)
    (h : n * A.size ≤ bs.length) :
    (A.decodeMany n bs).flatMap A.encode = bs.take (n * A.size) := by
  induction n generalizing bs with
  | zero => simp [decodeMany]
  | succ n ih =>
    rw [Nat.add_mul, Nat.one_mul] at h
    rw [decodeMany, List.flatMap_cons, A.encode_decode bs (by omega),
      ih _ (by simp; omega), Nat.add_mul, Nat.one_mul, Nat.add_comm, List.take_add]

/-- A table of `n` values of one layout. -/
def many (n : Nat) (A : Layout α) : Layout (Vector α n) where
  size := n * A.size
  encode v := v.toList.flatMap A.encode
  decode bs := ⟨(A.decodeMany n bs).toArray, by simp⟩
  length_encode v := by simp [A.length_flatMap_encode]
  decode_encode_append v rest := by
    apply Vector.toList_inj.mp
    have h := A.decodeMany_flatMap v.toList rest
    rw [Vector.length_toList] at h
    exact h
  encode_decode bs h := A.flatMap_decodeMany n bs h

/-- The layout of a record whose fields are those of `α` under another name. -/
def via (A : Layout α) (toFields : β → α) (ofFields : α → β)
    (ofFields_toFields : ∀ b, ofFields (toFields b) = b)
    (toFields_ofFields : ∀ a, toFields (ofFields a) = a) : Layout β where
  size := A.size
  encode b := A.encode (toFields b)
  decode bs := ofFields (A.decode bs)
  length_encode b := A.length_encode _
  decode_encode_append b rest := by rw [A.decode_encode_append, ofFields_toFields]
  encode_decode bs h := by rw [toFields_ofFields, A.encode_decode bs h]

end Layout

end PlayerLink
