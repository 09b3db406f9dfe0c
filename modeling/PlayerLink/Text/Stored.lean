import PlayerLink.Word

/-!
# Text as devices store it

Devices store text as octets that are mostly ASCII and need not be valid UTF-8. `Utf8.decode`
reads every run of octets: what is valid comes out as the characters it encodes, and each
longest start of a character that is then broken off becomes one replacement character. The
reader is a machine that takes one octet at a time. Between octets it either stands between two
characters or owes some continuation octets, the next of which must lie in a range that keeps
out overlong forms, surrogates and numbers past the last character.

String descriptors of USB devices hold UTF-16 units, least significant octet first.
`Utf16.decode` reads any sequence of units: a high surrogate and the low one after it give one
character, and a surrogate that stands alone gives a replacement character.

A text field of fixed length is filled up with NULs or blanks. Its text is what stands before
the first NUL, without the blanks at its end.
-/

namespace PlayerLink.Text

/-! ### UTF-8 -/

/-- Stands for what cannot be read. -/
def replacement : Char := '\uFFFD'

namespace Utf8

/-- Where the machine stands between two octets. -/
inductive State where
  | start
  /-- `owed` more octets complete the character; the next one lies in `low..high`. -/
  | owing (payload low high owed : Nat)
  deriving DecidableEq, Repr

/-- Takes the octet that starts a character. -/
def first (b : Nat) : List Char × State :=
  if b < 0x80 then ([Char.ofNat b], .start)
  else if b < 0xC2 then ([replacement], .start)
  else if b < 0xE0 then ([], .owing (b - 0xC0) 0x80 0xBF 1)
  else if b = 0xE0 then ([], .owing 0 0xA0 0xBF 2)
  else if b = 0xED then ([], .owing 0xD 0x80 0x9F 2)
  else if b < 0xF0 then ([], .owing (b - 0xE0) 0x80 0xBF 2)
  else if b = 0xF0 then ([], .owing 0 0x90 0xBF 3)
  else if b < 0xF4 then ([], .owing (b - 0xF0) 0x80 0xBF 3)
  else if b = 0xF4 then ([], .owing 4 0x80 0x8F 3)
  else ([replacement], .start)

/-- Takes one octet: the characters that are settled by it, and where the machine stands then.
An octet that does not continue the character owed breaks it off and is read afresh. -/
def State.next : State → Nat → List Char × State
  | .start, b => first b
  | .owing payload low high owed, b =>
    if low ≤ b ∧ b ≤ high then
      let payload := payload * 0x40 + (b - 0x80)
      if owed ≤ 1 then ([Char.ofNat payload], .start)
      else ([], .owing payload 0x80 0xBF (owed - 1))
    else
      let (settled, state) := first b
      (replacement :: settled, state)

/-- What is left to say when the octets end. -/
def State.finish : State → List Char
  | .start => []
  | .owing .. => [replacement]

/-- Reads the octets from a state on. -/
def State.run : State → List UInt8 → List Char
  | s, [] => s.finish
  | s, b :: bs =>
    let (settled, state) := s.next b.toNat
    settled ++ state.run bs

/-- The characters of a run of octets. -/
def decode (bs : List UInt8) : List Char := State.start.run bs

end Utf8

/-! ### UTF-16 -/

namespace Utf16

/-- The units of a run of octets; a last odd octet belongs to none. -/
def units : List UInt8 → List UInt16
  | a :: b :: rest => Word.ofLe16 [a, b] :: units rest
  | _ => []

def isHigh (u : UInt16) : Bool := 0xD800 ≤ u && u < 0xDC00

def isLow (u : UInt16) : Bool := 0xDC00 ≤ u && u < 0xE000

/-- The character that a unit stands for on its own. -/
def single (u : UInt16) : Char :=
  if isHigh u || isLow u then replacement else Char.ofNat u.toNat

/-- The character that a high and a low surrogate stand for together. -/
def joined (high low : UInt16) : Char :=
  Char.ofNat (0x10000 + (high.toNat - 0xD800) * 0x400 + (low.toNat - 0xDC00))

/-- The text of a sequence of units. -/
def decode : List UInt16 → List Char
  | [] => []
  | [u] => [single u]
  | u :: v :: rest =>
    if isHigh u && isLow v then joined u v :: decode rest
    else single u :: decode (v :: rest)

/-- The units of a character: one, or a pair of surrogates past the first plane. -/
def encodeChar (c : Char) : List UInt16 :=
  if c.toNat < 0x10000 then [UInt16.ofNat c.toNat]
  else
    let n := c.toNat - 0x10000
    [UInt16.ofNat (0xD800 + n / 0x400), UInt16.ofNat (0xDC00 + n % 0x400)]

/-- The units of a text. -/
def encode (cs : List Char) : List UInt16 := cs.flatMap encodeChar

end Utf16

/-! ### Fields filled up with blanks -/

/-- Whether a character has the Unicode property `White_Space`; a NUL has not. -/
def isBlank (c : Char) : Bool :=
  let n := c.toNat
  (0x09 ≤ n && n ≤ 0x0D) || n == 0x20 || n == 0x85 || n == 0xA0 || n == 0x1680 ||
    (0x2000 ≤ n && n ≤ 0x200A) || n == 0x2028 || n == 0x2029 || n == 0x202F || n == 0x205F ||
    n == 0x3000

/-- A text without the characters at its end that pass the test. -/
def dropEndWhile (p : Char → Bool) (cs : List Char) : List Char :=
  (cs.reverse.dropWhile p).reverse

/-- A text without the blanks at its end. -/
def trimEnd (cs : List Char) : List Char := dropEndWhile isBlank cs

/-- A text without the blanks at either end. -/
def trim (cs : List Char) : List Char := trimEnd (cs.dropWhile isBlank)

/-- The characters of a stored text field. -/
def storedChars (bs : List UInt8) : List Char :=
  trimEnd (Utf8.decode (bs.takeWhile (· ≠ 0)))

/-- The text of a stored text field. -/
def stored (bs : List UInt8) : String := String.ofList (storedChars bs)

end PlayerLink.Text
