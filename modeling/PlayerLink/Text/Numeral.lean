/-!
# Numerals

Numbers are shown in decimal or in hexadecimal with a least number of digits, and read in
either base. A number that is read may carry a plus sign and any number of leading zeros;
it needs at least one digit and must not exceed the limit given.
-/

namespace PlayerLink.Text.Numeral

/-- The digits of `n` with zeros in front up to `width` of them. -/
def digits (base width n : Nat) : List Char :=
  let ds := Nat.toDigits base n
  List.replicate (width - ds.length) '0' ++ ds

/-- At least `width` hexadecimal digits, in lower case. -/
def hex (width n : Nat) : String := String.ofList (digits 16 width n)

/-- At least `width` hexadecimal digits, in upper case. -/
def hexUpper (width n : Nat) : String := String.ofList ((digits 16 width n).map Char.toUpper)

/-- At least `width` hexadecimal digits after the mark `0x`. -/
def marked (width n : Nat) : String := "0x" ++ hex width n

/-- A text filled up with blanks on the left to `width` characters. -/
def alignRight (width : Nat) (s : String) : String :=
  String.ofList (List.replicate (width - s.length) ' ') ++ s

/-- A text filled up with blanks on the right to `width` characters. -/
def alignLeft (width : Nat) (s : String) : String :=
  s ++ String.ofList (List.replicate (width - s.length) ' ')

/-! ### Reading -/

/-- The value of a digit, in either case. -/
def digitValue (c : Char) : Option Nat :=
  if '0' ≤ c ∧ c ≤ '9' then some (c.toNat - '0'.toNat)
  else if 'a' ≤ c ∧ c ≤ 'f' then some (c.toNat - 'a'.toNat + 10)
  else if 'A' ≤ c ∧ c ≤ 'F' then some (c.toNat - 'A'.toNat + 10)
  else none

/-- The value of a digit of the given base. -/
def digitIn (base : Nat) (c : Char) : Option Nat :=
  (digitValue c).filter (· < base)

/-- The value of `acc` followed by digits. -/
def readDigitsFrom (base : Nat) : Nat → List Char → Option Nat
  | acc, [] => some acc
  | acc, c :: cs => (digitIn base c).bind fun d => readDigitsFrom base (acc * base + d) cs

/-- The value of one or more digits. -/
def readDigits (base : Nat) : List Char → Option Nat
  | [] => none
  | cs => readDigitsFrom base 0 cs

/-- The value of a number with an optional plus sign, if it is at most `limit`. -/
def readUpTo (base limit : Nat) (cs : List Char) : Option Nat :=
  let unsigned := match cs with
    | '+' :: ds => ds
    | ds => ds
  (readDigits base unsigned).filter (· ≤ limit)

/-- The value of a decimal number with an optional sign. -/
def readSigned : List Char → Option Int
  | '-' :: ds => (readDigits 10 ds).map fun n => -(n : Int)
  | '+' :: ds => (readDigits 10 ds).map Int.ofNat
  | ds => (readDigits 10 ds).map Int.ofNat

end PlayerLink.Text.Numeral
