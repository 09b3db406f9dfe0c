import PlayerLink.Text.Numeral

/-!
# Sizes for people

A size is shown in the largest unit of which it has at least one, up to tebibytes, with one
decimal place; below one kibibyte it is the plain number. The place is rounded to the
nearest, a tie to the even digit, after the size itself has been brought to 53 significant
bits, again to the nearest and a tie to even. Scaling by 1024 loses nothing, so all of it is
arithmetic on natural numbers.
-/

namespace PlayerLink.Text.Size

/-- `num / den` rounded to the nearest whole number, a tie to the even one. -/
def roundDiv (num den : Nat) : Nat :=
  let q := num / den
  let r := num % den
  if 2 * r < den then q
  else if den < 2 * r then q + 1
  else if q % 2 = 0 then q else q + 1

/-- `n` brought to 53 significant bits. -/
def significant (n : Nat) : Nat :=
  let grain := 1 <<< (n.log2 + 1 - 53)
  roundDiv n grain * grain

/-- The units past the byte, each 1024 of the one before. -/
def units : List String := ["KiB", "MiB", "GiB", "TiB"]

/-- The unit to show `n` in and what it is worth: of the units given, the last one that is
reached by going on while `n` is at least 1024 of the unit before. -/
def choose (n : Nat) : Nat → String → List String → Nat × String
  | worth, unit, [] => (worth, unit)
  | worth, unit, next :: rest =>
    if worth * 1024 ≤ n then choose n (worth * 1024) next rest else (worth, unit)

/-- The size as shown, such as `1.5 MiB`. -/
def text (bytes : Nat) : String :=
  let n := significant bytes
  let (worth, unit) := choose n 1 "B" units
  if worth = 1 then s!"{bytes} {unit}"
  else
    let tenths := roundDiv (n * 10) worth
    s!"{tenths / 10}.{tenths % 10} {unit}"

end PlayerLink.Text.Size
