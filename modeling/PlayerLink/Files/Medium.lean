import PlayerLink.Files.Error
import PlayerLink.Layout

/-!
# Media that may fail

A medium is a file that is open for writing at any position: its content, the position, and
the calls made so far. How the calls to come will turn out is given with it, one list for
each kind of call; a call past the end of its list succeeds in full.

`writeAll` keeps on writing until everything is taken. A call that is interrupted is made
again, one that takes a part is followed by another for the rest, and one that takes nothing
or fails for good ends it. It uses up the list of outcomes, so it always ends.
-/

namespace PlayerLink

/-- How one call of a write turns out. -/
inductive WriteStep where
  | all
  /-- No more octets than this are taken. -/
  | upTo (limit : Nat)
  | fail (cause : FileError)
  deriving DecidableEq, Repr

/-- One call on a medium. -/
inductive MediumCall where
  | seek (position : Nat)
  /-- The octets that were taken at a position. -/
  | write (position : Nat) (taken : List UInt8)
  | writeFailed
  | flush
  deriving DecidableEq, Repr

/-- A file that is open for writing. -/
structure Medium where
  content : List UInt8 := []
  position : Nat := 0
  seeks : List (Option FileError) := []
  writes : List WriteStep := []
  flushes : List (Option FileError) := []
  /-- A write that would end past this is lost, though it moves the position. -/
  limit : Option Nat := none
  /-- The calls made so far, oldest first. -/
  calls : Array MediumCall := #[]
  deriving DecidableEq, Repr

/-- Content with octets put at a position; a gap before them is filled with zeros. Where there
is nothing to put, there is no gap to fill either. -/
def putAt (position : Nat) (bs content : List UInt8) : List UInt8 :=
  if bs.isEmpty then content
  else zeroPad position content ++ bs ++ content.drop (position + bs.length)

namespace Medium

/-- Moves to a position. -/
def seek (position : Nat) : StateM Medium (Except FileError Unit) := fun m =>
  let noted := { m with calls := m.calls.push (.seek position), seeks := m.seeks.tail }
  match m.seeks.head?.join with
  | some e => (.error e, noted)
  | none => (.ok (), { noted with position })

/-- Makes sure that what was written is kept. -/
def flush : StateM Medium (Except FileError Unit) := fun m =>
  let noted := { m with calls := m.calls.push .flush, flushes := m.flushes.tail }
  match m.flushes.head?.join with
  | some e => (.error e, noted)
  | none => (.ok (), noted)

/-- Takes octets at the position. -/
def take (m : Medium) (bs : List UInt8) : Medium :=
  let kept := m.limit.all fun limit => m.position + bs.length ≤ limit
  { m with
    content := if kept then putAt m.position bs m.content else m.content
    position := m.position + bs.length
    calls := m.calls.push (.write m.position bs) }

/-- Writes octets with the outcomes to come given. -/
def writeWith : List WriteStep → List UInt8 → Medium → Except FileError Unit × Medium
  | steps, [], m => (.ok (), { m with writes := steps })
  | [], b :: bs, m => (.ok (), { m.take (b :: bs) with writes := [] })
  | .all :: steps, b :: bs, m => (.ok (), { m.take (b :: bs) with writes := steps })
  | .upTo n :: steps, b :: bs, m =>
    let m := m.take ((b :: bs).take n)
    if n = 0 then (.error .nothingTaken, { m with writes := steps })
    else writeWith steps ((b :: bs).drop n) m
  | .fail e :: steps, b :: bs, m =>
    let m := { m with calls := m.calls.push .writeFailed }
    if e = .interrupted then writeWith steps (b :: bs) m
    else (.error e, { m with writes := steps })

/-- Writes all of the octets. -/
def writeAll (bs : List UInt8) : StateM Medium (Except FileError Unit) := fun m =>
  writeWith m.writes bs m

end Medium

end PlayerLink
