import PlayerLink.Files.Folder
import PlayerLink.Progress

/-!
# The operator's desk

What a run shows and leaves behind apart from the log: the texts it prints, its complaints, its
progress bars, and the files in the working folder.
-/

namespace PlayerLink

/-- What a progress bar counts. -/
inductive BarUnit where
  | octets
  | none
  deriving DecidableEq, Repr

/-- A progress bar and what it was told. -/
structure ProgressBar where
  unit : BarUnit
  label : String := ""
  total : Nat := 0
  added : Nat := 0
  finished : Bool := false
  deriving DecidableEq, Repr

/-- What a run shows and leaves behind. -/
structure Desk where
  /-- The texts printed, each followed by an end of line. -/
  printed : Array String := #[]
  complaints : Array String := #[]
  bars : Array ProgressBar := #[]
  folder : Folder := {}
  deriving DecidableEq, Repr

namespace Desk

/-- Prints a text and ends the line. -/
def print (text : String) (d : Desk) : Desk := { d with printed := d.printed.push text }

/-- Complains and ends the line. -/
def complain (text : String) (d : Desk) : Desk :=
  { d with complaints := d.complaints.push text }

/-- Puts up another progress bar. -/
def addBar (bar : ProgressBar) (d : Desk) : Desk := { d with bars := d.bars.push bar }

/-- Changes the progress bar that was put up last. -/
def lastBar (change : ProgressBar → ProgressBar) (d : Desk) : Desk :=
  { d with bars := d.bars.modify (d.bars.size - 1) change }

/-- Work is shown by the bar that was put up last; its line ends with the work. -/
instance : Progress Desk where
  start total := lastBar fun b => { b with total }
  advance amount := lastBar fun b => { b with added := b.added + amount }
  finish d := (lastBar (fun b => { b with finished := true }) d).print ""

end Desk

end PlayerLink
