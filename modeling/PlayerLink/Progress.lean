import PlayerLink.Log

/-!
# Progress

Long work tells a reporter how much there is to do, how much of it was done since it last
said so, and when it is finished. `Tally` counts what it is told; `Unit` listens to nothing.
-/

namespace PlayerLink

/-- Something that is told how work goes on. -/
class Progress (π : Type) where
  start : Nat → π → π
  advance : Nat → π → π
  finish : π → π

instance : Progress Unit where
  start _ := id
  advance _ := id
  finish := id

/-- What a reporter was told: the total, if work was started, the sum of the steps, and how
often it was finished. -/
structure Tally where
  total : Option Nat := none
  advanced : Nat := 0
  finished : Nat := 0
  deriving DecidableEq, Repr

instance : Progress Tally where
  start total t := { t with total := some total }
  advance amount t := { t with advanced := t.advanced + amount }
  finish t := { t with finished := t.finished + 1 }

/-- Steps on a device with states `σ` beside a second state `π`. -/
abbrev BesideM (σ π : Type) := StateT (σ × π) LogM

namespace BesideM

variable {σ π α : Type}

/-- Steps that concern the device alone. -/
def onDevice (step : StateT σ LogM α) : BesideM σ π α := fun (s, p) => do
  let (a, s) ← step s
  pure (a, (s, p))

/-- A change of the second state alone. -/
def onSide (change : π → π) : BesideM σ π Unit := modify fun (s, p) => (s, change p)

end BesideM

end PlayerLink
