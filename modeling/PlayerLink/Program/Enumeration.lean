import PlayerLink.Program.Session

/-!
# Looking at every device

`enumerate` tells of each mass storage device whether it is a compatible player; whatever goes
wrong with one device does not concern the others. `survey` shows what each device says about
itself and stops at the first that cannot be asked.
-/

namespace PlayerLink

open Text RunM

variable {δ : Type} [BulkLink δ]

/-- The ids of a device in a line of the enumeration. -/
def idText (d : StorageDevice) : String := DeviceId.text ⟨d.vendorId, d.productId⟩

/-- Tells of one device whether it is a compatible player. -/
def testDevice (d : StorageDevice) : ProgramM δ Bool := do
  let line (answer : String) : String :=
    s!"Testing USB mass storage device {idText d} - {answer}"
  let identified : ServiceM δ Bool := do
    match ← onDevice Engine.identify with
    | .ok _ =>
      say (line "FOUND")
      pure true
    | .error e =>
      LogM.debug s!"{idText d}: {e.message}"
      say (line "FAIL")
      pure false
  match ← attempt (withDevice d .storage .storage identified) with
  | .ok compatible => pure compatible
  | .error failure =>
    say (line s!"FAIL ({failure.message})")
    pure false

/-- Tests devices one after the other and counts the compatible players. -/
def testDevices : List StorageDevice → ProgramM δ Nat
  | [] => pure 0
  | d :: rest => do
    let compatible ← testDevice d
    let others ← testDevices rest
    pure ((if compatible then 1 else 0) + others)

/-- Tells of each device whether it is a compatible player. -/
def enumerate : ProgramM δ Unit := do
  let devices ← require Storage.list .storage
  say "\nChecking for Actions Semiconductor compatible devices...\n"
  let found ← testDevices devices
  if found > 0 then say s!"\nFound {found} compatible device(s)."
  else say "\nNo compatible devices found."

/-- Shows what one device says about itself. -/
def surveyDevice (d : StorageDevice) : ProgramM δ Unit :=
  withDevice d .storage .storage do
    let inquiry ← require (Engine.inquiry 0) .command
    let ids := s!"{Numeral.hex 4 d.vendorId.toNat}:{Numeral.hex 4 d.productId.toNat}"
    say s!"{ids} '{inquiry.vendor}' '{inquiry.product}' '{inquiry.revision}'"
    match ← onDevice Engine.identify with
    | .ok identity => say s!"    {identity.nameText} (adfu {identity.updateMode})"
    | .error e => say s!"    {e.message}"

/-- Shows what each device says about itself. -/
def survey : ProgramM δ Unit := do
  let devices ← require Storage.list .storage
  if devices.isEmpty then
    onDesk (Desk.complain "No USB mass storage devices found.")
  else devices.forM surveyDevice

end PlayerLink
