import PlayerLink.CommandLine.Invocation
import PlayerLink.Engine.Operations
import PlayerLink.Program.Desk
import PlayerLink.Program.Failure

/-!
# Sessions of a run

A run works on a device within a session: the device is opened and its interface claimed, the
work is done, and the interface is released and the device closed, however the work ended. In
service mode the work is framed further: the device must identify itself as a compatible
player and enter service mode, and it is detached afterwards if that was asked for, again
however the work ended.
-/

namespace PlayerLink

open Text

/-- Steps of a run that may fail, on a device with states `σ`. What is shown before a failure
stays shown. -/
abbrev RunM (σ : Type) := ExceptT Failure (BesideM σ Desk)

/-- Steps of a run on the bus. -/
abbrev ProgramM (δ : Type) := RunM (Bus δ)

/-- Steps of a run on an open device. -/
abbrev ServiceM (δ : Type) := RunM (Engine (Session δ))

namespace RunM

variable {σ α ε : Type}

/-- Changes what is on the desk. -/
def onDesk (change : Desk → Desk) : RunM σ Unit := ExceptT.lift (BesideM.onSide change)

/-- What is on the desk. -/
def desk : RunM σ Desk := do pure (← get).2

/-- Prints a text. -/
def say (text : String) : RunM σ Unit := onDesk (Desk.print text)

/-- Prints texts one after the other. -/
def sayAll (texts : List String) : RunM σ Unit := texts.forM say

/-- A step on the device alone. -/
def onDevice (step : StateT σ LogM α) : RunM σ α := ExceptT.lift (BesideM.onDevice step)

/-- A step on the device alone whose failure is told as `fail` says. -/
def require (step : StateT σ LogM (Except ε α)) (fail : ε → Failure) : RunM σ α :=
  ExceptT.mk do
    let outcome ← BesideM.onDevice step
    pure (outcome.mapError fail)

/-- Runs steps and gives how they ended as a value. -/
def attempt (steps : RunM σ α) : RunM σ (Except Failure α) := ExceptT.lift steps.run

/-- Stops with a failure, or goes on with the value. -/
def ended (outcome : Except Failure α) : RunM σ α := ExceptT.mk (pure outcome)

end RunM

open RunM

variable {δ α : Type}

/-- Does work on a device between opening and closing it. -/
def withDevice (device : StorageDevice) (openFailed claimFailed : StorageError → Failure)
    (work : ServiceM δ α) : ProgramM δ α :=
  ExceptT.mk fun (bus, desk) => do
    match ← Storage.openDevice device bus with
    | (.error e, bus) => pure (.error (openFailed e), (bus, desk))
    | (.ok handle, bus) =>
      match ← Session.claim ⟨bus, handle⟩ with
      | (.error e, session) =>
        let bus ← session.close
        pure (.error (claimFailed e), (bus, desk))
      | (.ok (), session) =>
        let (outcome, (engine, desk)) ← work.run ({ link := session }, desk)
        let bus ← engine.link.close
        pure (outcome, (bus, desk))

/-- Does work on the device that a target names. -/
def withTarget (target : Target) (work : ServiceM δ α) : ProgramM δ α := do
  let cannotOpen (e : StorageError) : Failure :=
    .during (.openDevice target.device) (.storage e)
  let device ← require (Storage.find target.device.vendorId target.device.productId)
    cannotOpen
  withDevice device cannotOpen (fun e => .during .claim (.storage e)) do
    let storage := device.storage
    LogM.debug <| s!"Claimed interface {storage.number} " ++
      s!"(in {Numeral.marked 2 storage.input.address.toNat}, " ++
      s!"out {Numeral.marked 2 storage.output.address.toNat})"
    work

variable [BulkLink δ]

/-- Makes sure of a compatible player and switches it into service mode. -/
def enterServiceMode : ServiceM δ Unit := do
  let identity ← require Engine.identify fun e => .during .identify (.command e)
  LogM.debug <| "Device answered IDENTIFY with adfu " ++
    Numeral.marked 2 identity.updateMode.toNat
  require Engine.initialise fun e => .during .initialise (.command e)

/-- Does work on a player in service mode. -/
def withServiceMode (service : ServiceTarget) (work : ServiceM δ α) : ProgramM δ α :=
  withTarget service.target do
    let outcome ← attempt do
      enterServiceMode
      work
    if service.detach then
      let detached ← onDevice Engine.detachQuietly
      if detached then say "Detaching device successful."
      else say "Detaching device failed."
    ended outcome

end PlayerLink
