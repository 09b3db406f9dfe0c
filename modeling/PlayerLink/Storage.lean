import PlayerLink.Engine.Basic
import PlayerLink.Usb.Bus

/-!
# Mass storage devices

A storage device is a device on the bus with an interface for bulk-only mass storage. It is
found by its ids, opened, and its interface is claimed before anything is transferred. A claim
is released before the device is closed, once for each time it succeeded.

A release that the controller refuses counts as done here, but the controller still holds the
claim, so it is asked once more when the device is closed.
-/

namespace PlayerLink

open Text

/-- Why a storage device could not be used. -/
inductive StorageError where
  | listFailed (cause : UsbError)
  | openFailed (cause : UsbError)
  | notFound (vendorId productId : UInt16)
  | nullDeviceId
  | busy (interface : UInt8)
  | claimFailed (interface : UInt8) (cause : UsbError)
  deriving DecidableEq, Repr

namespace StorageError

/-- The text of a failure. -/
def message : StorageError → String
  | listFailed _ => "failed to get usb devices from rusb"
  | openFailed _ => "failed to open usb device"
  | notFound vendorId productId =>
    s!"device {Numeral.hex 4 vendorId.toNat}:{Numeral.hex 4 productId.toNat} not found"
  | nullDeviceId => "device id 0000:0000 is not valid"
  | busy interface => s!"interface {interface} is busy"
  | claimFailed interface _ => s!"failed to claim interface {interface}"

/-- The texts of what caused a failure. -/
def causes : StorageError → List String
  | listFailed cause | openFailed cause | claimFailed _ cause => [cause.message]
  | _ => []

end StorageError

/-- A device with an interface for mass storage. -/
structure StorageDevice where
  /-- Its place on the bus. -/
  position : Nat
  vendorId : UInt16
  productId : UInt16
  busNumber : UInt8
  address : UInt8
  storage : StorageInterface
  deriving DecidableEq, Repr

/-- A storage device that is open. -/
structure OpenDevice where
  device : StorageDevice
  /-- Whether the interface is claimed and not released since. -/
  claimed : Bool := false
  /-- Whether the controller holds a claim. -/
  held : Bool := false
  /-- In milliseconds. -/
  timeout : Nat := 1000
  deriving DecidableEq, Repr

/-- The bus and one open device on it. -/
structure Session (δ : Type) where
  bus : Bus δ
  handle : OpenDevice

/-- Steps on the bus. -/
abbrev BusM (δ : Type) := StateT (Bus δ) LogM

/-- Steps of a session. -/
abbrev SessionM (δ : Type) := StateT (Session δ) LogM

namespace Storage

variable {δ α : Type}

/-- The storage devices among those attached from a place on, and the devices after they were
looked at. -/
def probeAll : Nat → List (AttachedDevice δ) → List StorageDevice × List (AttachedDevice δ)
  | _, [] => ([], [])
  | position, d :: rest =>
    let (storage, d) := d.probe
    let (found, rest) := probeAll (position + 1) rest
    let here := storage.map fun storage =>
      { position, storage, vendorId := d.vendorId, productId := d.productId,
        busNumber := d.busNumber, address := d.address }
    (here.toList ++ found, d :: rest)

/-- Every storage device on the bus. -/
def list : BusM δ (Except StorageError (List StorageDevice)) := fun b =>
  match Bus.listOutcome b with
  | (some e, b) => pure (.error (.listFailed e), b)
  | (none, b) =>
    let (found, devices) := probeAll 0 b.devices
    pure (.ok found, { b with devices })

/-- The first storage device with the given ids. -/
def find (vendorId productId : UInt16) : BusM δ (Except StorageError StorageDevice) := do
  if vendorId = 0 ∧ productId = 0 then pure (.error .nullDeviceId)
  else
    match ← list with
    | .error e => pure (.error e)
    | .ok found =>
      match found.find? fun d => d.vendorId = vendorId ∧ d.productId = productId with
      | some d => pure (.ok d)
      | none => pure (.error (.notFound vendorId productId))

/-- A step of the bus that writes nothing to the log. -/
def onBus (step : StateM (Bus δ) α) : BusM δ α := fun b => pure (step b)

/-- Opens a device. -/
def openDevice (d : StorageDevice) : BusM δ (Except StorageError OpenDevice) := do
  match ← onBus (Bus.perform d.position .opening (.opened d.position)) with
  | some e => pure (.error (.openFailed e))
  | none =>
    if let some e ← onBus (Bus.perform d.position .autoDetach (.autoDetached d.position)) then
      LogM.debug s!"Kernel driver auto-detach unavailable: {e.message}"
    LogM.debug <| s!"Opened {Numeral.hex 4 d.vendorId.toNat}:{Numeral.hex 4 d.productId.toNat} " ++
      s!"on bus {d.busNumber} address {d.address}"
    pure (.ok { device := d })

end Storage

namespace Session

variable {δ α : Type}

/-- A call on the bus. -/
def onBus (step : StateM (Bus δ) α) : SessionM δ α := fun s =>
  let (a, bus) := step s.bus
  pure (a, { s with bus })

/-- Changes what is known of the open device. -/
def setHandle (change : OpenDevice → OpenDevice) : SessionM δ Unit :=
  modify fun s => { s with handle := change s.handle }

/-- Claims the interface. It must not be claimed already. -/
def claim : SessionM δ (Except StorageError Unit) := do
  let handle := (← get).handle
  let position := handle.device.position
  let interface := handle.device.storage.number
  if handle.claimed then pure (.error (.busy interface))
  else
    match ← onBus (Bus.perform position .claim (.claimed position interface)) with
    | none =>
      setHandle fun h => { h with claimed := true, held := true }
      pure (.ok ())
    | some .busy => pure (.error (.busy interface))
    | some e => pure (.error (.claimFailed interface e))

/-- Releases the interface if it is claimed; a failure is only logged. -/
def release : SessionM δ Unit := do
  let handle := (← get).handle
  let position := handle.device.position
  let interface := handle.device.storage.number
  if handle.claimed then
    setHandle fun h => { h with claimed := false }
    match ← onBus (Bus.perform position .release (.released position interface)) with
    | none => setHandle fun h => { h with held := false }
    | some e => LogM.warn s!"Failed to release interface {interface}: {e.message}"

/-- Closes the device after it gave up what the controller still holds. -/
def dropHandle : SessionM δ Unit := do
  let handle := (← get).handle
  let position := handle.device.position
  if handle.held then
    let _ ← onBus (Bus.perform position .release
      (.surrendered position handle.device.storage.number))
    setHandle fun h => { h with held := false }
  onBus (Bus.note (.closed position))

/-- Releases the interface, closes the device and gives back the bus. -/
def close (s : Session δ) : LogM (Bus δ) := do
  let ((), s) ← (do release; dropHandle : SessionM δ Unit) s
  pure s.bus

variable [BulkLink δ]

/-- A call for the open device. -/
def onDevice (call : OpenDevice → StateM (Bus δ) α) : StateM (Session δ) α := fun s =>
  let (a, bus) := call s.handle s.bus
  (a, { s with bus })

instance : BulkLink (Session δ) where
  send data := onDevice fun h =>
    Bus.send h.device.position h.device.storage.output.address (UInt32.ofNat h.timeout) data
  receive room := onDevice fun h =>
    Bus.receive h.device.position h.device.storage.input.address (UInt32.ofNat h.timeout) room
  clearHalt := onDevice fun h =>
    Bus.clearHalt h.device.position h.device.storage.input.address

end Session

end PlayerLink
