import PlayerLink.Usb.Descriptor
import PlayerLink.Usb.Link

/-!
# The bus

The bus has devices attached in a fixed order. What a device does with the octets sent to it
is up to its link; how the controller's calls for it turn out is given by one list for each
kind of call, and a call past the end of its list succeeds. The bus keeps a trace of the
calls that concern an open device.

A caller sees a fault as `UsbError.reported` says; the trace has it as it was.
-/

namespace PlayerLink

/-- The calls for a device that may fail by themselves. -/
inductive DeviceCall where
  | descriptor | activeConfiguration | firstConfiguration | opening | autoDetach | claim
  | release | clearHalt
  deriving DecidableEq, Repr

/-- A device on the bus. -/
structure AttachedDevice (δ : Type) where
  vendorId : UInt16
  productId : UInt16
  busNumber : UInt8
  address : UInt8
  active : Configuration
  first : Configuration
  link : δ
  faults : DeviceCall → List (Option UsbError) := fun _ => []

/-- One call for an open device and how it turned out. -/
inductive BusEvent where
  | opened (device : Nat) (fault : Option UsbError)
  | autoDetached (device : Nat) (fault : Option UsbError)
  | claimed (device : Nat) (interface : UInt8) (fault : Option UsbError)
  | released (device : Nat) (interface : UInt8) (fault : Option UsbError)
  /-- A release that comes with closing, since one asked for before was refused. -/
  | surrendered (device : Nat) (interface : UInt8) (fault : Option UsbError)
  | haltCleared (device : Nat) (endpoint : UInt8) (fault : Option UsbError)
  | closed (device : Nat)
  | sent (device : Nat) (endpoint : UInt8) (data : List UInt8) (timeout : UInt32)
      (outcome : Except UsbError Nat)
  | received (device : Nat) (endpoint : UInt8) (room : Nat) (timeout : UInt32)
      (outcome : Except UsbError Nat)

namespace BusEvent

/-- The device that an event concerns. -/
def device : BusEvent → Nat
  | opened d _ | autoDetached d _ | claimed d _ _ | released d _ _ | surrendered d _ _
  | haltCleared d _ _ | closed d | sent d _ _ _ _ | received d _ _ _ _ => d

/-- The octets that an event sent, if it did. -/
def sentData? : BusEvent → Option (List UInt8)
  | sent _ _ data _ _ => some data
  | _ => none

/-- Whether an event cleared a halt, or tried to. -/
def isHaltCleared : BusEvent → Bool
  | haltCleared .. => true
  | _ => false

/-- Whether an event moved octets. -/
def isTransfer : BusEvent → Bool
  | sent .. | received .. => true
  | _ => false

end BusEvent

/-- The devices and what was done with them. -/
structure Bus (δ : Type) where
  devices : List (AttachedDevice δ)
  listFaults : List (Option UsbError) := []
  /-- The calls so far, oldest first. -/
  trace : Array BusEvent := #[]

namespace AttachedDevice

variable {δ : Type}

/-- How the next call of a kind turns out. -/
def outcome (call : DeviceCall) (d : AttachedDevice δ) : Option UsbError × AttachedDevice δ :=
  match d.faults call with
  | [] => (none, d)
  | fault :: rest =>
    (fault, { d with faults := fun other => if other = call then rest else d.faults other })

/-- Looks at the descriptors of a device: at the first configuration if the active one cannot
be read. -/
def probe (d : AttachedDevice δ) : Option StorageInterface × AttachedDevice δ :=
  match d.outcome .descriptor with
  | (some _, d) => (none, d)
  | (none, d) =>
    match d.outcome .activeConfiguration with
    | (none, d) => (d.active.storage?, d)
    | (some _, d) =>
      match d.outcome .firstConfiguration with
      | (none, d) => (d.first.storage?, d)
      | (some _, d) => (none, d)

end AttachedDevice

namespace Bus

variable {δ α : Type}

/-- A step of one device. A position without a device gives the answer named for it. -/
def atDevice (position : Nat) (missing : α)
    (step : AttachedDevice δ → α × AttachedDevice δ) : StateM (Bus δ) α := fun b =>
  match b.devices[position]? with
  | none => (missing, b)
  | some d =>
    let (a, d) := step d
    (a, { b with devices := b.devices.set position d })

/-- Adds an event to the trace. -/
def note (event : BusEvent) : StateM (Bus δ) Unit :=
  modify fun b => { b with trace := b.trace.push event }

/-- How the next call of a kind for a device turns out. -/
def outcome (position : Nat) (call : DeviceCall) : StateM (Bus δ) (Option UsbError) :=
  atDevice position (some .noDevice) (AttachedDevice.outcome call)

/-- Makes a call for a device and adds it to the trace. -/
def perform (position : Nat) (call : DeviceCall) (event : Option UsbError → BusEvent) :
    StateM (Bus δ) (Option UsbError) := do
  let fault ← outcome position call
  note (event fault)
  pure (fault.map UsbError.reported)

/-- How the next listing of the devices turns out. -/
def listOutcome : StateM (Bus δ) (Option UsbError) := fun b =>
  (b.listFaults.head?.join.map UsbError.reported, { b with listFaults := b.listFaults.tail })

variable [BulkLink δ]

/-- A call on the link of a device. -/
def onLink {β : Type} (position : Nat) (call : StateM δ (Except UsbError β)) :
    StateM (Bus δ) (Except UsbError β) :=
  atDevice position (.error .noDevice) fun d =>
    let (outcome, link) := call d.link
    (outcome, { d with link })

/-- Sends octets to an endpoint of a device. -/
def send (position : Nat) (endpoint : UInt8) (timeout : UInt32) (data : List UInt8) :
    StateM (Bus δ) (Except UsbError Nat) := do
  let outcome ← onLink position (BulkLink.send data)
  note (.sent position endpoint data timeout outcome)
  pure (outcome.mapError UsbError.reported)

/-- Receives a packet from an endpoint of a device. -/
def receive (position : Nat) (endpoint : UInt8) (timeout : UInt32) (room : Nat) :
    StateM (Bus δ) (Except UsbError (List UInt8)) := do
  let outcome ← onLink position (BulkLink.receive room)
  note (.received position endpoint room timeout (outcome.map List.length))
  pure (outcome.mapError UsbError.reported)

/-- Clears a halt of an endpoint. The device takes part in it, but how the call turns out is up
to the controller alone. -/
def clearHalt (position : Nat) (endpoint : UInt8) : StateM (Bus δ) (Except UsbError Unit) := do
  let _ ← onLink position BulkLink.clearHalt
  match ← perform position .clearHalt (.haltCleared position endpoint) with
  | some e => pure (.error e)
  | none => pure (.ok ())

end Bus

end PlayerLink
