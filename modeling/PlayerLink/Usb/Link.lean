import PlayerLink.Usb.Error

/-!
# Bulk links

All that the command engine needs of a device is a pair of bulk endpoints: octets can be
sent to the OUT endpoint, a packet can be received from the IN endpoint, and a halt of the
IN endpoint can be cleared. `BulkLink` is this interface. Its instances are claimed USB
devices and simulated players; nothing is assumed of how they behave.

`Recorded` adds to any link the list of calls made on it and of what each one gave.
-/

namespace PlayerLink

/-- A pair of bulk endpoints with a state of its own. -/
class BulkLink (σ : Type) where
  /-- Sends octets to the OUT endpoint and tells how many of them were taken. -/
  send : List UInt8 → StateM σ (Except UsbError Nat)
  /-- Receives one packet from the IN endpoint into a buffer of the given length. -/
  receive : Nat → StateM σ (Except UsbError (List UInt8))
  /-- Clears a halt of the IN endpoint. -/
  clearHalt : StateM σ (Except UsbError Unit)

/-- One call on a link and its outcome. -/
inductive LinkCall where
  | send (data : List UInt8) (outcome : Except UsbError Nat)
  | receive (room : Nat) (outcome : Except UsbError (List UInt8))
  | clearHalt (outcome : Except UsbError Unit)

namespace LinkCall

/-- The octets that the host sent with a call, if it was a send. -/
def sent? : LinkCall → Option (List UInt8)
  | send data _ => some data
  | _ => none

/-- Whether a call cleared a halt, or tried to. -/
def isClearHalt : LinkCall → Bool
  | clearHalt _ => true
  | _ => false

end LinkCall

/-- A link together with the calls made on it, oldest first. -/
structure Recorded (σ : Type) where
  link : σ
  calls : Array LinkCall := #[]

namespace Recorded

variable {σ : Type}

/-- Performs a call and notes it down. -/
def noting {α : Type} (step : StateM σ α) (note : α → LinkCall) : StateM (Recorded σ) α :=
  fun r =>
    let (outcome, link) := step r.link
    (outcome, { link, calls := r.calls.push (note outcome) })

instance [BulkLink σ] : BulkLink (Recorded σ) where
  send data := noting (BulkLink.send data) (.send data)
  receive room := noting (BulkLink.receive room) (.receive room)
  clearHalt := noting BulkLink.clearHalt .clearHalt

/-- Everything that was sent, oldest first. -/
def sent (r : Recorded σ) : List (List UInt8) := r.calls.toList.filterMap LinkCall.sent?

end Recorded

end PlayerLink
