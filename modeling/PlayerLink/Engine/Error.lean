import PlayerLink.Text.Numeral
import PlayerLink.Usb.Error

/-!
# How an exchange can fail

An exchange of a command with a device fails in the link, in the framing of its status, or
because a status came where data were due. Each failure knows its text and the texts of what
caused it, nearest first.
-/

namespace PlayerLink

open Text

/-- A status wrapper that cannot be paired with the command just sent. -/
inductive FramingError where
  | shortStatus (length : Nat)
  | badSignature (found : UInt32)
  | tagMismatch (expected found : UInt32)
  deriving DecidableEq, Repr

/-- The text of a framing failure. -/
def FramingError.message : FramingError → String
  | shortStatus length => s!"status wrapper truncated to {length} bytes"
  | badSignature found => s!"bad status signature {Numeral.marked 8 found.toNat}"
  | tagMismatch expected found =>
    s!"status tag {found} does not match command tag {expected}"

/-- A failed exchange. -/
inductive ExchangeError where
  | transport (cause : UsbError)
  /-- The status of some other command came in place of data. -/
  | strayStatus (expected found : UInt32)
  | framing (cause : FramingError)
  /-- The status of this command came in place of data. -/
  | unsolicitedStatus (status : UInt8)
  deriving DecidableEq, Repr

namespace ExchangeError

/-- The text of a failure. -/
def message : ExchangeError → String
  | transport _ => "bulk transfer failed"
  | strayStatus expected found =>
    s!"stray status wrapper (tag {found}) while waiting for data of tag {expected}"
  | framing _ => "protocol framing error"
  | unsolicitedStatus status =>
    s!"device sent status {Numeral.marked 2 status.toNat} instead of data"

/-- The texts of what caused a failure. -/
def causes : ExchangeError → List String
  | transport cause => [cause.message]
  | framing cause => [cause.message]
  | _ => []

/-- Whether the link itself failed rather than the protocol. -/
def IsTransport : ExchangeError → Prop
  | transport _ | strayStatus .. => True
  | _ => False

instance : DecidablePred IsTransport := fun e => by
  unfold IsTransport
  split <;> infer_instance

end ExchangeError

/-- A failed operation on a device. -/
inductive CommandError where
  | exchange (cause : ExchangeError)
  /-- The device says that the command failed. -/
  | deviceStatus (status : UInt8)
  | malformed (reply : String)
  | notCompatible
  | initFailed (response : UInt8)
  deriving DecidableEq, Repr

namespace CommandError

/-- The text of a failure; that of a failed exchange is passed on. -/
def message : CommandError → String
  | exchange cause => cause.message
  | deviceStatus status =>
    s!"device reported failure status {Numeral.marked 2 status.toNat}"
  | malformed reply => s!"malformed {reply} response"
  | notCompatible => "not a compatible device"
  | initFailed response =>
    s!"unable to init firmware mode (response {Numeral.marked 2 response.toNat})"

/-- The texts of what caused a failure. -/
def causes : CommandError → List String
  | exchange cause => cause.causes
  | _ => []

end CommandError

end PlayerLink
