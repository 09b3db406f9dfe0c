/-!
# What can go wrong on the bus

The faults that a host controller reports for a call, with their texts and their codes.
-/

namespace PlayerLink

/-- A fault reported by the host controller. -/
inductive UsbError where
  | io | invalidParam | access | noDevice | notFound | busy | timeout | overflow | pipe
  | interrupted | noMem | notSupported | badDescriptor | other
  deriving DecidableEq, Repr

namespace UsbError

/-- The text of a fault. -/
def message : UsbError → String
  | io => "Input/Output Error"
  | invalidParam => "Invalid parameter"
  | access => "Access denied (insufficient permissions)"
  | noDevice => "No such device (it may have been disconnected)"
  | notFound => "Entity not found"
  | busy => "Resource busy"
  | timeout => "Operation timed out"
  | overflow => "Overflow"
  | pipe => "Pipe error"
  | interrupted => "System call interrupted (perhaps due to signal)"
  | noMem => "Insufficient memory"
  | notSupported => "Operation not supported or unimplemented on this platform"
  | badDescriptor => "Malformed descriptor"
  | other => "Other error"

/-- The code that stands for a fault in the controller's own records. -/
def code : UsbError → Int
  | io => -1
  | invalidParam => -2
  | access => -3
  | noDevice => -4
  | notFound => -5
  | busy => -6
  | timeout => -7
  | overflow => -8
  | pipe => -9
  | interrupted => -10
  | noMem => -11
  | notSupported => -12
  | badDescriptor => -13
  | other => -99

/-- The fault that a caller sees. A malformed descriptor is found by the caller itself, never
reported by the controller, so its code reads as an unknown one. -/
def reported : UsbError → UsbError
  | badDescriptor => other
  | e => e

end UsbError

end PlayerLink
