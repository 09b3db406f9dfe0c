import PlayerLink.Engine.Error

/-!
# How reading firmware can fail
-/

namespace PlayerLink

open Text

/-- Why firmware could not be read. -/
inductive FirmwareError where
  | readFailed (sector : UInt32) (cause : CommandError)
  | badMagic (found : UInt32)
  | badSystemInfo
  | headerOutOfRange (start : UInt32)
  | entryOutOfRange (name : String) (offset : UInt32)
  | command (cause : CommandError)
  deriving DecidableEq, Repr

namespace FirmwareError

/-- The text of a failure; that of a failed command is passed on. -/
def message : FirmwareError → String
  | readFailed sector _ => s!"reading sector {Numeral.marked 8 sector.toNat} failed"
  | badMagic found =>
    s!"data read is not an Actions firmware header (magic {Numeral.marked 8 found.toNat})"
  | badSystemInfo => "data read is not Actions sysinfo"
  | headerOutOfRange start =>
    s!"header at sector {Numeral.marked 8 start.toNat} runs past the last addressable sector"
  | entryOutOfRange name offset =>
    s!"entry {name} at offset {Numeral.marked 8 offset.toNat} lies past the " ++
      "last addressable sector"
  | command cause => cause.message

/-- The texts of what caused a failure. -/
def causes : FirmwareError → List String
  | readFailed _ cause => cause.message :: cause.causes
  | command cause => cause.causes
  | _ => []

end FirmwareError

end PlayerLink
