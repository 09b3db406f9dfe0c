import PlayerLink.Program.Dump
import PlayerLink.SystemInfo

/-!
# Work on the memory of a player

Dumping the memory of a player that allows it, showing its system information, and making it
go on at an entry point.
-/

namespace PlayerLink

open Text RunM

variable {δ : Type} [BulkLink δ]

/-- Dumps sectors of the memory. -/
def dumpMemory (service : ServiceTarget) (first count : UInt32) (path : String) :
    ProgramM δ Unit :=
  withServiceMode service do
    let allowed ← require SystemInfo.allowsMemoryReads
      fun e => .during .probeMemory (.firmware e)
    if ¬ allowed then throw .memoryClosed
    else
      LogM.info <| s!"Dumping {count} RAM sectors from {Numeral.marked 0 first.toNat} to " ++
        Quoted.text path
      dumpSectors path first count fun sector buffer => Engine.readMemory sector buffer

/-- Rows of sixteen octets with the place of the first. -/
def hexRows : Nat → Nat → List UInt8 → List String
  | 0, _, _ => []
  | count + 1, place, bs =>
    let row := String.intercalate " " ((bs.take 16).map fun b => Numeral.hex 2 b.toNat)
    s!"    {Numeral.hex 4 place}: {row}" ::
      hexRows count (place + 16) (bs.drop 16)

/-- A frame under its title. -/
def frameLines (title : String) (f : ScanFrame) : List String :=
  s!"{title} ({f.kindText})" :: hexRows 6 0 f.data.toList

/-- Shows the system information of a player and whether its memory can be read. -/
def showSystemInfo (service : ServiceTarget) : ProgramM δ Unit :=
  withServiceMode service do
    let info ← require SystemInfo.read fun e => .during .readSystemInfo (.firmware e)
    say s!"\n{info.magicText}\n"
    sayAll (frameLines "Hardware scan" info.hardware)
    sayAll (frameLines "Firmware scan" info.firmware)
    let allowed ← require SystemInfo.allowsMemoryReads .firmware
    let answer := if allowed then "supported" else "not supported"
    say s!"\nGeneral RAM access: {answer}"

/-- Makes a player go on at an entry point, which must fit 16 bits. -/
def enterAt (service : ServiceTarget) (address : UInt32) : ProgramM δ Unit := do
  if address.toNat > 0xFFFF then throw (.parameterTooWide address)
  else
    let parameter := UInt16.ofNat address.toNat
    withServiceMode service do
      require (Engine.enter parameter) fun e => .during (.enter parameter) (.command e)
      say s!"ENTRY {Numeral.marked 4 parameter.toNat} OK"

end PlayerLink
