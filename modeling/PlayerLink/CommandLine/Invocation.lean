import PlayerLink.Command
import PlayerLink.CommandLine.Value
import PlayerLink.Firmware.Reading

/-!
# Invocations

What a command line asks for. `Settings` holds the options that were given, each at most once;
`Subcommand.invocation` makes an invocation of them with the defaults for those that were not,
or finds that one is missing.
-/

namespace PlayerLink

/-- Which device to talk to. -/
structure Target where
  device : DeviceId
  lun : UInt8
  deriving DecidableEq, Repr

/-- A device that is to enter service mode, and whether to detach it when done. -/
structure ServiceTarget where
  target : Target
  detach : Bool
  deriving DecidableEq, Repr

/-- Which copy of the firmware header to work with. -/
structure HeaderChoice where
  /-- The second copy rather than the one at sector 0. -/
  alternate : Bool
  /-- The second copy is looked for below this sector. -/
  limit : UInt32
  deriving DecidableEq, Repr

/-- What is to be done. -/
inductive Invocation where
  | enumerate
  | inquiry (target : Target)
  | capacity (target : Target)
  | headerInfo (service : ServiceTarget) (showDirectory : Bool) (header : HeaderChoice)
  | read (target : Target) (first count : UInt32) (file : String)
  | write (target : Target) (first : UInt32) (file : String)
  | readFlash (service : ServiceTarget) (area : FlashArea) (first count : UInt32)
      (file : String)
  | readMemory (service : ServiceTarget) (first count : UInt32) (file : String)
  | systemInfo (service : ServiceTarget)
  | dumpImage (service : ServiceTarget) (header : HeaderChoice) (file : String)
  | dumpContainer (service : ServiceTarget) (header : HeaderChoice) (file : String)
  | enter (service : ServiceTarget) (address : UInt32)
  deriving DecidableEq, Repr

/-- The subcommands of the program. -/
inductive Subcommand where
  | enumerate | inquiry | capacity | headerInfo | read | write | readFlash | readMemory
  | systemInfo | dumpImage | dumpContainer | enter
  deriving DecidableEq, Repr

/-- The options of the program. -/
inductive CliOption where
  | verbose | device | lun | detach | alternate | limit | showDirectory | physical | address
  | count | file | sector | entryAddress
  deriving DecidableEq, Repr

namespace CliOption

/-- The name of an option after two dashes. -/
def long : CliOption → String
  | verbose => "verbose"
  | device => "device"
  | lun => "lun"
  | detach => "detach"
  | alternate => "alternate"
  | limit => "max-lba"
  | showDirectory => "show-dir"
  | physical => "physical"
  | address => "lba"
  | count => "count"
  | file => "file"
  | sector => "sector"
  | entryAddress => "address"

/-- The letter of an option after one dash. -/
def short : CliOption → Option Char
  | verbose => some 'v'
  | device => some 'd'
  | lun => some 'l'
  | count => some 'n'
  | file => some 'f'
  | _ => none

/-- Whether an option takes a value. -/
def takesValue : CliOption → Bool
  | verbose | detach | alternate | showDirectory | physical => false
  | _ => true

end CliOption

namespace Subcommand

/-- The name of a subcommand. -/
def name : Subcommand → String
  | enumerate => "enumerate"
  | inquiry => "inquiry"
  | capacity => "capacity"
  | headerInfo => "header-info"
  | read => "read"
  | write => "write"
  | readFlash => "read-fw"
  | readMemory => "read-ram"
  | systemInfo => "sysinfo"
  | dumpImage => "dump-fw"
  | dumpContainer => "dump-afi"
  | enter => "entry"

/-- Every subcommand. -/
def all : List Subcommand :=
  [enumerate, inquiry, capacity, headerInfo, read, write, readFlash, readMemory, systemInfo,
    dumpImage, dumpContainer, enter]

/-- The options of a subcommand. -/
def options : Subcommand → List CliOption
  | enumerate => [.verbose]
  | inquiry | capacity => [.verbose, .device, .lun]
  | headerInfo => [.verbose, .device, .lun, .detach, .showDirectory, .alternate, .limit]
  | read => [.verbose, .device, .lun, .address, .count, .file]
  | write => [.verbose, .device, .lun, .address, .file]
  | readFlash => [.verbose, .device, .lun, .detach, .physical, .address, .count, .file]
  | readMemory => [.verbose, .device, .lun, .detach, .sector, .count, .file]
  | systemInfo => [.verbose, .device, .lun, .detach]
  | dumpImage | dumpContainer =>
    [.verbose, .device, .lun, .detach, .alternate, .limit, .file]
  | enter => [.verbose, .device, .lun, .detach, .entryAddress]

end Subcommand

/-- The options that were given, with their values. -/
structure Settings where
  verbose : Bool := false
  device : Option DeviceId := none
  lun : Option UInt8 := none
  detach : Bool := false
  alternate : Bool := false
  limit : Option UInt32 := none
  showDirectory : Bool := false
  physical : Bool := false
  address : Option UInt32 := none
  count : Option UInt32 := none
  file : Option String := none
  sector : Option UInt32 := none
  entryAddress : Option UInt32 := none
  deriving DecidableEq, Repr

namespace Settings

/-- A logical unit is a whole number from 0 to 7. -/
def readLun (s : String) : Option UInt8 :=
  ((Text.Numeral.readSigned s.toList).filter fun n => 0 ≤ n ∧ n ≤ 7).map
    fun n => UInt8.ofNat n.toNat

/-- A file name is not empty. -/
def readPath (s : String) : Option String := if s.isEmpty then none else some s

/-- The value of an option that must not have been given before. -/
def fresh {α : Type} (before : Option α) (read : Option α) : Option α :=
  if before.isSome then none else read

/-- Sets a flag that must not have been set before. -/
def once (before : Bool) (s : Settings) : Option Settings := if before then none else some s

/-- Takes one option with its value, which flags do not look at. An option that was given before
or a value that cannot be read is refused. -/
def take (s : Settings) (value : String) : CliOption → Option Settings
  | .verbose => once s.verbose { s with verbose := true }
  | .detach => once s.detach { s with detach := true }
  | .alternate => once s.alternate { s with alternate := true }
  | .showDirectory => once s.showDirectory { s with showDirectory := true }
  | .physical => once s.physical { s with physical := true }
  | .device => (fresh s.device (DeviceId.read value).toOption).map ({ s with device := some · })
  | .lun => (fresh s.lun (readLun value)).map ({ s with lun := some · })
  | .limit => (fresh s.limit (readNumber value).toOption).map ({ s with limit := some · })
  | .address => (fresh s.address (readNumber value).toOption).map ({ s with address := some · })
  | .count => (fresh s.count (readNumber value).toOption).map ({ s with count := some · })
  | .sector => (fresh s.sector (readNumber value).toOption).map ({ s with sector := some · })
  | .entryAddress =>
    (fresh s.entryAddress (readNumber value).toOption).map ({ s with entryAddress := some · })
  | .file => (fresh s.file (readPath value)).map ({ s with file := some · })

/-- The device asked for. -/
def target (s : Settings) : Option Target := do
  pure { device := ← s.device, lun := s.lun.getD 0 }

/-- The device asked for and what to do with it in the end. -/
def service (s : Settings) : Option ServiceTarget := do
  pure { target := ← s.target, detach := s.detach }

/-- The copy of the header asked for. -/
def header (s : Settings) : HeaderChoice where
  alternate := s.alternate
  limit := s.limit.getD Firmware.defaultSearchLimit

/-- The view of the flash memory asked for. -/
def area (s : Settings) : FlashArea := if s.physical then .physical else .logical

end Settings

/-- The invocation that a subcommand and its options make, unless one is missing. -/
def Subcommand.invocation (s : Settings) : Subcommand → Option Invocation
  | .enumerate => some .enumerate
  | .inquiry => do pure (.inquiry (← s.target))
  | .capacity => do pure (.capacity (← s.target))
  | .headerInfo => do pure (.headerInfo (← s.service) s.showDirectory s.header)
  | .read => do pure (.read (← s.target) (s.address.getD 0) (s.count.getD 1) (← s.file))
  | .write => do pure (.write (← s.target) (← s.address) (← s.file))
  | .readFlash => do
    pure (.readFlash (← s.service) s.area (s.address.getD 0) (s.count.getD 1) (← s.file))
  | .readMemory => do
    pure (.readMemory (← s.service) (s.sector.getD 0) (s.count.getD 1) (← s.file))
  | .systemInfo => do pure (.systemInfo (← s.service))
  | .dumpImage => do pure (.dumpImage (← s.service) s.header (← s.file))
  | .dumpContainer => do pure (.dumpContainer (← s.service) s.header (← s.file))
  | .enter => do pure (.enter (← s.service) (← s.entryAddress))

end PlayerLink
