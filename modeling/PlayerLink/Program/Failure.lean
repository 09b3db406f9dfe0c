import PlayerLink.CommandLine.Value
import PlayerLink.Container.Header
import PlayerLink.Firmware.Error
import PlayerLink.SectorRange
import PlayerLink.Storage
import PlayerLink.Text.Quoted

/-!
# How a run can fail

A run fails for a reason of its own or because of something beneath it, and a failure beneath
may be told with the task that it put an end to. `Failure.chain` has the texts, the outermost
first.
-/

namespace PlayerLink

open Text

/-- A task that a failure put an end to. -/
inductive Task where
  | openDevice (device : DeviceId)
  | claim
  | identify
  | initialise
  | search
  | readSector (sector : UInt32)
  | writeSector (sector : UInt32)
  | readEntry (name : String)
  | probeMemory
  | readSystemInfo
  | enter (parameter : UInt16)
  | inquiry
  | capacity
  | createFile (path : String)
  | openFile (path : String)
  deriving DecidableEq, Repr

/-- The text of a task that failed. -/
def Task.message : Task → String
  | openDevice device => s!"Cannot open device {device.text}"
  | claim => "Cannot claim USB interface"
  | identify => "Cannot identify Actions device"
  | initialise => "Unable to init firmware mode"
  | search => "Searching alternate header failed"
  | readSector sector => s!"Reading sector {Numeral.marked 8 sector.toNat}"
  | writeSector sector => s!"Writing sector {Numeral.marked 8 sector.toNat}"
  | readEntry name => s!"Reading {name}"
  | probeMemory => "Reading RAM at sector 0 failed"
  | readSystemInfo => "Reading sysinfo failed"
  | enter parameter => s!"ENTRY {Numeral.marked 4 parameter.toNat} failed"
  | inquiry => "Inquiry command failed"
  | capacity => "Read capacity command failed"
  | createFile path => s!"Cannot create {Quoted.text path}"
  | openFile path => s!"Cannot open {Quoted.text path}"

/-- Why a run failed. -/
inductive Failure where
  | storage (cause : StorageError)
  | command (cause : CommandError)
  | firmware (cause : FirmwareError)
  | container (cause : ContainerError)
  | file (cause : FileError)
  | range (cause : SectorRangeError)
  | alternateMissing
  | directoryEmpty
  | memoryClosed
  | parameterTooWide (address : UInt32)
  | inputEmpty (path : String)
  | inputTooLarge (path : String)
  | during (task : Task) (cause : Failure)
  deriving DecidableEq, Repr

/-- The text of a failure itself. -/
def Failure.message : Failure → String
  | storage cause => cause.message
  | command cause => cause.message
  | firmware cause => cause.message
  | container cause => cause.message
  | file cause => cause.message
  | range cause => cause.message
  | alternateMissing => "Alternate header not found"
  | directoryEmpty => "Firmware directory is empty"
  | memoryClosed => "Device does not allow general RAM access"
  | parameterTooWide address =>
    s!"Entry parameter {Numeral.marked 0 address.toNat} does not fit 16 bits"
  | inputEmpty path => s!"{Quoted.text path} is empty"
  | inputTooLarge path => s!"{Quoted.text path} is too large"
  | during task _ => task.message

/-- The texts of what caused a failure. -/
def Failure.causes : Failure → List String
  | storage cause => cause.causes
  | command cause => cause.causes
  | firmware cause => cause.causes
  | container cause => cause.causes
  | during _ cause => cause.message :: cause.causes
  | _ => []

/-- The texts of a failure, the outermost first. -/
def Failure.chain (failure : Failure) : List String := failure.message :: failure.causes

end PlayerLink
