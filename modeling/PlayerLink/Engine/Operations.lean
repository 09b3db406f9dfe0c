import PlayerLink.Command
import PlayerLink.Engine.Basic
import PlayerLink.Reply
import PlayerLink.Text.Quoted

/-!
# Operations on a device

Each command of `Command` as one operation: what it sends, what it makes of the answer, and
what it takes for a failure. Reads of a sector or of memory work on a buffer of the caller's,
which comes back whether they fail or not.
-/

namespace PlayerLink

open Text

/-- A read into a buffer: whether it succeeded, and the buffer after it. -/
structure Filled where
  result : Except CommandError Unit
  buffer : List UInt8

namespace Engine

variable {σ : Type} [BulkLink σ]

/-- Only status 0 is a success. -/
def checkStatus : Except ExchangeError UInt8 → Except CommandError Unit
  | .error e => .error (.exchange e)
  | .ok status => if status = 0 then .ok () else .error (.deviceStatus status)

/-- Exchanges a command. -/
def run (c : Command) (phase : DataPhase) : EngineM σ Outcome :=
  execute c.block c.block_fits phase

/-- Reads into a buffer. -/
def fill (c : Command) (buffer : List UInt8) : EngineM σ Filled := do
  let outcome ← run c (.receive buffer)
  pure ⟨checkStatus outcome.result, outcome.buffer⟩

/-- Exchanges a command that gives nothing back. -/
def perform (c : Command) (phase : DataPhase) : EngineM σ (Except CommandError Unit) := do
  pure (checkStatus (← run c phase).result)

/-- Reads an answer of fixed length and interprets it. -/
def query {α : Type} (c : Command) (size : Nat) (name : String)
    (interpret : List UInt8 → Option α) : EngineM σ (Except CommandError α) := do
  let filled ← fill c (List.replicate size 0)
  pure <| filled.result.bind fun () =>
    match interpret filled.buffer with
    | some a => .ok a
    | none => .error (.malformed name)

/-- Asks a device what it is. -/
def inquiry (lun : UInt8) : EngineM σ (Except CommandError Inquiry) :=
  query (.inquiry lun (UInt8.ofNat Inquiry.size)) Inquiry.size "INQUIRY" Inquiry.ofOctets?

/-- Asks a device for the size of its medium. -/
def readCapacity (lun : UInt8) : EngineM σ (Except CommandError Capacity) :=
  query (.capacity lun) Capacity.size "READ CAPACITY" Capacity.ofOctets?

/-- Reads one sector of the medium. -/
def readSector (lun : UInt8) (address : UInt32) (buffer : List UInt8) : EngineM σ Filled :=
  fill (.read lun address) buffer

/-- Writes one sector of the medium. -/
def writeSector (lun : UInt8) (address : UInt32) (data : List UInt8) :
    EngineM σ (Except CommandError Unit) :=
  perform (.write lun address) (.send data)

/-- Makes sure that a device is a compatible player. No other vendor command may be sent to a
device that has not passed this. -/
def identify : EngineM σ (Except CommandError Identity) := do
  let outcome ← run .identify (.receive (List.replicate Identity.size 0))
  match outcome.result with
  | .error e => pure (.error (.exchange e))
  | .ok status =>
    if status ≠ 0 then
      LogM.debug s!"IDENTIFY failed with status {Numeral.marked 2 status.toNat}"
      pure (.error .notCompatible)
    else
      match Identity.ofOctets? outcome.buffer with
      | none => pure (.error (.malformed "IDENTIFY"))
      | some identity =>
        if identity.IsCompatible then
          LogM.debug <| s!"Gathered ID: {identity.nameText} " ++
            s!"{Numeral.marked 2 identity.updateMode.toNat} " ++
            s!"{Numeral.marked 2 identity.unknown.toNat}"
          pure (.ok identity)
        else
          LogM.debug s!"Actions identifier does not match: {Quoted.text identity.nameText}"
          pure (.error .notCompatible)

/-- What a player answers when it has entered service mode. -/
def ready : UInt8 := 0xFF

/-- Switches a player into service mode. -/
def initialise : EngineM σ (Except CommandError Unit) := do
  let filled ← fill .initialise [0]
  pure <| filled.result.bind fun () =>
    let response := filled.buffer.headD 0
    if response = ready then .ok () else .error (.initFailed response)

/-- Reads one sector of the flash memory. -/
def readFlash (lun : UInt8) (address : UInt32) (area : FlashArea) (buffer : List UInt8) :
    EngineM σ Filled :=
  fill (.readSector lun address area) buffer

/-- Reads as much of the memory as the buffer holds, from the start of a sector on. -/
def readMemory (sector : UInt32) (buffer : List UInt8) : EngineM σ Filled :=
  fill (.readMemory sector (UInt32.ofNat buffer.length)) buffer

/-- Makes a player leave service mode and start again. -/
def detach : EngineM σ (Except CommandError Unit) := perform .detach .none

/-- Makes a player go on at an entry point. -/
def enter (parameter : UInt16) : EngineM σ (Except CommandError Unit) :=
  perform (.enter parameter) .none

/-- Detaches at the end of a session: a failure is only logged and told. -/
def detachQuietly : EngineM σ Bool := do
  match ← detach with
  | .ok () => pure true
  | .error e =>
    LogM.warn s!"Detaching device failed: {e.message}"
    pure false

end Engine

end PlayerLink
