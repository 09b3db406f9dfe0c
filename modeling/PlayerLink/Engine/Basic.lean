import PlayerLink.Engine.Error
import PlayerLink.Log
import PlayerLink.Usb.Link
import PlayerLink.Wrapper.Command
import PlayerLink.Wrapper.Status

/-!
# The command engine

The engine exchanges one command at a time with a device: it sends the command in a wrapper,
moves the data if there are any, and collects the status. It owns the counter of tags, which
start at 1, grow by one per command and wrap around. Nothing is ever sent twice.

A status that cannot be paired with the command ends the exchange: the engine clears the halt
of the IN endpoint and reports what it found. So does a status that comes in place of data,
except that one with the right tag needs no clearing.

A buffer handed to an exchange comes back from it in any case, with whatever the device put
into it before the exchange ended.
-/

namespace PlayerLink

open Text

/-- The data stage of a command. -/
inductive DataPhase where
  | none
  /-- From the device into a buffer, as long as what is expected. -/
  | receive (buffer : List UInt8)
  /-- To the device. -/
  | send (data : List UInt8)
  deriving DecidableEq, Repr

namespace DataPhase

def length : DataPhase → Nat
  | none => 0
  | receive buffer => buffer.length
  | send data => data.length

/-- Whether no data move at all. -/
def IsEmpty (p : DataPhase) : Prop := p.length = 0

instance (p : DataPhase) : Decidable p.IsEmpty := inferInstanceAs (Decidable (_ = _))

/-- The direction that the wrapper states. Devices expect IN where no data move. -/
def direction : DataPhase → Direction
  | none | receive _ => .input
  | send _ => .output

/-- The buffer of a phase before anything was received into it. -/
def buffer : DataPhase → List UInt8
  | receive buffer => buffer
  | _ => []

end DataPhase

/-- A buffer after a packet was put at its start. -/
def overlay (packet buffer : List UInt8) : List UInt8 :=
  packet.take buffer.length ++ buffer.drop packet.length

@[simp] theorem length_overlay (packet buffer : List UInt8) :
    (overlay packet buffer).length = buffer.length := by
  simp [overlay]
  omega

/-- A link and the tag of the command sent last, 0 before the first. -/
structure Engine (σ : Type) where
  link : σ
  tag : UInt32 := 0

/-- Steps of an engine over a link with states `σ`. -/
abbrev EngineM (σ : Type) := StateT (Engine σ) LogM

/-- How an exchange ended, and the buffer after it. -/
structure Outcome where
  result : Except ExchangeError UInt8
  buffer : List UInt8

namespace Engine

variable {σ : Type} {α : Type}

/-- A call on the link. -/
def onLink (call : StateM σ α) : EngineM σ α := fun e =>
  let (a, link) := call e.link
  pure (a, { e with link })

/-- Counts the tag up for the next command. -/
def nextTag : EngineM σ UInt32 :=
  modifyGet fun e => (e.tag + 1, { e with tag := e.tag + 1 })

variable [BulkLink σ]

/-- Clears a halt of the IN endpoint; a failure to do so is only logged. -/
def clearHalt : EngineM σ Unit := do
  match ← onLink BulkLink.clearHalt with
  | .ok () => pure ()
  | .error e => LogM.warn s!"Failed to clear halt on in endpoint: {e.message}"

/-- Gives up on a status that cannot be paired with the command. -/
def failFraming (e : FramingError) : EngineM σ (Except ExchangeError UInt8) := do
  LogM.warn s!"CSW framing error: {e.message}"
  clearHalt
  pure (.error (.framing e))

/-- Sends a command on its way. -/
def sendWrapper (w : CommandWrapper) : EngineM σ (Except ExchangeError Unit) := do
  LogM.debug s!"Start command {Numeral.marked 2 w.opcode.toNat} - tag: {w.tag}"
  match ← onLink (BulkLink.send w.toOctets) with
  | .error e => pure (.error (.transport e))
  | .ok taken =>
    if taken ≠ CommandWrapper.size then
      LogM.warn <| "Not all of the CBW transferred at out endpoint, " ++
        s!"{taken} instead of {CommandWrapper.size}"
    pure (.ok ())

/-- Judges a status that came in place of data. -/
def statusForData (tag : UInt32) (status : StatusWrapper) : EngineM σ ExchangeError := do
  if status.tag = tag then
    LogM.warn <| s!"Device returned status {Numeral.marked 2 status.status.toNat} " ++
      s!"in the data phase of tag {tag}"
    pure (.unsolicitedStatus status.status)
  else
    LogM.warn s!"Out of order CSW with tag {status.tag} while waiting for data of tag {tag}"
    clearHalt
    pure (.strayStatus tag status.tag)

/-- Receives data into a buffer that is not empty. -/
def receiveData (tag : UInt32) (buffer : List UInt8) :
    EngineM σ (Except ExchangeError Unit × List UInt8) := do
  match ← onLink (BulkLink.receive buffer.length) with
  | .error e => pure (.error (.transport e), buffer)
  | .ok packet =>
    let filled := overlay packet buffer
    if packet.length < buffer.length then
      if StatusWrapper.IsStatus packet then
        let e ← statusForData tag (StatusWrapper.layout.decode packet)
        pure (.error e, filled)
      else
        LogM.warn <| "Not all data transferred at in endpoint, " ++
          s!"{packet.length} instead of {buffer.length}"
        pure (.ok (), filled)
    else pure (.ok (), filled)

/-- Sends data that are not empty. -/
def sendData (data : List UInt8) : EngineM σ (Except ExchangeError Unit) := do
  match ← onLink (BulkLink.send data) with
  | .error e => pure (.error (.transport e))
  | .ok taken =>
    if taken ≠ data.length then
      LogM.warn <| "Not all data transferred at out endpoint, " ++
        s!"{taken} instead of {data.length}"
    pure (.ok ())

/-- The data stage, with the buffer after it. Nothing is transferred for an empty one. -/
def moveData (tag : UInt32) : DataPhase → EngineM σ (Except ExchangeError Unit × List UInt8)
  | .none => pure (.ok (), [])
  | .receive buffer =>
    if buffer.isEmpty then pure (.ok (), buffer) else receiveData tag buffer
  | .send data =>
    if data.isEmpty then pure (.ok (), [])
    else do pure (← sendData data, [])

/-- Judges a packet received in place of the status: its length first, then its signature,
then its tag. -/
def pairStatus (tag : UInt32) (packet : List UInt8) :
    EngineM σ (Except ExchangeError UInt8) := do
  match StatusWrapper.ofOctets? packet with
  | none => failFraming (.shortStatus packet.length)
  | some status =>
    if ¬ status.IsMarked then failFraming (.badSignature status.signature)
    else if status.tag ≠ tag then failFraming (.tagMismatch tag status.tag)
    else
      let verdict := if status.status = 0 then "OK" else "FAILED"
      LogM.debug s!"CSW status {Numeral.marked 2 status.status.toNat} - {verdict}"
      pure (.ok status.status)

/-- Collects the status of the command with the given tag. -/
def collectStatus (tag : UInt32) : EngineM σ (Except ExchangeError UInt8) := do
  match ← onLink (BulkLink.receive StatusWrapper.size) with
  | .error e => pure (.error (.transport e))
  | .ok packet => pairStatus tag packet

/-- Sends a command, moves its data and collects its status. A status other than 0 is for the
caller to interpret. -/
def execute (block : CommandBlock) (fits : block.Fits) (phase : DataPhase) :
    EngineM σ Outcome := do
  let tag ← nextTag
  let wrapper :=
    CommandWrapper.wrap tag (UInt32.ofNat phase.length) phase.direction block fits
  match ← sendWrapper wrapper with
  | .error e => pure ⟨.error e, phase.buffer⟩
  | .ok () =>
    let (moved, buffer) ← moveData tag phase
    match moved with
    | .error e => pure ⟨.error e, buffer⟩
    | .ok () => pure ⟨← collectStatus tag, buffer⟩

end Engine

end PlayerLink
