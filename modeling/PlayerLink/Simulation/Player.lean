import PlayerLink.Usb.Link
import PlayerLink.Wrapper.Command
import PlayerLink.Wrapper.Status

/-!
# Simulated players

A simulated player keeps to the bulk-only protocol: each command wrapper sent to it is handed
to a responder, and the data and the status of the reply are queued as packets. A command that
announces data from the host is answered once the data have come, whatever they are. Reads
take the packets in order; one that is larger than the buffer is lost.

What a player answers is up to its responder, which has a state of its own. Without a
responder only the packets that were queued beforehand are there to be read.
-/

namespace PlayerLink

/-- What a simulated player answers to one command. -/
structure Reply where
  /-- Sent before the status; no packet at all if empty. -/
  data : List UInt8 := []
  status : UInt8 := 0
  /-- The tag of the status, the command's own if none is given. -/
  tag : Option UInt32 := none
  deriving DecidableEq, Repr

/-- Something that answers commands. It sees the wrapper and the data that the host sent. -/
class Responder (ρ : Type) where
  respond : CommandWrapper → List UInt8 → StateM ρ Reply

/-- A player that answers by itself. -/
structure SimulatedPlayer (ρ : Type) where
  responder : Option ρ := none
  /-- The packets to be read, next one first. -/
  incoming : List (List UInt8) := []
  /-- A command whose data have not come yet. -/
  pending : Option CommandWrapper := none

namespace SimulatedPlayer

variable {ρ : Type}

/-- Queues one more packet. -/
def queue (packet : List UInt8) (p : SimulatedPlayer ρ) : SimulatedPlayer ρ :=
  { p with incoming := p.incoming ++ [packet] }

/-- The packets that carry a reply to a command. What the status calls residue is what was
announced and not moved. -/
def packets (w : CommandWrapper) (sent : List UInt8) (reply : Reply) : List (List UInt8) :=
  let moved := match w.direction with
    | .output => sent.length
    | .input => reply.data.length
  let status := StatusWrapper.make (reply.tag.getD w.tag)
    (UInt32.ofNat (w.dataLength.toNat - moved)) reply.status
  (if reply.data.isEmpty then [] else [reply.data]) ++ [status.toOctets]

variable [Responder ρ]

/-- Answers a command. -/
def answer (w : CommandWrapper) (sent : List UInt8) (p : SimulatedPlayer ρ) :
    SimulatedPlayer ρ :=
  match p.responder with
  | none => p
  | some responder =>
    let (reply, responder) := Responder.respond w sent responder
    { p with
      responder := some responder
      incoming := p.incoming ++ packets w sent reply }

/-- Takes what the host sent. -/
def take (data : List UInt8) (p : SimulatedPlayer ρ) : SimulatedPlayer ρ :=
  match p.pending with
  | some w => answer w data { p with pending := none }
  | none =>
    match CommandWrapper.ofOctets? data with
    | none => p
    | some w =>
      if w.direction = .output ∧ w.dataLength ≠ 0 then { p with pending := some w }
      else answer w [] p

instance : BulkLink (SimulatedPlayer ρ) where
  send data := fun p => (.ok data.length, p.take data)
  receive room := fun p =>
    match p.incoming with
    | [] => (.error .timeout, p)
    | packet :: rest =>
      (if packet.length ≤ room then .ok packet else .error .overflow,
        { p with incoming := rest })
  clearHalt := fun p => (.ok (), p)

end SimulatedPlayer

end PlayerLink
