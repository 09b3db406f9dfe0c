import PlayerLink.Proofs.Engine.Answering
import PlayerLink.Simulation.Player

/-!
# The engine over a simulated player

Each stage of an exchange takes at most one packet from the queue of the player and changes
nothing else there. A stage that succeeds says what that packet was: a status that is accepted
looks like one and has the tag that was asked for, and data that are accepted do not look like a
status if they are shorter than the buffer.
-/

namespace PlayerLink

open StatusWrapper

namespace SimulatedPlayer

variable {ρ : Type} [Responder ρ]

/-- A player that waits for nothing answers a command at once, unless data are to follow it. -/
theorem take_wrapper {p : SimulatedPlayer ρ} (idle : p.pending = none) (w : CommandWrapper) :
    p.take w.toOctets =
      if w.direction = .output ∧ w.dataLength ≠ 0 then { p with pending := some w }
      else p.answer w [] := by
  rw [SimulatedPlayer.take, idle]
  simp only [CommandWrapper.ofOctets?_toOctets]

/-- The data that a player waits for complete the command. -/
theorem take_data {p : SimulatedPlayer ρ} (idle : p.pending = none) (w : CommandWrapper)
    (data : List UInt8) :
    ({ p with pending := some w } : SimulatedPlayer ρ).take data = p.answer w data := by
  rw [SimulatedPlayer.take, ← idle]

/-- A player that waits for no data and has packets to be read. -/
def offering (responder : ρ) (incoming : List (List UInt8)) : SimulatedPlayer ρ :=
  { responder := some responder, incoming }

/-- A player with nothing queued and nothing to wait for. -/
def idle (responder : ρ) : SimulatedPlayer ρ := offering responder []

theorem receive_offering (responder : ρ) {room : Nat} {packet : List UInt8}
    (fits : packet.length ≤ room) (rest : List (List UInt8)) :
    BulkLink.receive room (offering responder (packet :: rest)) =
      (.ok packet, offering responder rest) := by
  change (if packet.length ≤ room then Except.ok packet else .error UsbError.overflow, _) = _
  rw [if_pos fits]
  rfl

omit [Responder ρ] in
/-- The packets of a reply with the command's own tag: the data, if there are any, and a status. -/
theorem packets_own (w : CommandWrapper) (sent : List UInt8) {reply : Reply}
    (own : reply.tag = none) :
    ∃ residue, packets w sent reply = (if reply.data.isEmpty then [] else [reply.data]) ++
      [(make w.tag residue reply.status).toOctets] := by
  rw [packets, own, Option.getD_none]
  exact ⟨_, rfl⟩

variable {responder next : ρ} {w : CommandWrapper} {reply : Reply}

/-- An idle player has the packets of its reply to offer after a command, unless data are to
follow it. -/
theorem take_idle (alone : ¬ (w.direction = .output ∧ w.dataLength ≠ 0))
    (respond : Responder.respond w [] responder = (reply, next)) :
    (idle responder).take w.toOctets = offering next (packets w [] reply) := by
  rw [take_wrapper rfl, if_neg alone]
  simp only [answer, idle, offering, respond]
  rfl

/-- It has them after the data, if data were announced. -/
theorem take_take_idle (announced : w.direction = .output ∧ w.dataLength ≠ 0) {data : List UInt8}
    (respond : Responder.respond w data responder = (reply, next)) :
    ((idle responder).take w.toOctets).take data = offering next (packets w data reply) := by
  rw [take_wrapper rfl, if_pos announced, take_data rfl]
  simp only [answer, idle, offering, respond]
  rfl

/-- Octets that are no command pass a player by that does not wait for data. -/
theorem take_offering_of_none {incoming : List (List UInt8)} {data : List UInt8}
    (noCommand : CommandWrapper.ofOctets? data = none) :
    (offering responder incoming).take data = offering responder incoming := by
  rw [SimulatedPlayer.take]
  simp only [offering, noCommand]

/-- An idle player that has data for a command answers it and is idle again. -/
theorem answers_idle {room : Nat} {data : List UInt8} (input : w.direction = .input)
    (respond : Responder.respond w [] responder = ({ data }, next)) (nonempty : data ≠ [])
    (fits : data.length ≤ room) : Answers w room data (idle responder) (idle next) := by
  have own : ({ data } : Reply).tag = none := rfl
  obtain ⟨residue, packets⟩ := packets_own w [] own
  rw [if_neg (by simpa using nonempty), List.singleton_append] at packets
  refine ⟨w.toOctets.length, residue, _, _, ?_, receive_offering next fits _,
    receive_offering next (Nat.le_of_eq (length_toOctets _)) []⟩
  change (Except.ok _, (idle responder).take w.toOctets) = _
  rw [take_idle (by simp [input]) respond, packets]

/-- An idle player takes the data of a command and is idle again. -/
theorem takes_idle {data : List UInt8} (announced : w.direction = .output ∧ w.dataLength ≠ 0)
    (respond : Responder.respond w data responder = ({}, next)) :
    Takes w data (idle responder) (idle next) := by
  have own : ({} : Reply).tag = none := rfl
  have empty : ({} : Reply).data.isEmpty := rfl
  obtain ⟨residue, packets⟩ := packets_own w data own
  rw [if_pos empty, List.nil_append] at packets
  refine ⟨w.toOctets.length, data.length, residue, _, _, rfl, ?_,
    receive_offering next (Nat.le_of_eq (length_toOctets _)) []⟩
  change (Except.ok _, ((idle responder).take w.toOctets).take data) = _
  rw [take_take_idle announced respond, packets]

/-- An idle player without data for a command that expects some declines it. -/
theorem declines_idle {room : Nat} {status : UInt8} (input : w.direction = .input)
    (respond : Responder.respond w [] responder = ({ status }, next))
    (fits : StatusWrapper.size ≤ room) : Declines w room (idle responder) (idle next) := by
  have own : ({ status } : Reply).tag = none := rfl
  have empty : ({ status } : Reply).data.isEmpty := rfl
  obtain ⟨residue, packets⟩ := packets_own w [] own
  rw [if_pos empty, List.nil_append] at packets
  refine ⟨w.toOctets.length, residue, status, _, ?_,
    receive_offering next (by rw [length_toOctets]; exact fits) []⟩
  change (Except.ok _, (idle responder).take w.toOctets) = _
  rw [take_idle (by simp [input]) respond, packets]

end SimulatedPlayer

namespace Engine

variable {ρ : Type}

/-- The engine after the next packet was taken, if there was one. -/
def popped (e : Engine (SimulatedPlayer ρ)) : Engine (SimulatedPlayer ρ) :=
  { e with link := { e.link with incoming := e.link.incoming.tail } }

@[simp] theorem incoming_popped (e : Engine (SimulatedPlayer ρ)) :
    (popped e).link.incoming = e.link.incoming.tail := rfl

variable [Responder ρ]

theorem ends_receive (room : Nat) (e : Engine (SimulatedPlayer ρ)) :
    Ends (onLink (BulkLink.receive room))
      (fun outcome e' => e' = popped e ∧ ∀ packet, outcome = .ok packet →
        e.link.incoming.head? = some packet ∧ packet.length ≤ room) e := by
  obtain ⟨⟨responder, incoming, pending⟩, tag⟩ := e
  cases incoming with
  | nil => exact (gives_onLink _ _).ends ⟨rfl, fun packet h => by cases h⟩
  | cons first rest =>
    refine (gives_onLink _ _).ends ⟨rfl, fun packet h => ?_⟩
    change (if first.length ≤ room then Except.ok first else .error UsbError.overflow) = _ at h
    by_cases fits : first.length ≤ room
    · rw [if_pos fits] at h
      cases h
      exact ⟨rfl, fits⟩
    · rw [if_neg fits] at h
      cases h

/-- Clearing a halt changes nothing for a simulated player. -/
theorem ends_clearHalt (e : Engine (SimulatedPlayer ρ)) :
    Ends clearHalt (fun _ e' => e' = e) e :=
  (gives_onLink _ e).bindEnds (Ends.pure_iff.mpr rfl)

theorem ends_failFraming (cause : FramingError) (e : Engine (SimulatedPlayer ρ)) :
    Ends (failFraming cause) (fun outcome e' => e' = e ∧ outcome = .error (.framing cause)) e := by
  refine Ends.bind_lift (Ends.bind (ends_clearHalt e) ?_)
  rintro _ _ rfl
  exact Ends.pure_iff.mpr ⟨rfl, rfl⟩

theorem ends_pairStatus (tag : UInt32) (packet : List UInt8) (e : Engine (SimulatedPlayer ρ)) :
    Ends (pairStatus tag packet)
      (fun outcome e' => e' = e ∧ ∀ s, outcome = .ok s →
        IsStatus packet ∧ (layout.decode packet).tag = tag ∧ (layout.decode packet).status = s)
      e := by
  have failed (cause : FramingError) :
      Ends (failFraming cause) (fun outcome e' => e' = e ∧ ∀ s, outcome = .ok s →
        IsStatus packet ∧ (layout.decode packet).tag = tag ∧ (layout.decode packet).status = s)
        e := by
    refine (ends_failFraming cause e).mono ?_
    rintro _ _ ⟨same, rfl⟩
    exact ⟨same, fun s h => by cases h⟩
  rw [pairStatus]
  cases read : ofOctets? packet with
  | none => exact failed _
  | some status =>
    by_cases marked : status.IsMarked
    · simp only [not_true_eq_false, marked, if_false]
      by_cases other : status.tag ≠ tag
      · simp only [if_pos other]
        exact failed _
      · simp only [if_neg other]
        have own : status.tag = tag := Decidable.of_not_not other
        obtain ⟨looks, decoded⟩ := isStatus_of_isMarked read marked
        refine Ends.bind_lift (Ends.pure_iff.mpr ⟨rfl, fun s h => ?_⟩)
        cases h
        exact ⟨looks, by rw [decoded, own], by rw [decoded]⟩
    · simp only [if_pos marked]
      exact failed _

theorem ends_collectStatus (tag : UInt32) (e : Engine (SimulatedPlayer ρ)) :
    Ends (collectStatus tag)
      (fun outcome e' => e' = popped e ∧ ∀ s, outcome = .ok s →
        ∃ packet, e.link.incoming.head? = some packet ∧ IsStatus packet ∧
          (layout.decode packet).tag = tag ∧ (layout.decode packet).status = s) e := by
  refine Ends.bind (ends_receive StatusWrapper.size e) ?_
  rintro outcome _ ⟨rfl, taken⟩
  cases outcome with
  | error cause => exact Ends.pure_iff.mpr ⟨rfl, fun s h => by cases h⟩
  | ok packet =>
    refine (ends_pairStatus tag packet (popped e)).mono ?_
    rintro result _ ⟨rfl, paired⟩
    exact ⟨rfl, fun s h => ⟨packet, (taken packet rfl).1, paired s h⟩⟩

theorem ends_statusForData (tag : UInt32) (status : StatusWrapper)
    (e : Engine (SimulatedPlayer ρ)) : Ends (statusForData tag status) (fun _ e' => e' = e) e := by
  rw [statusForData]
  by_cases own : status.tag = tag
  · rw [if_pos own]
    exact Ends.bind_lift (Ends.pure_iff.mpr rfl)
  · rw [if_neg own]
    refine Ends.bind_lift (Ends.bind (ends_clearHalt e) ?_)
    rintro _ _ rfl
    exact Ends.pure_iff.mpr rfl

theorem ends_receiveData (tag : UInt32) (buffer : List UInt8) (e : Engine (SimulatedPlayer ρ)) :
    Ends (receiveData tag buffer)
      (fun moved e' => e' = popped e ∧ (moved.1 = .ok () →
        ∃ packet, e.link.incoming.head? = some packet ∧ packet.length ≤ buffer.length ∧
          (packet.length < buffer.length → ¬ IsStatus packet) ∧
          moved.2 = overlay packet buffer)) e := by
  refine Ends.bind (ends_receive buffer.length e) ?_
  rintro outcome _ ⟨rfl, taken⟩
  cases outcome with
  | error cause => exact Ends.pure_iff.mpr ⟨rfl, fun h => by cases h⟩
  | ok packet =>
    obtain ⟨first, fits⟩ := taken packet rfl
    by_cases short : packet.length < buffer.length
    · simp only [if_pos short]
      by_cases looks : IsStatus packet
      · simp only [if_pos looks]
        refine Ends.bind (ends_statusForData tag _ (popped e)) ?_
        rintro cause _ rfl
        exact Ends.pure_iff.mpr ⟨rfl, fun h => by cases h⟩
      · simp only [if_neg looks]
        refine Ends.bind_lift (Ends.pure_iff.mpr ⟨rfl, fun _ => ?_⟩)
        exact ⟨packet, first, fits, fun _ => looks, rfl⟩
    · simp only [if_neg short]
      exact Ends.pure_iff.mpr ⟨rfl, fun _ => ⟨packet, first, fits, fun h => absurd h short, rfl⟩⟩

/-! ### Sending -/

/-- The engine after the player took octets. -/
def handed (data : List UInt8) (e : Engine (SimulatedPlayer ρ)) : Engine (SimulatedPlayer ρ) :=
  { e with link := e.link.take data }

theorem gives_sendWrapper (w : CommandWrapper) (e : Engine (SimulatedPlayer ρ)) :
    Gives (sendWrapper w) e (.ok ()) (handed w.toOctets e) :=
  gives_sendWrapper_of_ok rfl

theorem gives_moveData_send (tag : UInt32) {data : List UInt8} (some : ¬ data.isEmpty)
    (e : Engine (SimulatedPlayer ρ)) :
    Gives (moveData tag (.send data)) e (.ok (), []) (handed data e) :=
  gives_moveData_of_sent tag some rfl

end Engine

end PlayerLink
