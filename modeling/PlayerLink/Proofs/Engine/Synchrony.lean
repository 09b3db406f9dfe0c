import PlayerLink.Proofs.Engine.Pairing
import PlayerLink.Proofs.Engine.Transcript

/-!
# A cooperative player never loses step

A player whose replies fit the commands leaves nothing in its queue: what it sent for one command is
taken before the next goes out. So for a run of any length the status that an exchange gives is
the one that was sent for it, and no halt has to be cleared. No tag is ever compared with one from
before, so it does not matter that tags wrap around.

A reply without data to a command that expects some fits if the status cannot be taken for data:
the exchange then ends with this status.
-/

namespace PlayerLink

open StatusWrapper

/-- A responder that keeps what it was asked: each command, and the data that came with it. -/
structure Attentive (ρ : Type) where
  responder : ρ
  heard : List (CommandWrapper × List UInt8) := []

instance {ρ : Type} [Responder ρ] : Responder (Attentive ρ) where
  respond w sent := fun a =>
    let (reply, responder) := Responder.respond w sent a.responder
    (reply, { responder, heard := a.heard ++ [(w, sent)] })

/-- The data that a player takes for those of a command. It waits for them unless their number is 0
in the wrapper, which has 32 bits for it. -/
def Exchange.heard (x : Exchange) : List UInt8 :=
  if UInt32.ofNat x.phase.length = 0 then [] else x.sent

theorem Exchange.heard_eq_nil {x : Exchange} (nothing : x.sent = []) : x.heard = [] := by
  rw [heard, nothing]
  exact ite_self _

theorem DataPhase.buffer_eq_nil {p : DataPhase} (empty : p.length = 0) : p.buffer = [] := by
  cases p with
  | receive buffer => exact List.length_eq_zero_iff.mp empty
  | _ => rfl

theorem Exchange.sent_eq_nil {x : Exchange} (empty : x.phase.length = 0) : x.sent = [] := by
  rw [sent]
  cases phase : x.phase with
  | send data =>
    rw [phase] at empty
    exact List.length_eq_zero_iff.mp empty
  | _ => rfl

/-- The player hears all that is sent, unless it is a multiple of what 32 bits can count. -/
theorem Exchange.heard_eq_sent {x : Exchange}
    (counted : UInt32.size ∣ x.sent.length → x.sent = []) : x.heard = x.sent := by
  by_cases nothing : x.sent = []
  · rw [heard_eq_nil nothing, nothing]
  · rw [heard, if_neg]
    intro zero
    have multiple : UInt32.size ∣ x.phase.length := by
      apply Nat.dvd_of_mod_eq_zero
      rw [← UInt32.toNat_ofNat', zero]
      rfl
    cases phase : x.phase with
    | none => exact nothing (by rw [sent, phase])
    | receive buffer => exact nothing (by rw [sent, phase])
    | send data =>
      have sent : x.sent = data := by rw [Exchange.sent, phase]
      rw [phase, DataPhase.length, ← sent] at multiple
      exact nothing (counted multiple)

/-- One exchange of a run, with the tag it has and the reply it gets. -/
structure Turn where
  exchange : Exchange
  tag : UInt32
  reply : Reply

/-- The turns of exchanges that follow a number of others. -/
def Exchange.turns {ρ : Type} [Responder ρ] : Nat → List Exchange → ρ → List Turn
  | _, [], _ => []
  | count, x :: rest, responder =>
    let tag := UInt32.ofNat (count + 1)
    let (reply, responder) := Responder.respond (x.wrapper tag) x.heard responder
    ⟨x, tag, reply⟩ :: turns (count + 1) rest responder

namespace Turn

def wrapper (t : Turn) : CommandWrapper := t.exchange.wrapper t.tag

/-- What the responder is asked. -/
def asked (t : Turn) : CommandWrapper × List UInt8 := (t.wrapper, t.exchange.heard)

/-- What the host sends: the wrapper, and the data if there are any. -/
def sends (t : Turn) : List (List UInt8) :=
  t.wrapper.toOctets :: if t.exchange.sent = [] then [] else [t.exchange.sent]

/-- How many octets the host takes. -/
def room (t : Turn) : Nat := t.exchange.phase.buffer.length

/-- A reply that fits its command: data that there is room for and that cannot be taken for a
status, or none, and then the status cannot be taken for data. -/
structure Cooperative (t : Turn) : Prop where
  own : t.reply.tag = none
  fits : t.reply.data.length ≤ t.room
  plain : StatusWrapper.size < t.room → ¬ IsStatus t.reply.data
  told : t.reply.data = [] → t.room = 0 ∨ StatusWrapper.size < t.room

instance (t : Turn) : Decidable t.Cooperative :=
  decidable_of_iff
    (t.reply.tag = none ∧ t.reply.data.length ≤ t.room ∧
      (StatusWrapper.size < t.room → ¬ IsStatus t.reply.data) ∧
      (t.reply.data = [] → t.room = 0 ∨ StatusWrapper.size < t.room))
    ⟨fun ⟨own, fits, plain, told⟩ => ⟨own, fits, plain, told⟩,
      fun h => ⟨h.own, h.fits, h.plain, h.told⟩⟩

/-- What a turn comes to: the status and the data of its reply, or that status as an error if data
were expected and none came. -/
structure Settled (t : Turn) (outcome : Outcome) : Prop where
  answered : t.reply.data ≠ [] ∨ t.room = 0 → outcome.result = .ok t.reply.status ∧
    outcome.buffer = t.reply.data ++ t.exchange.phase.buffer.drop t.reply.data.length
  unsolicited : t.reply.data = [] → t.room ≠ 0 →
    outcome.result = .error (.unsolicitedStatus t.reply.status)

end Turn

/-- An engine and the record of its link after one more turn, from those before it. -/
structure Turn.Advances {ρ : Type} (t : Turn) (next : ρ)
    (e e' : Engine (Recorded (SimulatedPlayer ρ))) : Prop where
  tag : e'.tag = t.tag
  link : e'.link.link = .idle next
  sent : LinkCall.sends e'.link.calls.toList = LinkCall.sends e.link.calls.toList ++ t.sends
  noHalt : (∀ outcome, .clearHalt outcome ∉ e.link.calls.toList) →
    ∀ outcome, .clearHalt outcome ∉ e'.link.calls.toList

theorem Turn.room_of_receive {x : Exchange} (tag : UInt32) (reply : Reply) {buffer : List UInt8}
    (phase : x.phase = .receive buffer) :
    (⟨x, tag, reply⟩ : Turn).room = buffer.length := by
  rw [Turn.room, phase]
  rfl

/-- A turn that was taken as it should be. -/
def Turn.Passes {ρ : Type} (t : Turn) (next : ρ) (e : Engine (Recorded (SimulatedPlayer ρ)))
    (outcome : Outcome) (e' : Engine (Recorded (SimulatedPlayer ρ))) : Prop :=
  t.Settled outcome ∧ t.Advances next e e'

/-- Where there is no room, a reply that fits has no data. -/
theorem Turn.Cooperative.data_eq_nil {t : Turn} (fits : t.Cooperative) (room : t.room = 0) :
    t.reply.data = [] := by
  have le := fits.fits
  rw [room] at le
  exact List.length_eq_zero_iff.mp (Nat.le_zero.mp le)

namespace Engine

open SimulatedPlayer

variable {ρ : Type} [Responder ρ] {responder next : ρ}

/-- A player as a recorded link. -/
def recording (p : SimulatedPlayer ρ) (calls : Array LinkCall) :
    Recorded (SimulatedPlayer ρ) :=
  { link := p, calls }

theorem send_recording (p : SimulatedPlayer ρ) (calls : Array LinkCall) (data : List UInt8) :
    BulkLink.send data (recording p calls) =
      (.ok data.length, recording (p.take data) (calls.push (.send data (.ok data.length)))) :=
  rfl

theorem receive_recording (calls : Array LinkCall) {room : Nat} {packet : List UInt8}
    (fits : packet.length ≤ room) (rest : List (List UInt8)) :
    BulkLink.receive room (recording (offering responder (packet :: rest)) calls) =
      (.ok packet,
        recording (offering responder rest) (calls.push (.receive room (.ok packet)))) := by
  change Recorded.noting (BulkLink.receive room) (.receive room) _ = _
  rw [Recorded.noting, recording, receive_offering responder fits rest]
  rfl

variable {x : Exchange} {tag : UInt32} {reply : Reply} {calls : Array LinkCall}

/-- The player has its reply ready after a command that no data follow. -/
theorem send_alone {w : CommandWrapper} (calls : Array LinkCall)
    (alone : ¬ (w.direction = .output ∧ w.dataLength ≠ 0))
    (respond : Responder.respond w [] responder = (reply, next)) :
    BulkLink.send w.toOctets (recording (idle responder) calls) =
      (.ok w.toOctets.length, recording (offering next (packets w [] reply))
        (calls.push (.send w.toOctets (.ok w.toOctets.length)))) := by
  rw [send_recording, take_idle alone respond]

/-- The status is the last packet of a reply. -/
theorem receive_status (calls : Array LinkCall) (tag residue : UInt32) (status : UInt8) :
    BulkLink.receive StatusWrapper.size
        (recording (offering next [(make tag residue status).toOctets]) calls) =
      (.ok (make tag residue status).toOctets, recording (idle next)
        (calls.push (.receive StatusWrapper.size (.ok (make tag residue status).toOctets)))) :=
  receive_recording calls (Nat.le_of_eq (length_toOctets _)) []

section Turns

variable (fits : (⟨x, tag + 1, reply⟩ : Turn).Cooperative)
include fits

/-- A turn without data either way. -/
theorem ends_turn_without_data (empty : x.phase.length = 0)
    (respond : Responder.respond (x.wrapper (tag + 1)) x.heard responder = (reply, next)) :
    Ends (execute x.block x.fits x.phase)
      ((⟨x, tag + 1, reply⟩ : Turn).Passes next ⟨recording (idle responder) calls, tag⟩)
      ⟨recording (idle responder) calls, tag⟩ := by
  have buffer := DataPhase.buffer_eq_nil empty
  have sent := Exchange.sent_eq_nil empty
  have alone : ¬ ((x.wrapper (tag + 1)).direction = .output ∧
      (x.wrapper (tag + 1)).dataLength ≠ 0) :=
    fun waits => waits.2 (congrArg UInt32.ofNat empty)
  rw [Exchange.heard_eq_nil sent] at respond
  have room : (⟨x, tag + 1, reply⟩ : Turn).room = 0 := congrArg List.length buffer
  have nothing : reply.data = [] := fits.data_eq_nil room
  obtain ⟨residue, queued⟩ := packets_own (x.wrapper (tag + 1)) [] fits.own
  rw [if_pos (by simpa using nothing), List.nil_append] at queued
  have posted := send_alone calls alone respond
  rw [queued] at posted
  have given : Gives (execute x.block x.fits x.phase) ⟨recording (idle responder) calls, tag⟩
      ⟨.ok reply.status, []⟩ ⟨_, tag + 1⟩ :=
    gives_execute_of_moved posted (gives_moveData_of_empty (tag + 1) empty _)
      (receive_status _ _ _ _)
  refine given.ends ⟨⟨?_, ?_⟩, rfl, rfl, ?_, ?_⟩
  · intro _
    exact ⟨rfl, by simp [nothing, buffer]⟩
  · intro _ some
    exact absurd room some
  · simp [recording, Turn.sends, sent, Turn.wrapper]
  · intro none outcome
    simpa [recording] using none outcome

/-- A turn in which data go out. -/
theorem ends_turn_sending {data : List UInt8} (phase : x.phase = .send data) (some : data ≠ [])
    (respond : Responder.respond (x.wrapper (tag + 1)) x.heard responder = (reply, next)) :
    Ends (execute x.block x.fits x.phase)
      ((⟨x, tag + 1, reply⟩ : Turn).Passes next ⟨recording (idle responder) calls, tag⟩)
      ⟨recording (idle responder) calls, tag⟩ := by
  have buffer : x.phase.buffer = [] := by
    rw [phase]
    rfl
  have room : (⟨x, tag + 1, reply⟩ : Turn).room = 0 := congrArg List.length buffer
  have nothing : reply.data = [] := fits.data_eq_nil room
  obtain ⟨residue, queued⟩ := packets_own (x.wrapper (tag + 1)) x.heard fits.own
  rw [if_pos (by simpa using nothing), List.nil_append] at queued
  have out : (x.wrapper (tag + 1)).direction = .output := by
    rw [Exchange.wrapper, phase]
    rfl
  have sent : x.sent = data := by rw [Exchange.sent, phase]
  -- Whether the player waits for the data or not, it has its status ready behind them.
  have taken : ((idle responder).take (x.wrapper (tag + 1)).toOctets).take data =
      offering next [(make (tag + 1) residue reply.status).toOctets] := by
    by_cases announced : UInt32.ofNat x.phase.length = 0
    · rw [Exchange.heard, if_pos announced] at respond queued
      have noCommand : CommandWrapper.ofOctets? data = none := by
        rw [CommandWrapper.ofOctets?, if_neg]
        rintro ⟨length, _⟩
        rw [phase, DataPhase.length, length] at announced
        exact absurd announced (by decide)
      rw [take_idle (fun waits => waits.2 announced) respond, queued]
      exact take_offering_of_none noCommand
    · rw [Exchange.heard, if_neg announced, sent] at respond queued
      rw [take_take_idle ⟨out, announced⟩ respond, queued]
      rfl
  have moved (p : SimulatedPlayer ρ) (calls : Array LinkCall) :
      Gives (moveData (tag + 1) x.phase) ⟨recording p calls, tag + 1⟩ (.ok (), [])
        ⟨recording (p.take data) (calls.push (.send data (.ok data.length))), tag + 1⟩ := by
    rw [phase]
    exact gives_moveData_of_sent (tag + 1) (by simpa using some) (send_recording p calls data)
  have posted := send_recording (idle responder) calls (x.wrapper (tag + 1)).toOctets
  have given : Gives (execute x.block x.fits x.phase) ⟨recording (idle responder) calls, tag⟩
      ⟨.ok reply.status, []⟩ ⟨_, tag + 1⟩ :=
    gives_execute_of_moved posted (moved _ _)
      (taken ▸ receive_status _ (tag + 1) residue reply.status)
  refine given.ends ⟨⟨?_, ?_⟩, rfl, rfl, ?_, ?_⟩
  · intro _
    exact ⟨rfl, by simp [nothing, buffer]⟩
  · intro _ some
    exact absurd room some
  · simp [recording, Turn.sends, sent, some, Turn.wrapper]
  · intro none outcome
    simpa [recording] using none outcome

section Receiving

variable {buffer : List UInt8} (phase : x.phase = .receive buffer) (some : buffer ≠ [])
variable (respond : Responder.respond (x.wrapper (tag + 1)) [] responder = (reply, next))
include phase some respond

/-- A turn in which data are expected and come. -/
theorem ends_turn_answered (data : reply.data ≠ []) :
    Ends (execute x.block x.fits x.phase)
      ((⟨x, tag + 1, reply⟩ : Turn).Passes next ⟨recording (idle responder) calls, tag⟩)
      ⟨recording (idle responder) calls, tag⟩ := by
  have room := Turn.room_of_receive (tag + 1) reply phase
  have input : (x.wrapper (tag + 1)).direction = .input := by
    rw [Exchange.wrapper, phase]
    rfl
  have sent : x.sent = [] := by rw [Exchange.sent, phase]
  obtain ⟨residue, queued⟩ := packets_own (x.wrapper (tag + 1)) [] fits.own
  have posted := send_alone calls (by simp [input]) respond
  rw [queued, if_neg (by simpa using data), List.singleton_append] at posted
  have le : reply.data.length ≤ buffer.length := by
    rw [← room]
    exact fits.fits
  have noStatus : reply.data.length < buffer.length → ¬ IsStatus reply.data := by
    intro short looks
    apply fits.plain _ looks
    rw [room, ← looks.1]
    exact short
  have moved (rest : List (List UInt8)) (calls : Array LinkCall) :
      Gives (moveData (tag + 1) x.phase)
        ⟨recording (offering next (reply.data :: rest)) calls, tag + 1⟩
        (.ok (), overlay reply.data buffer)
        ⟨recording (offering next rest) (calls.push (.receive buffer.length (.ok reply.data))),
          tag + 1⟩ := by
    rw [phase, moveData, if_neg (by simpa using some)]
    exact gives_receiveData_of_ok (receive_recording calls le rest) noStatus
  have given : Gives (execute x.block x.fits x.phase) ⟨recording (idle responder) calls, tag⟩
      ⟨.ok reply.status, overlay reply.data buffer⟩ ⟨_, tag + 1⟩ :=
    gives_execute_of_moved posted (moved _ _) (receive_status _ _ _ _)
  refine given.ends ⟨⟨?_, ?_⟩, rfl, rfl, ?_, ?_⟩
  · intro _
    refine ⟨rfl, ?_⟩
    rw [overlay, List.take_of_length_le le, phase]
    rfl
  · intro none
    exact absurd none data
  · simp [recording, Turn.sends, sent, Turn.wrapper]
  · intro none outcome
    simpa [recording] using none outcome

/-- A turn in which data are expected and the status comes in their place. -/
theorem ends_turn_unsolicited (nothing : reply.data = []) :
    Ends (execute x.block x.fits x.phase)
      ((⟨x, tag + 1, reply⟩ : Turn).Passes next ⟨recording (idle responder) calls, tag⟩)
      ⟨recording (idle responder) calls, tag⟩ := by
  have room := Turn.room_of_receive (tag + 1) reply phase
  have input : (x.wrapper (tag + 1)).direction = .input := by
    rw [Exchange.wrapper, phase]
    rfl
  have sent : x.sent = [] := by rw [Exchange.sent, phase]
  obtain ⟨residue, queued⟩ := packets_own (x.wrapper (tag + 1)) [] fits.own
  have posted := send_alone calls (by simp [input]) respond
  rw [queued, if_pos (by simpa using nothing), List.nil_append] at posted
  have short : StatusWrapper.size < buffer.length := by
    have told := fits.told nothing
    rw [room] at told
    exact told.resolve_left (by simpa using some)
  have failed (calls : Array LinkCall) :
      Gives (moveData (tag + 1) x.phase)
        ⟨recording (offering next [(make (tag + 1) residue reply.status).toOctets]) calls, tag + 1⟩
        (.error (.unsolicitedStatus reply.status),
          overlay (make (tag + 1) residue reply.status).toOctets buffer)
        ⟨recording (idle next) (calls.push (.receive buffer.length
          (.ok (make (tag + 1) residue reply.status).toOctets))), tag + 1⟩ := by
    rw [phase, moveData, if_neg (by simpa using some)]
    refine gives_receiveData_of_status (receive_recording calls ?_ []) short
    rw [length_toOctets]
    exact Nat.le_of_lt short
  have given : Gives (execute x.block x.fits x.phase) ⟨recording (idle responder) calls, tag⟩
      ⟨.error (.unsolicitedStatus reply.status), _⟩ ⟨_, tag + 1⟩ :=
    gives_execute_of_notMoved posted (failed _)
  refine given.ends ⟨⟨?_, ?_⟩, rfl, rfl, ?_, ?_⟩
  · intro answered
    rw [room] at answered
    exact absurd nothing (answered.resolve_right (by simpa using some))
  · intro _ _
    rfl
  · simp [recording, Turn.sends, sent, Turn.wrapper]
  · intro none outcome
    simpa [recording] using none outcome

end Receiving

/-- The step: a turn is taken as it should be, and the player is idle behind it. -/
theorem ends_turn
    (respond : Responder.respond (x.wrapper (tag + 1)) x.heard responder = (reply, next)) :
    Ends (execute x.block x.fits x.phase)
      ((⟨x, tag + 1, reply⟩ : Turn).Passes next ⟨recording (idle responder) calls, tag⟩)
      ⟨recording (idle responder) calls, tag⟩ := by
  by_cases empty : x.phase.length = 0
  · exact ends_turn_without_data fits empty respond
  · cases phase : x.phase with
    | none =>
      rw [phase] at empty
      exact absurd rfl empty
    | receive buffer =>
      have some : buffer ≠ [] := by
        rintro rfl
        rw [phase] at empty
        exact empty rfl
      have sent : x.sent = [] := by rw [Exchange.sent, phase]
      rw [Exchange.heard_eq_nil sent] at respond
      rw [← phase]
      by_cases nothing : reply.data = []
      · exact ends_turn_unsolicited fits phase some respond nothing
      · exact ends_turn_answered fits phase some respond nothing
    | send data =>
      have some : data ≠ [] := by
        rintro rfl
        rw [phase] at empty
        exact empty rfl
      rw [← phase]
      exact ends_turn_sending fits phase some respond

end Turns

/-! ### Any number of turns -/

/-- Exchanges commands one after the other, whether they fail or not, and keeps the engine as it is
after each. -/
def executeEach {σ : Type} [BulkLink σ] : List Exchange → EngineM σ (List (Outcome × Engine σ))
  | [] => pure []
  | x :: rest => do
    let outcome ← execute x.block x.fits x.phase
    let after ← get
    let others ← executeEach rest
    pure ((outcome, after) :: others)

/-- An engine and an attentive player in step after a number of turns: the last tag counts them, the
player has nothing queued and waits for nothing, each side has what the other one sent, and no halt
was cleared. -/
structure Synchronised (past : List Turn) (responder : ρ)
    (e : Engine (Recorded (SimulatedPlayer (Attentive ρ)))) : Prop where
  tag : e.tag = UInt32.ofNat past.length
  idle : e.link.link = .idle { responder, heard := past.map Turn.asked }
  sent : LinkCall.sends e.link.calls.toList = past.flatMap Turn.sends
  noHalt : ∀ outcome, .clearHalt outcome ∉ e.link.calls.toList

/-- What holds of one call of a run: its turn has the tag with its number and came to what the reply
says, the player heard all that the host sent unless the wrapper, which counts modulo `UInt32.size`,
announced none of it, and both sides are in step again. -/
structure Kept (turns : List Turn) (k : Nat) (outcome : Outcome)
    (after : Engine (Recorded (SimulatedPlayer (Attentive ρ)))) : Prop where
  turn : ∃ t, turns[k]? = some t ∧ t.tag = UInt32.ofNat (k + 1) ∧ t.Settled outcome ∧
    ((UInt32.size ∣ t.exchange.sent.length → t.exchange.sent = []) →
      t.asked.2 = t.exchange.sent)
  synchronised : ∃ responder, Synchronised (turns.take (k + 1)) responder after

/-- The step: both sides are in step after one more turn. -/
theorem Synchronised.ends_execute {past : List Turn} {responder next : ρ}
    {e : Engine (Recorded (SimulatedPlayer (Attentive ρ)))} (h : Synchronised past responder e)
    {x : Exchange} {tag : UInt32} (own : tag = UInt32.ofNat (past.length + 1)) {reply : Reply}
    (fits : (⟨x, tag, reply⟩ : Turn).Cooperative)
    (respond : Responder.respond (x.wrapper tag) x.heard responder = (reply, next)) :
    Ends (execute x.block x.fits x.phase)
      (fun outcome e' => (⟨x, tag, reply⟩ : Turn).Settled outcome ∧
        Synchronised (past ++ [⟨x, tag, reply⟩]) next e') e := by
  obtain ⟨⟨link, calls⟩, last⟩ := e
  have count : last = UInt32.ofNat past.length := h.tag
  have link : link = .idle { responder, heard := past.map Turn.asked } := h.idle
  have up : last + 1 = tag := by
    rw [own, count, UInt32.ofNat_add]
    rfl
  subst link up
  let t : Turn := ⟨x, last + 1, reply⟩
  have asked : Responder.respond (x.wrapper (last + 1)) x.heard
      ({ responder, heard := past.map Turn.asked } : Attentive ρ) =
        (reply, { responder := next, heard := past.map Turn.asked ++ [t.asked] }) := by
    simp only [Responder.respond]
    rw [respond]
    rfl
  refine (ends_turn fits asked).mono ?_
  intro outcome e' ⟨settled, advances⟩
  refine ⟨settled, ?_, ?_, ?_, advances.noHalt h.noHalt⟩
  · rw [advances.tag, List.length_append]
    exact own
  · rw [advances.link, List.map_append]
    rfl
  · rw [List.flatMap_append, ← h.sent, List.flatMap_singleton]
    exact advances.sent

theorem ends_executeEach (xs : List Exchange) {past : List Turn} {responder : ρ}
    {e : Engine (Recorded (SimulatedPlayer (Attentive ρ)))} (h : Synchronised past responder e)
    (fits : ∀ t ∈ Exchange.turns past.length xs responder, t.Cooperative) :
    Ends (executeEach xs) (fun ran _ => ran.length = xs.length ∧
      ∀ k outcome after, ran[k]? = some (outcome, after) →
        Kept (past ++ Exchange.turns past.length xs responder) (past.length + k) outcome after)
      e := by
  induction xs generalizing past responder e with
  | nil =>
    refine Ends.pure_iff.mpr ⟨rfl, ?_⟩
    intro k outcome after ran
    rw [List.getElem?_nil] at ran
    cases ran
  | cons x rest ih =>
    let answer := Responder.respond (x.wrapper (UInt32.ofNat (past.length + 1))) x.heard responder
    let t : Turn := ⟨x, UInt32.ofNat (past.length + 1), answer.1⟩
    have turns : past ++ Exchange.turns past.length (x :: rest) responder =
        (past ++ [t]) ++ Exchange.turns (past ++ [t]).length rest answer.2 := by
      rw [List.append_assoc, List.length_append]
      rfl
    obtain ⟨fit, fits⟩ : t.Cooperative ∧
        ∀ t' ∈ Exchange.turns (past ++ [t]).length rest answer.2, t'.Cooperative := by
      rw [List.length_append]
      exact List.forall_mem_cons.mp fits
    refine Ends.bind (h.ends_execute rfl fit rfl) ?_
    intro outcome e₁ ⟨settled, after⟩
    refine Ends.bind_get (Ends.bind (ih after fits) ?_)
    intro others e₂ ⟨length, each⟩
    rw [turns]
    refine Ends.pure_iff.mpr ⟨congrArg (· + 1) length, ?_⟩
    intro k outcome' after' ran
    cases k with
    | zero =>
      cases ran
      refine ⟨⟨t, ?_, rfl, settled, x.heard_eq_sent⟩, answer.2, ?_⟩
      · simp
      · rw [Nat.add_zero, List.take_append_of_le_length (by simp), List.take_of_length_le (by simp)]
        exact after
    | succ k =>
      have place : past.length + (k + 1) = (past ++ [t]).length + k := by
        rw [List.length_append, List.length_singleton]
        omega
      rw [place]
      exact each k outcome' after' ran

/-- A player with nothing queued whose replies all fit, and any run of commands: the command of each
call has its number as the tag, it gives the status and the data of the reply that was made to it,
or that status as an error where data were expected and none came, and whatever came of it, both
sides are in step again and no halt was cleared. -/
theorem executeEach_synchronised (responder : ρ) (xs : List Exchange)
    (fits : ∀ t ∈ Exchange.turns 0 xs responder, t.Cooperative) :
    Ends (executeEach xs) (fun ran _ => ran.length = xs.length ∧
      ∀ k outcome after, ran[k]? = some (outcome, after) →
        Kept (Exchange.turns 0 xs responder) k outcome after)
      { link := { link := .idle ({ responder } : Attentive ρ) } } := by
  have start : Synchronised [] responder
      { link := { link := .idle ({ responder } : Attentive ρ) } } := by
    refine ⟨rfl, rfl, rfl, ?_⟩
    intro outcome none
    cases none
  refine (ends_executeEach xs start fits).mono ?_
  intro ran _ ⟨length, each⟩
  refine ⟨length, ?_⟩
  intro k outcome after there
  have kept := each k outcome after there
  rw [List.length_nil, Nat.zero_add] at kept
  exact kept

/-- Rules of a player that answers a read with three octets, says nothing but its status to a
command with the operation 0x25, and fails every other command. -/
def terseRules : RuleBook where
  rules := [{ opcode := some 0x12, data := .fixed [1, 2, 3] },
    { opcode := some 0x25, status := .fixed 2 }]

/-- A short read, a read that is answered by the status alone, data for the player, and a command
without data. -/
def terseExchanges : List Exchange :=
  [⟨.raw [0x12, 0] 6, by decide, .receive (List.replicate 36 0)⟩,
    ⟨.raw [0x25, 0] 10, by decide, .receive (List.replicate 36 0)⟩,
    ⟨.raw [0x2A] 10, by decide, .send [9, 8, 7]⟩, ⟨.raw [0x16] 16, by decide, .none⟩]

theorem executeEach_synchronised_terse :
    Ends (executeEach terseExchanges) (fun ran _ => ran.length = terseExchanges.length ∧
      ∀ k outcome after, ran[k]? = some (outcome, after) →
        Kept (Exchange.turns 0 terseExchanges terseRules) k outcome after)
      { link := { link := .idle ({ responder := terseRules } : Attentive RuleBook) } } :=
  executeEach_synchronised terseRules terseExchanges (by decide +kernel)

end Engine

end PlayerLink
