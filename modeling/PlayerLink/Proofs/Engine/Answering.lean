import PlayerLink.Engine.Operations
import PlayerLink.Proofs.Steps
import PlayerLink.Proofs.Wrappers

/-!
# Commands that are answered

What an engine makes of a link that answers a command as it should: it takes the wrapper, it has
data for the buffer or takes those that are sent, and then it has a status of success with the tag
of the command. How many octets it says it took, and what residue its status states, does not
matter.
-/

namespace PlayerLink

open StatusWrapper

/-- The wrapper in which a command that reads goes out. -/
def Command.wrapper (c : Command) (tag : UInt32) (room : Nat) : CommandWrapper :=
  .wrap tag (UInt32.ofNat room) .input c.block c.block_fits

/-- The wrapper that a block goes out in. -/
def DataPhase.wrapper (phase : DataPhase) (tag : UInt32) (block : CommandBlock)
    (fits : block.Fits) : CommandWrapper :=
  .wrap tag (UInt32.ofNat phase.length) phase.direction block fits

/-- A packet that fills the buffer leaves nothing of what it held. -/
theorem overlay_of_length_eq {data buffer : List UInt8} (same : data.length = buffer.length) :
    overlay data buffer = data := by
  rw [overlay, same, List.drop_length, List.append_nil, ← same, List.take_length]

variable {σ : Type}

/-- A link answers a wrapper: with data for a buffer, and with success. -/
def Answers [BulkLink σ] (w : CommandWrapper) (room : Nat) (data : List UInt8) (l l' : σ) : Prop :=
  ∃ taken residue l₁ l₂,
    BulkLink.send w.toOctets l = (.ok taken, l₁) ∧
    BulkLink.receive room l₁ = (.ok data, l₂) ∧
    BulkLink.receive StatusWrapper.size l₂ = (.ok (make w.tag residue 0).toOctets, l')

/-- A link takes a wrapper and the data that go with it, and tells of success. -/
def Takes [BulkLink σ] (w : CommandWrapper) (data : List UInt8) (l l' : σ) : Prop :=
  ∃ taken moved residue l₁ l₂,
    BulkLink.send w.toOctets l = (.ok taken, l₁) ∧
    BulkLink.send data l₁ = (.ok moved, l₂) ∧
    BulkLink.receive StatusWrapper.size l₂ = (.ok (make w.tag residue 0).toOctets, l')

/-- A link has nothing for the buffer of a command but a status of it. -/
def Declines [BulkLink σ] (w : CommandWrapper) (room : Nat) (l l' : σ) : Prop :=
  ∃ taken residue status l₁,
    BulkLink.send w.toOctets l = (.ok taken, l₁) ∧
    BulkLink.receive room l₁ = (.ok (make w.tag residue status).toOctets, l')

section

variable [BulkLink σ] {w : CommandWrapper} {room : Nat} {data data' : List UInt8} {l l₁ l₂ : σ}

/-- A link has one answer. -/
theorem Answers.unique (h : Answers w room data l l₁) (h' : Answers w room data' l l₂) :
    data = data' ∧ l₁ = l₂ := by
  obtain ⟨taken, residue, m, n, sent, received, told⟩ := h
  obtain ⟨taken', residue', m', n', sent', received', told'⟩ := h'
  obtain ⟨-, rfl⟩ := Prod.mk.inj (sent.symm.trans sent')
  obtain ⟨same, rfl⟩ := Prod.mk.inj (received.symm.trans received')
  obtain ⟨-, rfl⟩ := Prod.mk.inj (told.symm.trans told')
  exact ⟨Except.ok.inj same, rfl⟩

/-- What a link that declines has for the buffer is a status. -/
theorem Answers.isStatus (h : Answers w room data l l₁) (declines : Declines w room l l₂) :
    IsStatus data := by
  obtain ⟨taken, residue, m, n, sent, received, -⟩ := h
  obtain ⟨taken', residue', status, m', sent', received'⟩ := declines
  obtain ⟨-, rfl⟩ := Prod.mk.inj (sent.symm.trans sent')
  obtain ⟨same, -⟩ := Prod.mk.inj (received.symm.trans received')
  obtain rfl := Except.ok.inj same
  exact isStatus_make w.tag residue' status

end

namespace Engine

theorem gives_onLink {α : Type} (call : StateM σ α) (e : Engine σ) :
    Gives (onLink call) e (call e.link).1 { e with link := (call e.link).2 } :=
  fun _ => ⟨rfl, rfl⟩

theorem gives_nextTag (e : Engine σ) :
    Gives nextTag e (e.tag + 1) { e with tag := e.tag + 1 } :=
  fun _ => ⟨rfl, rfl⟩

variable [BulkLink σ] {e : Engine σ} {l : σ}

theorem gives_sendWrapper_of_ok {w : CommandWrapper} {taken : Nat}
    (sent : BulkLink.send w.toOctets e.link = (.ok taken, l)) :
    Gives (sendWrapper w) e (.ok ()) { e with link := l } := by
  have call := gives_onLink (BulkLink.send w.toOctets) e
  rw [sent] at call
  refine Ends.bind_lift (call.bindEnds ?_)
  by_cases short : taken ≠ CommandWrapper.size
  · simp only [if_pos short]
    exact Ends.bind_lift (Gives.pure _ _)
  · simp only [if_neg short]
    exact Gives.pure _ _

theorem gives_sendData_of_ok {data : List UInt8} {taken : Nat}
    (sent : BulkLink.send data e.link = (.ok taken, l)) :
    Gives (sendData data) e (.ok ()) { e with link := l } := by
  have call := gives_onLink (BulkLink.send data) e
  rw [sent] at call
  refine call.bindEnds ?_
  by_cases short : taken ≠ data.length
  · simp only [if_pos short]
    exact Ends.bind_lift (Gives.pure _ _)
  · simp only [if_neg short]
    exact Gives.pure _ _

theorem gives_moveData_of_sent (tag : UInt32) {data : List UInt8} {taken : Nat}
    (some : ¬ data.isEmpty) (sent : BulkLink.send data e.link = (.ok taken, l)) :
    Gives (moveData tag (.send data)) e (.ok (), []) { e with link := l } := by
  rw [moveData, if_neg some]
  exact (gives_sendData_of_ok sent).bind (Gives.pure _ _)

/-- Without data nothing is moved. -/
theorem gives_moveData_of_empty (tag : UInt32) {p : DataPhase} (empty : p.length = 0)
    (e : Engine σ) : Gives (moveData tag p) e (.ok (), []) e := by
  cases p with
  | none => exact Gives.pure _ _
  | receive buffer =>
    obtain rfl := List.length_eq_zero_iff.mp empty
    exact Gives.pure _ _
  | send data =>
    obtain rfl := List.length_eq_zero_iff.mp empty
    exact Gives.pure _ _

theorem gives_receiveData_of_ok {tag : UInt32} {buffer data : List UInt8}
    (received : BulkLink.receive buffer.length e.link = (.ok data, l))
    (noStatus : data.length < buffer.length → ¬ IsStatus data) :
    Gives (receiveData tag buffer) e (.ok (), overlay data buffer) { e with link := l } := by
  have call := gives_onLink (BulkLink.receive buffer.length) e
  rw [received] at call
  refine call.bindEnds ?_
  by_cases short : data.length < buffer.length
  · simp only [if_pos short, if_neg (noStatus short)]
    exact Ends.bind_lift (Gives.pure _ _)
  · simp only [if_neg short]
    exact Gives.pure _ _

/-- A status with the right tag in place of the data, where they had more room, ends the
exchange, and no halt has to be cleared. -/
theorem gives_receiveData_of_status {tag residue : UInt32} {status : UInt8} {buffer : List UInt8}
    (received : BulkLink.receive buffer.length e.link =
      (.ok (make tag residue status).toOctets, l))
    (room : StatusWrapper.size < buffer.length) :
    Gives (receiveData tag buffer) e
      (.error (.unsolicitedStatus status), overlay (make tag residue status).toOctets buffer)
      { e with link := l } := by
  have call := gives_onLink (BulkLink.receive buffer.length) e
  rw [received] at call
  refine call.bindEnds ?_
  have short : (make tag residue status).toOctets.length < buffer.length := by
    rw [length_toOctets]
    exact room
  have own : (make tag residue status).tag = tag := rfl
  simp only [if_pos short, if_pos (isStatus_make tag residue status), decode_toOctets,
    statusForData, if_pos own]
  exact Ends.bind (Ends.bind_lift (Gives.pure _ _)) (by
    rintro _ _ ⟨rfl, rfl⟩
    exact Gives.pure _ _)

theorem gives_collectStatus_of_ok {tag residue : UInt32} {status : UInt8}
    (received : BulkLink.receive StatusWrapper.size e.link =
      (.ok (make tag residue status).toOctets, l)) :
    Gives (collectStatus tag) e (.ok status) { e with link := l } := by
  have call := gives_onLink (BulkLink.receive StatusWrapper.size) e
  rw [received] at call
  refine call.bindEnds ?_
  have marked : (make tag residue status).IsMarked := rfl
  have own : (make tag residue status).tag = tag := rfl
  simp only [pairStatus, ofOctets?_toOctets, marked, own, not_true_eq_false, if_false, ne_eq]
  exact Ends.bind_lift (Gives.pure _ _)

/-- An exchange whose wrapper is taken and whose data are moved gives the status that comes. -/
theorem gives_execute_of_moved {block : CommandBlock} {fits : block.Fits} {phase : DataPhase}
    {buffer : List UInt8} {taken : Nat} {residue : UInt32} {status : UInt8} {l₁ l₂ : σ}
    (sent : BulkLink.send (phase.wrapper (e.tag + 1) block fits).toOctets e.link = (.ok taken, l₁))
    (moved : Gives (moveData (e.tag + 1) phase) ⟨l₁, e.tag + 1⟩ (.ok (), buffer) ⟨l₂, e.tag + 1⟩)
    (received : BulkLink.receive StatusWrapper.size l₂ =
      (.ok (make (e.tag + 1) residue status).toOctets, l)) :
    Gives (execute block fits phase) e ⟨.ok status, buffer⟩ ⟨l, e.tag + 1⟩ := by
  refine (gives_nextTag e).bindEnds ?_
  refine (gives_sendWrapper_of_ok (e := ⟨e.link, e.tag + 1⟩) sent).bindEnds ?_
  refine moved.bindEnds ?_
  exact (gives_collectStatus_of_ok (e := ⟨l₂, e.tag + 1⟩) received).bindEnds (Gives.pure _ _)

/-- An exchange whose data cannot be moved ends there. -/
theorem gives_execute_of_notMoved {block : CommandBlock} {fits : block.Fits} {phase : DataPhase}
    {buffer : List UInt8} {taken : Nat} {cause : ExchangeError} {l₁ : σ}
    (sent : BulkLink.send (phase.wrapper (e.tag + 1) block fits).toOctets e.link = (.ok taken, l₁))
    (failed : Gives (moveData (e.tag + 1) phase) ⟨l₁, e.tag + 1⟩ (.error cause, buffer)
      ⟨l, e.tag + 1⟩) :
    Gives (execute block fits phase) e ⟨.error cause, buffer⟩ ⟨l, e.tag + 1⟩ := by
  refine (gives_nextTag e).bindEnds ?_
  refine (gives_sendWrapper_of_ok (e := ⟨e.link, e.tag + 1⟩) sent).bindEnds ?_
  exact failed.bindEnds (Gives.pure _ _)

/-- A read that is answered gives the data, at the start of the buffer. -/
theorem gives_run_of_answers {c : Command} (buffer : List UInt8) {data : List UInt8}
    (answers : Answers (c.wrapper (e.tag + 1) buffer.length) buffer.length data e.link l)
    (some : buffer ≠ []) (noStatus : data.length < buffer.length → ¬ IsStatus data) :
    Gives (run c (.receive buffer)) e ⟨.ok 0, overlay data buffer⟩ ⟨l, e.tag + 1⟩ := by
  obtain ⟨taken, residue, l₁, l₂, sent, received, status⟩ := answers
  have moved : Gives (moveData (e.tag + 1) (.receive buffer)) ⟨l₁, e.tag + 1⟩
      (.ok (), overlay data buffer) ⟨l₂, e.tag + 1⟩ := by
    rw [moveData, if_neg (by simpa using some)]
    exact gives_receiveData_of_ok (e := ⟨l₁, e.tag + 1⟩) received noStatus
  exact gives_execute_of_moved sent moved status

theorem gives_fill_of_answers {c : Command} (buffer : List UInt8) {data : List UInt8}
    (answers : Answers (c.wrapper (e.tag + 1) buffer.length) buffer.length data e.link l)
    (some : buffer ≠ []) (noStatus : data.length < buffer.length → ¬ IsStatus data) :
    Gives (fill c buffer) e ⟨.ok (), overlay data buffer⟩ ⟨l, e.tag + 1⟩ :=
  (gives_run_of_answers buffer answers some noStatus).bindEnds (Gives.pure _ _)

/-- Data that fill the buffer leave nothing of what it held. -/
theorem gives_fill_of_whole {c : Command} {buffer data : List UInt8} {room : Nat}
    (answers : Answers (c.wrapper (e.tag + 1) room) room data e.link l) (some : 0 < room)
    (length : buffer.length = room) (whole : data.length = room) :
    Gives (fill c buffer) e ⟨.ok (), data⟩ ⟨l, e.tag + 1⟩ := by
  subst length
  have filled := gives_fill_of_answers buffer answers (List.ne_nil_of_length_pos some)
    fun short => absurd whole (Nat.ne_of_lt short)
  rwa [overlay_of_length_eq whole] at filled

/-- A write that is taken succeeds. -/
theorem gives_perform_of_takes {c : Command} {data : List UInt8}
    (takes : Takes ((DataPhase.send data).wrapper (e.tag + 1) c.block c.block_fits) data e.link l)
    (some : ¬ data.isEmpty) :
    Gives (perform c (.send data)) e (.ok ()) ⟨l, e.tag + 1⟩ := by
  obtain ⟨taken, moved, residue, l₁, l₂, sent, sent', status⟩ := takes
  have given : Gives (run c (.send data)) e ⟨.ok 0, []⟩ ⟨l, e.tag + 1⟩ :=
    gives_execute_of_moved sent
      (gives_moveData_of_sent (e := ⟨l₁, e.tag + 1⟩) (e.tag + 1) some sent') status
  exact given.bindEnds (Gives.pure _ _)

end Engine

end PlayerLink
