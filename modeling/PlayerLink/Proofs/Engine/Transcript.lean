import PlayerLink.Proofs.Engine.Answering

/-!
# What an exchange leaves in the record of its link

A link may keep a record of the calls that were made on it, as `Recorded` does, or as a bus does for
a device that keeps one. `Transcript` is all that is asked of such a record. For any such link and
whatever it does: an exchange sends its wrapper first and nothing twice, and if it gives a status,
its record is the wrapper, at most one transfer of data, and the packet of the status.
-/

namespace PlayerLink

open StatusWrapper

namespace LinkCall

/-- What was sent by calls, oldest first. -/
def sends (calls : List LinkCall) : List (List UInt8) := calls.filterMap sent?

@[simp] theorem sends_append (a b : List LinkCall) : sends (a ++ b) = sends a ++ sends b :=
  List.filterMap_append

@[simp] theorem sends_cons_send (octets : List UInt8) (outcome : Except UsbError Nat)
    (calls : List LinkCall) : sends (.send octets outcome :: calls) = octets :: sends calls :=
  rfl

@[simp] theorem sends_nil : sends [] = [] := rfl

@[simp] theorem sends_cons_receive (room : Nat) (outcome : Except UsbError (List UInt8))
    (calls : List LinkCall) : sends (.receive room outcome :: calls) = sends calls :=
  rfl

/-- Behind the only send there is no other. -/
theorem sends_behind {before after : List LinkCall} {octets only : List UInt8}
    {outcome : Except UsbError Nat}
    (single : sends (before ++ .send octets outcome :: after) <+: [only]) : sends after = [] := by
  have le := single.length_le
  rw [sends_append, sends_cons_send, List.length_append, List.length_cons,
    List.length_singleton] at le
  exact List.length_eq_zero_iff.mp (by omega)

theorem mem_sends {calls : List LinkCall} {octets : List UInt8} :
    octets ∈ sends calls ↔ ∃ outcome, .send octets outcome ∈ calls := by
  rw [sends, List.mem_filterMap]
  constructor
  · rintro ⟨c, there, sent⟩
    cases c with
    | send data outcome =>
      cases sent
      exact ⟨outcome, there⟩
    | receive room outcome => cases sent
    | clearHalt outcome => cases sent
  · rintro ⟨outcome, there⟩
    exact ⟨_, there, rfl⟩

/-- The room of a call that received a packet, and the packet. -/
def received? : LinkCall → Option (Nat × List UInt8)
  | receive room (.ok packet) => some (room, packet)
  | _ => none

/-- What was received by calls, oldest first. -/
def receipts (calls : List LinkCall) : List (Nat × List UInt8) := calls.filterMap received?

theorem mem_receipts {calls : List LinkCall} {room : Nat} {packet : List UInt8}
    (h : .receive room (.ok packet) ∈ calls) : (room, packet) ∈ receipts calls :=
  List.mem_filterMap.mpr ⟨_, h, rfl⟩

end LinkCall

/-- What a call leaves in a record: the call itself with how it turned out, which is as the caller
is told at least if it went well, or nothing, if there was nothing to call. -/
inductive Noted {α : Type} (note : Except UsbError α → LinkCall) :
    Except UsbError α → List LinkCall → Prop
  | made {told : Except UsbError α} (outcome : Except UsbError α)
      (ok : ∀ a, told = .ok a → outcome = .ok a) : Noted note told [note outcome]
  | missing (e : UsbError) : Noted note (.error e) []

theorem Noted.of_ok {α : Type} {note : Except UsbError α → LinkCall} {a : α} {new : List LinkCall}
    (noted : Noted note (.ok a) new) : new = [note (.ok a)] := by
  cases noted with
  | made outcome ok => rw [ok a rfl]

theorem Noted.sends_eq_nil {α : Type} {note : Except UsbError α → LinkCall}
    {told : Except UsbError α} {new : List LinkCall} (noted : Noted note told new)
    (silent : ∀ outcome, (note outcome).sent? = none) : LinkCall.sends new = [] := by
  cases noted with
  | made outcome ok => simp [LinkCall.sends, silent]
  | missing e => rfl

theorem Noted.sends_send {data : List UInt8} {told : Except UsbError Nat} {new : List LinkCall}
    (noted : Noted (.send data) told new) : LinkCall.sends new <+: [data] := by
  cases noted with
  | made outcome ok => exact List.prefix_refl [data]
  | missing e => exact List.nil_prefix

/-- `D l new l'` says that the record of a link has grown by `new`. A transfer leaves what `Noted`
says; how clearing a halt is noted does not matter, as long as it counts as nothing sent. -/
structure Transcript {σ : Type} [BulkLink σ] (D : σ → List LinkCall → σ → Prop) : Prop where
  refl : ∀ l, D l [] l
  trans : ∀ {l m n a b}, D l a m → D m b n → D l (a ++ b) n
  send : ∀ data l, ∃ new,
    D l new (BulkLink.send data l).2 ∧ Noted (.send data) (BulkLink.send data l).1 new
  receive : ∀ room l, ∃ new,
    D l new (BulkLink.receive room l).2 ∧ Noted (.receive room) (BulkLink.receive room l).1 new
  clearHalt : ∀ l : σ, ∃ new, D l new (BulkLink.clearHalt l).2 ∧ LinkCall.sends new = []

namespace Recorded

variable {σ : Type}

/-- The record of a link that is recorded. -/
def Grew (r : Recorded σ) (new : List LinkCall) (r' : Recorded σ) : Prop :=
  r'.calls.toList = r.calls.toList ++ new

theorem Grew.unique {r r' : Recorded σ} {a b : List LinkCall} (h : Grew r a r') (h' : Grew r b r') :
    a = b :=
  List.append_cancel_left (h.symm.trans h')

theorem grew_noting {α : Type} (step : StateM σ (Except UsbError α))
    (note : Except UsbError α → LinkCall) (r : Recorded σ) :
    ∃ new, Grew r new (noting step note r).2 ∧ Noted note (noting step note r).1 new := by
  have pushed : (noting step note r).2.calls = r.calls.push (note (step r.link).1) := rfl
  refine ⟨[note (step r.link).1], ?_, .made _ fun _ ok => ok⟩
  rw [Grew, pushed, Array.toList_push]

theorem transcript [BulkLink σ] : Transcript (Recorded.Grew : Recorded σ → _) where
  refl r := (List.append_nil _).symm
  trans first second := by
    rw [Grew, second, first, List.append_assoc]
  send data := grew_noting (BulkLink.send data) (.send data)
  receive room := grew_noting (BulkLink.receive room) (.receive room)
  clearHalt r := by
    obtain ⟨new, grown, noted⟩ := grew_noting BulkLink.clearHalt .clearHalt r
    exact ⟨new, grown, noted.sends_eq_nil fun _ => rfl⟩

end Recorded

/-- A link comes from one state to another by calls on it, each of which turns out as the link has
it. -/
inductive Makes {σ : Type} [BulkLink σ] : σ → List LinkCall → σ → Prop
  | nil (l : σ) : Makes l [] l
  | send {l l' : σ} {data : List UInt8} {outcome : Except UsbError Nat} {calls : List LinkCall}
    (told : (BulkLink.send data l).1 = outcome) (rest : Makes (BulkLink.send data l).2 calls l') :
    Makes l (.send data outcome :: calls) l'
  | receive {l l' : σ} {room : Nat} {outcome : Except UsbError (List UInt8)}
    {calls : List LinkCall} (told : (BulkLink.receive room l).1 = outcome)
    (rest : Makes (BulkLink.receive room l).2 calls l') :
    Makes l (.receive room outcome :: calls) l'
  | clearHalt {l l' : σ} {outcome : Except UsbError Unit} {calls : List LinkCall}
    (told : (BulkLink.clearHalt l).1 = outcome) (rest : Makes (BulkLink.clearHalt l).2 calls l') :
    Makes l (.clearHalt outcome :: calls) l'

theorem Makes.append {σ : Type} [BulkLink σ] {l m n : σ} {a b : List LinkCall} (first : Makes l a m)
    (second : Makes m b n) : Makes l (a ++ b) n := by
  induction first with
  | nil => exact second
  | send told _ ih => exact .send told (ih second)
  | receive told _ ih => exact .receive told (ih second)
  | clearHalt told _ ih => exact .clearHalt told (ih second)

namespace Recorded

variable {σ : Type} [BulkLink σ]

/-- The record has grown by what the link went through. -/
structure Passed (r : Recorded σ) (calls : List LinkCall) (r' : Recorded σ) : Prop where
  grown : Grew r calls r'
  made : Makes r.link calls r'.link

theorem transcript_passed : Transcript (Passed : Recorded σ → _) where
  refl r := ⟨transcript.refl r, .nil r.link⟩
  trans first second := ⟨transcript.trans first.grown second.grown, first.made.append second.made⟩
  send _ _ := ⟨_, ⟨Array.toList_push, .send rfl (.nil _)⟩, .made _ fun _ ok => ok⟩
  receive _ _ := ⟨_, ⟨Array.toList_push, .receive rfl (.nil _)⟩, .made _ fun _ ok => ok⟩
  clearHalt _ := ⟨_, ⟨Array.toList_push, .clearHalt rfl (.nil _)⟩, rfl⟩

end Recorded

/-! ### What is said of an exchange -/

/-- The data stage of an exchange that gave a status: the buffer it came back with, and the one
transfer it made, if there was anything to transfer. -/
inductive Moved : DataPhase → List UInt8 → List LinkCall → Prop
  | none : Moved .none [] []
  | receivedNothing : Moved (.receive []) [] []
  | received {buffer : List UInt8} (packet : List UInt8) (some : buffer ≠ [])
    (noStatus : packet.length < buffer.length → ¬ IsStatus packet) :
    Moved (.receive buffer) (overlay packet buffer) [.receive buffer.length (.ok packet)]
  | sentNothing : Moved (.send []) [] []
  | sent {data : List UInt8} (taken : Nat) (some : data ≠ []) :
    Moved (.send data) [] [.send data (.ok taken)]

/-- A packet that is taken for a status with a tag. -/
structure Accepted (tag : UInt32) (status : UInt8) (packet : List UInt8) : Prop where
  looks : IsStatus packet
  tag : (layout.decode packet).tag = tag
  status : (layout.decode packet).status = status

/-- A packet that is accepted as a status is that status. -/
theorem Accepted.exists_residue {tag : UInt32} {status : UInt8} {packet : List UInt8}
    (accepted : Accepted tag status packet) :
    ∃ residue, packet = (make tag residue status).toOctets := by
  obtain ⟨s, read, marked⟩ := (isStatus_iff packet).mp accepted.looks
  obtain ⟨-, same⟩ := toOctets_of_ofOctets? read
  have tagged := accepted.tag
  have stated := accepted.status
  rw [← same, decode_toOctets] at tagged stated
  refine ⟨s.residue, ?_⟩
  rw [← same, ← tagged, ← stated, make, ← marked]

/-- The record of an exchange that gave a status. -/
def Completed (w : CommandWrapper) (phase : DataPhase) (buffer : List UInt8) (status : UInt8)
    (calls : List LinkCall) : Prop :=
  ∃ taken moved packet,
    calls = .send w.toOctets (.ok taken) :: (moved ++ [.receive StatusWrapper.size (.ok packet)]) ∧
      Moved phase buffer moved ∧ Accepted w.tag status packet

/-- Everything that an exchange may send, in order. -/
def DataPhase.outgoing (w : CommandWrapper) : DataPhase → List (List UInt8)
  | .send data => [w.toOctets, data]
  | _ => [w.toOctets]

namespace Engine

variable {σ : Type}

/-- The record of the link has grown, and the tag is the same. -/
structure Grew (D : σ → List LinkCall → σ → Prop) (e : Engine σ) (new : List LinkCall)
    (e' : Engine σ) : Prop where
  link : D e.link new e'.link
  tag : e'.tag = e.tag

end Engine

namespace Transcript

open Engine

variable {σ : Type} [BulkLink σ] {D : σ → List LinkCall → σ → Prop} {e e' e'' : Engine σ}
variable {a b : List LinkCall}

theorem same (t : Transcript D) (e : Engine σ) : Grew D e [] e := ⟨t.refl e.link, rfl⟩

theorem andThen (t : Transcript D) (first : Grew D e a e') (second : Grew D e' b e'') :
    Grew D e (a ++ b) e'' :=
  ⟨t.trans first.link second.link, second.tag.trans first.tag⟩

theorem ends_send (t : Transcript D) (data : List UInt8) (e : Engine σ) :
    Ends (onLink (BulkLink.send data))
      (fun told e' => ∃ new, Grew D e new e' ∧ Noted (.send data) told new) e := by
  obtain ⟨new, grown, noted⟩ := t.send data e.link
  exact (gives_onLink _ e).ends ⟨new, ⟨grown, rfl⟩, noted⟩

theorem ends_receive (t : Transcript D) (room : Nat) (e : Engine σ) :
    Ends (onLink (BulkLink.receive room))
      (fun told e' => ∃ new, Grew D e new e' ∧ Noted (.receive room) told new) e := by
  obtain ⟨new, grown, noted⟩ := t.receive room e.link
  exact (gives_onLink _ e).ends ⟨new, ⟨grown, rfl⟩, noted⟩

theorem ends_clearHalt (t : Transcript D) (e : Engine σ) :
    Ends Engine.clearHalt
      (fun _ e' => ∃ new, Grew D e new e' ∧ LinkCall.sends new = []) e := by
  obtain ⟨new, grown, silent⟩ := t.clearHalt e.link
  refine (gives_onLink _ e).bindEnds ?_
  cases (BulkLink.clearHalt e.link).1 with
  | ok _ => exact Ends.pure_iff.mpr ⟨new, ⟨grown, rfl⟩, silent⟩
  | error cause => exact Ends.lift_iff.mpr ⟨new, ⟨grown, rfl⟩, silent⟩

/-- What follows a status that is of no use: at most a halt is cleared. -/
theorem ends_failFraming (t : Transcript D) (cause : FramingError) (e : Engine σ) :
    Ends (failFraming cause)
      (fun result e' => result = .error (.framing cause) ∧
        ∃ new, Grew D e new e' ∧ LinkCall.sends new = []) e := by
  refine Ends.bind_lift (Ends.bind (t.ends_clearHalt e) ?_)
  rintro _ e' cleared
  exact Ends.pure_iff.mpr ⟨rfl, cleared⟩

theorem ends_pairStatus (t : Transcript D) (tag : UInt32) (packet : List UInt8) (e : Engine σ) :
    Ends (pairStatus tag packet)
      (fun result e' => ∃ new, Grew D e new e' ∧ LinkCall.sends new = [] ∧
        ∀ s, result = .ok s → new = [] ∧ Accepted tag s packet) e := by
  have failed (cause : FramingError) :
      Ends (failFraming cause)
        (fun result e' => ∃ new, Grew D e new e' ∧ LinkCall.sends new = [] ∧
          ∀ s, result = .ok s → new = [] ∧ Accepted tag s packet) e := by
    refine (t.ends_failFraming cause e).mono ?_
    rintro _ e' ⟨rfl, new, grown, silent⟩
    exact ⟨new, grown, silent, nofun⟩
  rw [pairStatus]
  cases read : ofOctets? packet with
  | none => exact failed _
  | some status =>
    by_cases marked : status.IsMarked
    · simp only [not_true_eq_false, marked, if_false]
      by_cases other : status.tag ≠ tag
      · simp only [if_pos other]
        exact failed _
      · simp only [if_neg other]
        have own : status.tag = tag := Decidable.of_not_not other
        obtain ⟨looks, decoded⟩ := isStatus_of_isMarked read marked
        refine Ends.bind_lift (Ends.pure_iff.mpr ⟨[], t.same e, rfl, ?_⟩)
        intro s ok
        cases ok
        exact ⟨rfl, looks, by rw [decoded, own], by rw [decoded]⟩
    · simp only [if_pos marked]
      exact failed _

theorem ends_collectStatus (t : Transcript D) (tag : UInt32) (e : Engine σ) :
    Ends (collectStatus tag)
      (fun result e' => ∃ new, Grew D e new e' ∧ LinkCall.sends new = [] ∧
        ∀ s, result = .ok s → ∃ packet,
          new = [.receive StatusWrapper.size (.ok packet)] ∧ Accepted tag s packet) e := by
  refine Ends.bind (t.ends_receive StatusWrapper.size e) ?_
  rintro told e' ⟨new, grown, noted⟩
  have silent := noted.sends_eq_nil fun _ => rfl
  cases told with
  | error cause => exact Ends.pure_iff.mpr ⟨new, grown, silent, nofun⟩
  | ok packet =>
    refine (t.ends_pairStatus tag packet e').mono ?_
    rintro result e'' ⟨more, grown', silent', paired⟩
    refine ⟨new ++ more, t.andThen grown grown', by simp [silent, silent'], ?_⟩
    intro s ok
    obtain ⟨rfl, accepted⟩ := paired s ok
    exact ⟨packet, by rw [noted.of_ok, List.append_nil], accepted⟩

theorem ends_sendWrapper (t : Transcript D) (w : CommandWrapper) (e : Engine σ) :
    Ends (sendWrapper w)
      (fun sent e' => ∃ new, Grew D e new e' ∧ LinkCall.sends new <+: [w.toOctets] ∧
        (sent = .ok () → ∃ taken, new = [.send w.toOctets (.ok taken)])) e := by
  refine Ends.bind_lift (Ends.bind (t.ends_send w.toOctets e) ?_)
  rintro told e' ⟨new, grown, noted⟩
  cases told with
  | error cause => exact Ends.pure_iff.mpr ⟨new, grown, noted.sends_send, nofun⟩
  | ok taken =>
    by_cases short : taken ≠ CommandWrapper.size
    · simp only [if_pos short]
      exact Ends.bind_lift (Ends.pure_iff.mpr
        ⟨new, grown, noted.sends_send, fun _ => ⟨taken, noted.of_ok⟩⟩)
    · simp only [if_neg short]
      exact Ends.pure_iff.mpr ⟨new, grown, noted.sends_send, fun _ => ⟨taken, noted.of_ok⟩⟩

theorem ends_statusForData (t : Transcript D) (tag : UInt32) (status : StatusWrapper)
    (e : Engine σ) :
    Ends (statusForData tag status)
      (fun _ e' => ∃ new, Grew D e new e' ∧ LinkCall.sends new = []) e := by
  rw [statusForData]
  by_cases own : status.tag = tag
  · rw [if_pos own]
    exact Ends.bind_lift (Ends.pure_iff.mpr ⟨[], t.same e, rfl⟩)
  · rw [if_neg own]
    refine Ends.bind_lift (Ends.bind (t.ends_clearHalt e) ?_)
    rintro _ e' cleared
    exact Ends.pure_iff.mpr cleared

theorem ends_receiveData (t : Transcript D) (tag : UInt32) {buffer : List UInt8}
    (some : buffer ≠ []) (e : Engine σ) :
    Ends (receiveData tag buffer)
      (fun moved e' => ∃ new, Grew D e new e' ∧ LinkCall.sends new = [] ∧
        (moved.1 = .ok () → Moved (.receive buffer) moved.2 new)) e := by
  refine Ends.bind (t.ends_receive buffer.length e) ?_
  rintro told e' ⟨new, grown, noted⟩
  have silent := noted.sends_eq_nil fun _ => rfl
  cases told with
  | error cause => exact Ends.pure_iff.mpr ⟨new, grown, silent, nofun⟩
  | ok packet =>
    have moved (noStatus : packet.length < buffer.length → ¬ IsStatus packet) :
        Moved (.receive buffer) (overlay packet buffer) new := by
      rw [noted.of_ok]
      exact .received packet some noStatus
    by_cases short : packet.length < buffer.length
    · simp only [if_pos short]
      by_cases looks : IsStatus packet
      · simp only [if_pos looks]
        refine Ends.bind (t.ends_statusForData tag _ e') ?_
        rintro cause e'' ⟨more, grown', silent'⟩
        exact Ends.pure_iff.mpr
          ⟨new ++ more, t.andThen grown grown', by simp [silent, silent'], nofun⟩
      · simp only [if_neg looks]
        exact Ends.bind_lift
          (Ends.pure_iff.mpr ⟨new, grown, silent, fun _ => moved fun _ => looks⟩)
    · simp only [if_neg short]
      exact Ends.pure_iff.mpr ⟨new, grown, silent, fun _ => moved fun lt => absurd lt short⟩

theorem ends_sendData (t : Transcript D) {data : List UInt8} (some : data ≠ []) (e : Engine σ) :
    Ends (sendData data)
      (fun moved e' => ∃ new, Grew D e new e' ∧ LinkCall.sends new <+: [data] ∧
        (moved = .ok () → Moved (.send data) [] new)) e := by
  refine Ends.bind (t.ends_send data e) ?_
  rintro told e' ⟨new, grown, noted⟩
  cases told with
  | error cause => exact Ends.pure_iff.mpr ⟨new, grown, noted.sends_send, nofun⟩
  | ok taken =>
    have moved : Moved (.send data) [] new := by
      rw [noted.of_ok]
      exact .sent taken some
    by_cases short : taken ≠ data.length
    · simp only [if_pos short]
      exact Ends.bind_lift (Ends.pure_iff.mpr ⟨new, grown, noted.sends_send, fun _ => moved⟩)
    · simp only [if_neg short]
      exact Ends.pure_iff.mpr ⟨new, grown, noted.sends_send, fun _ => moved⟩

/-- What the data stage sends, if it sends anything. -/
theorem ends_moveData (t : Transcript D) (w : CommandWrapper) (tag : UInt32) (phase : DataPhase)
    (e : Engine σ) :
    Ends (moveData tag phase)
      (fun moved e' => ∃ new, Grew D e new e' ∧
        [w.toOctets] ++ LinkCall.sends new <+: phase.outgoing w ∧
        (moved.1 = .ok () → Moved phase moved.2 new)) e := by
  cases phase with
  | none => exact Ends.pure_iff.mpr ⟨[], t.same e, List.prefix_refl _, fun _ => .none⟩
  | receive buffer =>
    rw [moveData]
    by_cases empty : buffer = []
    · subst empty
      exact Ends.pure_iff.mpr ⟨[], t.same e, List.prefix_refl _, fun _ => .receivedNothing⟩
    · rw [if_neg (by simpa using empty)]
      refine (t.ends_receiveData tag empty e).mono ?_
      rintro moved e' ⟨new, grown, silent, done⟩
      refine ⟨new, grown, ?_, done⟩
      rw [silent]
      exact List.prefix_refl _
  | send data =>
    rw [moveData]
    by_cases empty : data = []
    · subst empty
      exact Ends.pure_iff.mpr ⟨[], t.same e, List.prefix_append _ _, fun _ => .sentNothing⟩
    · rw [if_neg (by simpa using empty)]
      refine Ends.bind (t.ends_sendData empty e) ?_
      rintro moved e' ⟨new, grown, sent, done⟩
      refine Ends.pure_iff.mpr ⟨new, grown, ?_, done⟩
      exact (List.prefix_append_right_inj [w.toOctets]).mpr sent

/-- An exchange sends its wrapper and then its data, and stops at the first that is not taken. A
status that it gives was received behind everything else. -/
theorem ends_execute (t : Transcript D) (block : CommandBlock) (fits : block.Fits)
    (phase : DataPhase) (e : Engine σ) :
    Ends (execute block fits phase)
      (fun outcome e' => e'.tag = e.tag + 1 ∧ ∃ new, D e.link new e'.link ∧
        LinkCall.sends new <+: phase.outgoing (phase.wrapper (e.tag + 1) block fits) ∧
        ∀ s, outcome.result = .ok s →
          Completed (phase.wrapper (e.tag + 1) block fits) phase outcome.buffer s new) e := by
  have first : [(phase.wrapper (e.tag + 1) block fits).toOctets] <+:
      phase.outgoing (phase.wrapper (e.tag + 1) block fits) := by
    cases phase with
    | send data => exact List.prefix_append [_] [data]
    | none => exact List.prefix_refl _
    | receive buffer => exact List.prefix_refl _
  refine (gives_nextTag e).bindEnds ?_
  refine Ends.bind (t.ends_sendWrapper (phase.wrapper (e.tag + 1) block fits)
    { e with tag := e.tag + 1 }) ?_
  rintro sent e₁ ⟨new₁, grown₁, sent₁, wrapped⟩
  cases sent with
  | error cause =>
    exact Ends.pure_iff.mpr ⟨grown₁.tag, new₁, grown₁.link, sent₁.trans first, nofun⟩
  | ok _ =>
    obtain ⟨taken, rfl⟩ := wrapped rfl
    refine Ends.bind
      (t.ends_moveData (phase.wrapper (e.tag + 1) block fits) (e.tag + 1) phase e₁) ?_
    rintro ⟨moved, buffer⟩ e₂ ⟨new₂, grown₂, sent₂, done⟩
    have grown := t.andThen grown₁ grown₂
    cases moved with
    | error cause => exact Ends.pure_iff.mpr ⟨grown.tag, _, grown.link, sent₂, nofun⟩
    | ok _ =>
      refine Ends.bind (t.ends_collectStatus (e.tag + 1) e₂) ?_
      rintro result e₃ ⟨new₃, grown₃, silent, accepted⟩
      have grown' := t.andThen grown grown₃
      refine Ends.pure_iff.mpr ⟨grown'.tag, _, grown'.link, ?_, ?_⟩
      · rw [LinkCall.sends_append, silent, List.append_nil]
        exact sent₂
      · intro s ok
        obtain ⟨packet, rfl, own⟩ := accepted s ok
        exact ⟨taken, new₂, packet, rfl, done rfl, own⟩

/-! ### Operations -/

/-- Only status 0 counts as a success. -/
theorem checkStatus_eq_ok {result : Except ExchangeError UInt8} (ok : checkStatus result = .ok ()) :
    result = .ok 0 := by
  cases result with
  | error cause => cases ok
  | ok status =>
    by_cases zero : status = 0
    · rw [zero]
    · rw [checkStatus, if_neg zero] at ok
      cases ok

theorem ends_fill (t : Transcript D) (c : Command) (buffer : List UInt8) (e : Engine σ) :
    Ends (fill c buffer)
      (fun filled e' => e'.tag = e.tag + 1 ∧ ∃ new, D e.link new e'.link ∧
        LinkCall.sends new <+: [(c.wrapper (e.tag + 1) buffer.length).toOctets] ∧
        (filled.result = .ok () → Completed (c.wrapper (e.tag + 1) buffer.length)
          (.receive buffer) filled.buffer 0 new)) e := by
  refine Ends.bind (t.ends_execute c.block c.block_fits (.receive buffer) e) ?_
  rintro outcome e' ⟨tag, new, grown, sent, completed⟩
  refine Ends.pure_iff.mpr ⟨tag, new, grown, sent, ?_⟩
  intro ok
  exact completed 0 (checkStatus_eq_ok ok)

theorem ends_perform (t : Transcript D) (c : Command) (phase : DataPhase) (e : Engine σ) :
    Ends (perform c phase)
      (fun result e' => e'.tag = e.tag + 1 ∧ ∃ new, D e.link new e'.link ∧
        LinkCall.sends new <+: phase.outgoing (phase.wrapper (e.tag + 1) c.block c.block_fits) ∧
        (result = .ok () → ∃ buffer, Completed
          (phase.wrapper (e.tag + 1) c.block c.block_fits) phase buffer 0 new)) e := by
  refine Ends.bind (t.ends_execute c.block c.block_fits phase e) ?_
  rintro outcome e' ⟨tag, new, grown, sent, completed⟩
  refine Ends.pure_iff.mpr ⟨tag, new, grown, sent, ?_⟩
  intro ok
  exact ⟨outcome.buffer, completed 0 (checkStatus_eq_ok ok)⟩

end Transcript

end PlayerLink
