import Mathlib.Tactic.Choose
import PlayerLink.Proofs.Engine.Transcript

/-!
# Dialogues with a device

What steps on a device come to depends on nothing but what the device tells them. `Dialogue` is the
tree of all courses that they may take, and `Conducts` says of steps that they hold such a dialogue,
and what may be called in it. So two runs with the same calls, each of which turned out the same,
end alike. The rules follow the constructors of the monads, and an exchange holds the dialogue that
its stages make up.
-/

namespace PlayerLink

/-- What is called on a link, and how to go on from what is told. Nothing depends on how clearing a
halt turns out. -/
inductive Dialogue (α : Type) where
  | done (a : α)
  | send (octets : List UInt8) (next : Except UsbError Nat → Dialogue α)
  | receive (room : Nat) (next : Except UsbError (List UInt8) → Dialogue α)
  | clearHalt (next : Dialogue α)

namespace Dialogue

variable {α β : Type}

/-- One dialogue and behind it another. -/
def andThen (rest : α → Dialogue β) : Dialogue α → Dialogue β
  | done a => rest a
  | send octets next => send octets fun told => (next told).andThen rest
  | receive room next => receive room fun told => (next told).andThen rest
  | clearHalt next => clearHalt (next.andThen rest)

/-- A dialogue with a link: what it comes to, and the link after it. -/
def hold {σ : Type} [BulkLink σ] : Dialogue α → σ → α × σ
  | done a, l => (a, l)
  | send octets next, l =>
    (next (BulkLink.send octets l).1).hold (BulkLink.send octets l).2
  | receive room next, l =>
    (next (BulkLink.receive room l).1).hold (BulkLink.receive room l).2
  | clearHalt next, l => next.hold (BulkLink.clearHalt l).2

theorem hold_andThen {σ : Type} [BulkLink σ] (d : Dialogue α) (rest : α → Dialogue β) (l : σ) :
    (d.andThen rest).hold l = (rest (d.hold l).1).hold (d.hold l).2 := by
  induction d generalizing l with
  | done a => rfl
  | send octets next ih => exact ih _ _
  | receive room next ih => exact ih _ _
  | clearHalt next ih => exact ih _

/-- The calls of one course of a dialogue with a link that tells its errors as a session does, and
what the dialogue came to. -/
inductive Course : Dialogue α → List LinkCall → α → Prop
  | done (a : α) : Course (.done a) [] a
  | send {octets : List UInt8} {next : Except UsbError Nat → Dialogue α} {calls : List LinkCall}
    {a : α} (outcome : Except UsbError Nat)
    (rest : Course (next (outcome.mapError UsbError.reported)) calls a) :
    Course (.send octets next) (.send octets outcome :: calls) a
  | receive {room : Nat} {next : Except UsbError (List UInt8) → Dialogue α}
    {calls : List LinkCall} {a : α} (outcome : Except UsbError (List UInt8))
    (rest : Course (next (outcome.mapError UsbError.reported)) calls a) :
    Course (.receive room next) (.receive room outcome :: calls) a
  | clearHalt {next : Dialogue α} {calls : List LinkCall} {a : α} (outcome : Except UsbError Unit)
    (rest : Course next calls a) : Course (.clearHalt next) (.clearHalt outcome :: calls) a

/-- The calls and how they turned out decide on what a dialogue comes to. -/
theorem Course.unique {d : Dialogue α} {calls : List LinkCall} {a b : α} (h : Course d calls a)
    (h' : Course d calls b) : a = b := by
  induction h with
  | done a =>
    cases h'
    rfl
  | send outcome rest ih =>
    cases h' with
    | send _ rest' => exact ih rest'
  | receive outcome rest ih =>
    cases h' with
    | receive _ rest' => exact ih rest'
  | clearHalt outcome rest ih =>
    cases h' with
    | clearHalt _ rest' => exact ih rest'

/-- A course of two dialogues is one of the first and then one of the second. -/
theorem Course.of_andThen {d : Dialogue α} {rest : α → Dialogue β} {calls : List LinkCall} {b : β}
    (h : Course (d.andThen rest) calls b) :
    ∃ x y a, calls = x ++ y ∧ Course d x a ∧ Course (rest a) y b := by
  induction d generalizing calls with
  | done a => exact ⟨[], calls, a, rfl, .done a, h⟩
  | send octets next ih =>
    cases h with
    | send outcome h =>
      obtain ⟨x, y, a, rfl, first, second⟩ := ih _ h
      exact ⟨_, y, a, rfl, .send outcome first, second⟩
  | receive room next ih =>
    cases h with
    | receive outcome h =>
      obtain ⟨x, y, a, rfl, first, second⟩ := ih _ h
      exact ⟨_, y, a, rfl, .receive outcome first, second⟩
  | clearHalt next ih =>
    cases h with
    | clearHalt outcome h =>
      obtain ⟨x, y, a, rfl, first, second⟩ := ih h
      exact ⟨_, y, a, rfl, .clearHalt outcome first, second⟩

/-- `talk` holds of the calls of every course. -/
def Keeps (talk : List LinkCall → Prop) (d : Dialogue α) : Prop :=
  ∀ calls a, d.Course calls a → talk calls

/-- A link that keeps a record notes what is called in a dialogue. -/
theorem grown_hold {σ : Type} [BulkLink σ] {D : σ → List LinkCall → σ → Prop} (d : Dialogue α)
    (t : Transcript D) (l : σ) : ∃ new, D l new (d.hold l).2 := by
  induction d generalizing l with
  | done a => exact ⟨[], t.refl l⟩
  | send octets next ih =>
    obtain ⟨new, grown, -⟩ := t.send octets l
    obtain ⟨more, grown'⟩ := ih (BulkLink.send octets l).1 (BulkLink.send octets l).2
    exact ⟨new ++ more, t.trans grown grown'⟩
  | receive room next ih =>
    obtain ⟨new, grown, -⟩ := t.receive room l
    obtain ⟨more, grown'⟩ := ih (BulkLink.receive room l).1 (BulkLink.receive room l).2
    exact ⟨new ++ more, t.trans grown grown'⟩
  | clearHalt next ih =>
    obtain ⟨new, grown, -⟩ := t.clearHalt l
    obtain ⟨more, grown'⟩ := ih (BulkLink.clearHalt l).2
    exact ⟨new ++ more, t.trans grown grown'⟩

end Dialogue

/-! ### Steps that hold a dialogue -/

/-- Everything that is sent with calls is a command that was asked for, in its wrapper. -/
def Says (asks : Command → Prop) (calls : List LinkCall) : Prop :=
  ∀ octets ∈ LinkCall.sends calls, ∃ c tag room, asks c ∧
    octets = (c.wrapper tag room).toOctets

theorem Says.nil (asks : Command → Prop) : Says asks [] := nofun

theorem Says.append {asks : Command → Prop} {a b : List LinkCall} (first : Says asks a)
    (second : Says asks b) : Says asks (a ++ b) := by
  intro octets sent
  rw [LinkCall.sends_append, List.mem_append] at sent
  exact sent.elim (first octets) (second octets)

theorem Says.mono {asks asks' : Command → Prop} {calls : List LinkCall} (h : Says asks calls)
    (weaken : ∀ c, asks c → asks' c) : Says asks' calls := by
  intro octets sent
  obtain ⟨c, tag, room, asked, same⟩ := h octets sent
  exact ⟨c, tag, room, weaken c asked, same⟩

/-- Nothing is sent if no command was asked for. -/
theorem Says.silent {calls : List LinkCall} (h : Says (fun _ => False) calls) :
    LinkCall.sends calls = [] := by
  apply List.eq_nil_iff_forall_not_mem.mpr
  intro octets sent
  obtain ⟨_, _, _, none, -⟩ := h octets sent
  exact none

/-- The calls of one command: its wrapper is sent, and nothing else behind it. -/
def Commanded (c : Command) (room : Nat) (calls : List LinkCall) : Prop :=
  ∃ tag outcome rest, calls = .send (c.wrapper tag room).toOctets outcome :: rest ∧
    LinkCall.sends rest = []

theorem Commanded.says {asks : Command → Prop} {c : Command} {room : Nat} {calls : List LinkCall}
    (h : Commanded c room calls) (asked : asks c) : Says asks calls := by
  obtain ⟨tag, outcome, rest, rfl, silent⟩ := h
  intro octets sent
  rw [LinkCall.sends_cons_send, silent, List.mem_singleton] at sent
  exact ⟨c, tag, room, asked, sent⟩

/-- Steps on a state that has a link hold a dialogue with it, that depends on what is beside the
link only, and `talk` holds of the calls of each course. -/
def Conducts {σ τ κ α : Type} [BulkLink σ] (link : τ → σ) (beside : τ → κ)
    (talk : List LinkCall → Prop) (step : StateT τ LogM α) : Prop :=
  ∃ d : κ → Dialogue (α × κ), (∀ k, (d k).Keeps talk) ∧
    ∀ x, Ends step (fun a y => (d (beside x)).hold (link x) = ((a, beside y), link y)) x

namespace Conducts

variable {σ τ κ α β : Type} [BulkLink σ] {link : τ → σ} {beside : τ → κ}
variable {talk both : List LinkCall → Prop} {asks : Command → Prop}

theorem mono {step : StateT τ LogM α} (h : Conducts link beside talk step)
    (weaken : ∀ calls, talk calls → both calls) : Conducts link beside both step := by
  obtain ⟨d, keeps, holds⟩ := h
  exact ⟨d, fun k calls a course => weaken calls (keeps k calls a course), holds⟩

/-- Steps without a call on the link. -/
theorem of_gives {step : StateT τ LogM α} (nothing : talk []) (answer : κ → α × κ)
    (still : ∀ x, Ends step (fun a y => (a, beside y) = answer (beside x) ∧ link y = link x) x) :
    Conducts link beside talk step := by
  refine ⟨fun k => .done (answer k), ?_, ?_⟩
  · intro k calls a course
    cases course
    exact nothing
  · intro x
    refine (still x).mono ?_
    intro a y ⟨given, same⟩
    rw [Dialogue.hold, given, same]

theorem pure (a : α) (nothing : talk []) : Conducts link beside talk (pure a) :=
  of_gives nothing (fun k => (a, k)) fun _ => Ends.pure_iff.mpr ⟨rfl, rfl⟩

theorem log (text : LogM Unit) (nothing : talk []) : Conducts link beside talk (liftM text) :=
  of_gives nothing (fun k => ((), k)) fun _ => Ends.lift_iff.mpr ⟨rfl, rfl⟩

theorem bind {step : StateT τ LogM α} {next : α → StateT τ LogM β}
    (talk' : List LinkCall → Prop) (first : Conducts link beside talk step)
    (rest : ∀ a, Conducts link beside talk' (next a))
    (join : ∀ x y, talk x → talk' y → both (x ++ y)) :
    Conducts link beside both (step >>= next) := by
  obtain ⟨d, keeps, holds⟩ := first
  choose d' keeps' holds' using rest
  refine ⟨fun k => (d k).andThen fun r => d' r.1 r.2, ?_, ?_⟩
  · intro k calls b course
    obtain ⟨x, y, a, rfl, course, course'⟩ := course.of_andThen
    exact join x y (keeps k x a course) (keeps' a.1 a.2 y b course')
  · intro x
    refine Ends.bind (holds x) ?_
    intro a y held
    refine (holds' a y).mono ?_
    intro b z held'
    rw [Dialogue.hold_andThen, held, held']

theorem ended (a : α) : Conducts link beside (Says asks) (Pure.pure a) := pure a (.nil asks)

theorem logged (text : LogM Unit) : Conducts link beside (Says asks) (liftM text) :=
  log text (.nil asks)

/-- If nothing but what was asked for is said in steps, so it is in all of them. -/
theorem andThen {step : StateT τ LogM α} {next : α → StateT τ LogM β}
    (first : Conducts link beside (Says asks) step)
    (rest : ∀ a, Conducts link beside (Says asks) (next a)) :
    Conducts link beside (Says asks) (step >>= next) :=
  bind _ first rest fun _ _ => Says.append

/-- Without a call in front. -/
theorem afterNone {step : StateT τ LogM α} {next : α → StateT τ LogM β}
    (first : Conducts link beside (· = []) step)
    (rest : ∀ a, Conducts link beside talk (next a)) : Conducts link beside talk (step >>= next) :=
  bind _ first rest fun _ _ none held => none ▸ held

/-- Without a call behind. -/
theorem beforeNone {step : StateT τ LogM α} {next : α → StateT τ LogM β}
    (first : Conducts link beside talk step)
    (rest : ∀ a, Conducts link beside (· = []) (next a)) :
    Conducts link beside talk (step >>= next) :=
  bind _ first rest fun x _ held none => by rwa [none, List.append_nil]

theorem ite {c : Prop} [Decidable c] {yes no : StateT τ LogM α}
    (first : Conducts link beside talk yes) (second : Conducts link beside talk no) :
    Conducts link beside talk (if c then yes else no) := by
  split
  · exact first
  · exact second

/-- The steps of a command that was asked for. -/
theorem asked {step : StateT τ LogM α} {c : Command} {room : Nat}
    (h : Conducts link beside (Commanded c room) step) (asked : asks c) :
    Conducts link beside (Says asks) step :=
  h.mono fun _ said => said.says asked

/-- What steps do on a link that keeps a record only adds to it. -/
theorem adds {step : StateT τ LogM α} (h : Conducts link beside talk step)
    {D : σ → List LinkCall → σ → Prop} (t : Transcript D) (x : τ) :
    Ends step (fun _ y => ∃ new, D (link x) new (link y)) x := by
  obtain ⟨d, -, holds⟩ := h
  refine (holds x).mono ?_
  intro a y held
  obtain ⟨new, grown⟩ := (d (beside x)).grown_hold t (link x)
  rw [held] at grown
  exact ⟨new, grown⟩

end Conducts

/-! ### An exchange -/

namespace Engine

variable {σ : Type} [BulkLink σ] {asks : Command → Prop}

/-- Steps of an engine hold a dialogue. -/
abbrev Conducts {α : Type} (talk : List LinkCall → Prop) (step : EngineM σ α) : Prop :=
  PlayerLink.Conducts Engine.link Engine.tag talk step

theorem conducts_send (octets : List UInt8) :
    Conducts (σ := σ) (fun calls => ∃ outcome, calls = [.send octets outcome])
      (onLink (BulkLink.send octets)) := by
  refine ⟨fun tag => .send octets fun told => .done (told, tag), ?_, fun x _ => rfl⟩
  intro tag calls a course
  cases course with
  | send outcome rest =>
    cases rest
    exact ⟨outcome, rfl⟩

theorem conducts_receive (room : Nat) :
    Conducts (σ := σ) (Says asks) (onLink (BulkLink.receive room)) := by
  refine ⟨fun tag => .receive room fun told => .done (told, tag), ?_, fun x _ => rfl⟩
  intro tag calls a course
  cases course with
  | receive outcome rest =>
    cases rest
    exact nofun

theorem conducts_clearHalt : Conducts (σ := σ) (Says asks) clearHalt := by
  refine ⟨fun tag => .clearHalt (.done ((), tag)), ?_, ?_⟩
  · intro tag calls a course
    cases course with
    | clearHalt outcome rest =>
      cases rest
      exact nofun
  · intro e
    refine (gives_onLink _ e).bindEnds ?_
    cases (BulkLink.clearHalt e.link).1 with
    | ok _ => exact Ends.pure_iff.mpr rfl
    | error cause => exact Ends.lift_iff.mpr rfl

theorem conducts_failFraming (cause : FramingError) :
    Conducts (σ := σ) (Says asks) (failFraming cause) := by
  refine .andThen (.logged _) fun _ => ?_
  exact conducts_clearHalt.andThen fun _ => .ended _

theorem conducts_nextTag : Conducts (σ := σ) (· = []) nextTag :=
  .of_gives rfl (fun tag => (tag + 1, tag + 1)) fun e => (gives_nextTag e).ends ⟨rfl, rfl⟩

theorem conducts_sendWrapper (w : CommandWrapper) :
    Conducts (σ := σ) (fun calls => ∃ outcome, calls = [.send w.toOctets outcome])
      (sendWrapper w) := by
  refine .afterNone (.log _ rfl) fun _ => (conducts_send w.toOctets).beforeNone ?_
  intro told
  cases told with
  | error cause => exact .pure _ rfl
  | ok taken => exact .ite (.afterNone (.log _ rfl) fun _ => .pure _ rfl) (.pure _ rfl)

theorem conducts_statusForData (tag : UInt32) (status : StatusWrapper) :
    Conducts (σ := σ) (Says asks) (statusForData tag status) := by
  refine .ite (.andThen (.logged _) fun _ => .ended _) ?_
  refine .andThen (.logged _) fun _ => ?_
  exact conducts_clearHalt.andThen fun _ => .ended _

theorem conducts_receiveData (tag : UInt32) (buffer : List UInt8) :
    Conducts (σ := σ) (Says asks) (receiveData tag buffer) := by
  refine (conducts_receive buffer.length).andThen ?_
  intro told
  cases told with
  | error cause => exact .ended _
  | ok packet =>
    refine .ite (.ite ?_ ?_) (.ended _)
    · exact (conducts_statusForData tag _).andThen fun _ => .ended _
    · exact .andThen (.logged _) fun _ => .ended _

theorem conducts_pairStatus (tag : UInt32) (packet : List UInt8) :
    Conducts (σ := σ) (Says asks) (pairStatus tag packet) := by
  rw [pairStatus]
  cases StatusWrapper.ofOctets? packet with
  | none => exact conducts_failFraming _
  | some status =>
    refine .ite (conducts_failFraming _) (.ite (conducts_failFraming _) ?_)
    exact .andThen (.logged _) fun _ => .ended _

theorem conducts_collectStatus (tag : UInt32) :
    Conducts (σ := σ) (Says asks) (collectStatus tag) := by
  refine (conducts_receive StatusWrapper.size).andThen ?_
  intro told
  cases told with
  | error cause => exact .ended _
  | ok packet => exact conducts_pairStatus tag packet

theorem conducts_moveData (tag : UInt32) {phase : DataPhase} (inward : ∀ data, phase ≠ .send data) :
    Conducts (σ := σ) (Says asks) (moveData tag phase) := by
  cases phase with
  | none => exact .ended _
  | receive buffer => exact .ite (.ended _) (conducts_receiveData tag buffer)
  | send data => exact absurd rfl (inward data)

/-- A command that sends no data. -/
theorem conducts_run (c : Command) (phase : DataPhase) (inward : ∀ data, phase ≠ .send data) :
    Conducts (σ := σ) (Commanded c phase.length) (run c phase) := by
  have same (tag : UInt32) : phase.wrapper tag c.block c.block_fits = c.wrapper tag phase.length := by
    cases phase with
    | none => rfl
    | receive buffer => rfl
    | send data => exact absurd rfl (inward data)
  refine conducts_nextTag.afterNone fun tag => ?_
  refine .bind (Says fun _ => False)
    (conducts_sendWrapper (phase.wrapper tag c.block c.block_fits)) ?_ ?_
  · intro sent
    cases sent with
    | error cause => exact .ended _
    | ok _ =>
      refine (conducts_moveData tag inward).andThen ?_
      rintro ⟨moved, buffer⟩
      cases moved with
      | error cause => exact .ended _
      | ok _ => exact (conducts_collectStatus tag).andThen fun _ => .ended _
  · rintro _ rest ⟨outcome, rfl⟩ quiet
    rw [same]
    exact ⟨tag, outcome, rest, rfl, quiet.silent⟩

/-! ### Operations -/

theorem conducts_fill (c : Command) (buffer : List UInt8) :
    Conducts (σ := σ) (Commanded c buffer.length) (fill c buffer) :=
  (conducts_run c (.receive buffer) nofun).beforeNone fun _ => .pure _ rfl

theorem conducts_perform (c : Command) :
    Conducts (σ := σ) (Commanded c 0) (perform c .none) :=
  (conducts_run c .none nofun).beforeNone fun _ => .pure _ rfl

theorem conducts_identify :
    Conducts (σ := σ) (Commanded .identify Identity.size) identify := by
  refine .beforeNone (conducts_run .identify (.receive (List.replicate Identity.size 0)) nofun) ?_
  rintro ⟨result, buffer⟩
  cases result with
  | error cause => exact .pure _ rfl
  | ok status =>
    refine .ite (.afterNone (.log _ rfl) fun _ => .pure _ rfl) ?_
    cases Identity.ofOctets? buffer with
    | none => exact .pure _ rfl
    | some identity =>
      exact .ite (.afterNone (.log _ rfl) fun _ => .pure _ rfl)
        (.afterNone (.log _ rfl) fun _ => .pure _ rfl)

theorem conducts_initialise : Conducts (σ := σ) (Commanded .initialise 1) initialise :=
  (conducts_fill .initialise [0]).beforeNone fun _ => .pure _ rfl

theorem conducts_detachQuietly : Conducts (σ := σ) (Commanded .detach 0) detachQuietly := by
  refine (conducts_perform .detach).beforeNone ?_
  intro result
  cases result with
  | ok _ => exact .pure _ rfl
  | error cause => exact .afterNone (.log _ rfl) fun _ => .pure _ rfl

end Engine

end PlayerLink
