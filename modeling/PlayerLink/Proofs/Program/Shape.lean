import PlayerLink.Proofs.Program.Guarding

/-!
# The shape of a session in service mode

A session starts with IDENTIFY, goes on to the command that switches the player into service mode
only if the player was identified, and to the work itself only if it entered service mode. DETACH
ends a session if that was asked for, however it went, and is not sent otherwise.

What a run comes to and what it leaves in the working folder is settled before the DETACH: two runs
in which all calls up to there turned out the same end alike, whatever the DETACH is answered.
-/

namespace PlayerLink

open RunM StatusWrapper

/-- Calls in which the player said that it entered service mode, with success. -/
def Initialised (calls : List LinkCall) : Prop :=
  ∃ tag taken answer status,
    calls = [.send (Command.initialise.wrapper tag 1).toOctets (.ok taken),
      .receive 1 (.ok answer), .receive StatusWrapper.size (.ok status)] ∧
    answer.head? = some Engine.ready ∧ Accepted tag 0 status

/-- How the calls of a session follow one another up to the end of the work. -/
structure Phases (asks : Command → Prop) (identify initialise body : List LinkCall) : Prop where
  identified : Commanded .identify Identity.size identify
  initialised : initialise = [] ∨ Identified identify ∧ Commanded .initialise 1 initialise
  worked : body = [] ∨ Initialised initialise ∧ Says asks body

/-- How all calls of a session follow one another: nothing but DETACH is sent behind the work. -/
structure SessionShape (detach : Bool) (asks : Command → Prop)
    (identify initialise body last : List LinkCall) : Prop
    extends Phases asks identify initialise body where
  detached : if detach then Commanded .detach 0 last else last = []

/-! ### Up to DETACH -/

/-- Whether a call sends DETACH. -/
def LinkCall.detaches (c : LinkCall) : Bool :=
  (c.sent?.bind CommandWrapper.ofOctets?).any fun w => w.opcode = Command.detach.opcode

/-- The calls up to the first DETACH. -/
def beforeDetach (calls : List LinkCall) : List LinkCall := calls.takeWhile fun c => !c.detaches

theorem LinkCall.detaches_send (c : Command) (tag : UInt32) (room : Nat)
    (outcome : Except UsbError Nat) :
    (send (c.wrapper tag room).toOctets outcome).detaches =
      decide (c.opcode = Command.detach.opcode) := by
  rw [detaches, sent?, Option.bind_some, CommandWrapper.ofOctets?_toOctets, Option.any_some,
    Command.wrapper, CommandWrapper.opcode_wrap]

/-- No other command has the opcode of DETACH. -/
theorem Command.eq_detach_of_opcode {c : Command} (same : c.opcode = detach.opcode) :
    c = detach := by
  cases c with
  | detach => rfl
  | readSector lun address area => cases area <;> simp [opcode] at same
  | _ => simp [opcode] at same

/-- Where DETACH is not asked for, it is not sent. -/
theorem Says.detaches_eq_false {asks : Command → Prop} {calls : List LinkCall} (h : Says asks calls)
    (others : ¬ asks .detach) : ∀ c ∈ calls, c.detaches = false := by
  intro call there
  cases call with
  | send octets outcome =>
    obtain ⟨c, tag, room, asked, rfl⟩ := h octets (LinkCall.mem_sends.mpr ⟨outcome, there⟩)
    rw [LinkCall.detaches_send]
    apply decide_eq_false
    intro same
    rw [Command.eq_detach_of_opcode same] at asked
    exact others asked
  | receive room outcome => rfl
  | clearHalt outcome => rfl

variable {asks : Command → Prop} {identify initialise body last : List LinkCall}

theorem Phases.detaches_eq_false (h : Phases asks identify initialise body)
    (others : ¬ asks .detach) :
    ∀ c ∈ identify ++ initialise ++ body, c.detaches = false := by
  have only (c : Command) (other : .detach ≠ c) {room : Nat} {calls : List LinkCall}
      (said : Commanded c room calls) : ∀ c ∈ calls, c.detaches = false := by
    have own : Says (· = c) calls := said.says rfl
    exact own.detaches_eq_false other
  intro c there
  rw [List.mem_append, List.mem_append] at there
  rcases there with (first | second) | third
  · exact only .identify nofun h.identified c first
  · cases h.initialised with
    | inl none =>
      rw [none] at second
      cases second
    | inr some => exact only .initialise nofun some.2 c second
  · cases h.worked with
    | inl none =>
      rw [none] at third
      cases third
    | inr some => exact some.2.detaches_eq_false others c third

theorem SessionShape.beforeDetach_eq {detach : Bool}
    (h : SessionShape detach asks identify initialise body last)
    (others : ¬ asks .detach) :
    beforeDetach (identify ++ initialise ++ body ++ last) = identify ++ initialise ++ body := by
  have spared : ∀ c ∈ identify ++ initialise ++ body, (!c.detaches) = true := by
    intro c there
    rw [h.detaches_eq_false others c there, Bool.not_false]
  have none : last.takeWhile (fun c => !c.detaches) = [] := by
    have detached := h.detached
    by_cases asked : detach
    · rw [if_pos asked] at detached
      obtain ⟨tag, outcome, rest, rfl, -⟩ := detached
      rw [List.takeWhile_cons, LinkCall.detaches_send]
      rfl
    · rw [if_neg asked] at detached
      rw [detached, List.takeWhile_nil]
  rw [beforeDetach, List.takeWhile_append_of_pos spared, none, List.append_nil]

theorem countP_detaches_eq_zero {calls : List LinkCall} (none : ∀ c ∈ calls, c.detaches = false) :
    calls.countP LinkCall.detaches = 0 := by
  rw [List.countP_eq_zero]
  intro c there
  rw [none c there]
  exact Bool.false_ne_true

/-- DETACH is sent once if that was asked for, and never otherwise. -/
theorem SessionShape.countP_detaches {detach : Bool}
    (h : SessionShape detach asks identify initialise body last)
    (others : ¬ asks .detach) :
    (identify ++ initialise ++ body ++ last).countP LinkCall.detaches = if detach then 1 else 0 := by
  have before := countP_detaches_eq_zero (h.detaches_eq_false others)
  have detached := h.detached
  rw [List.countP_append, before, Nat.zero_add]
  by_cases asked : detach
  · rw [if_pos asked] at detached ⊢
    obtain ⟨tag, outcome, rest, rfl, silent⟩ := detached
    have first : (LinkCall.send (Command.detach.wrapper tag 0).toOctets outcome).detaches = true :=
      LinkCall.detaches_send .detach tag 0 outcome
    have quiet : Says (fun _ => False) rest := by
      rw [Says, silent]
      exact nofun
    have none := countP_detaches_eq_zero (quiet.detaches_eq_false id)
    rw [List.countP_cons_of_pos first, none]
  · rw [if_neg asked] at detached ⊢
    rw [detached, List.countP_nil]

/-! ### Entering service mode -/

/-- A session that opened has its device, and opening called none. -/
theorem Opens.present {δ : Type} {id : DeviceId} {bus : Bus δ} {session : Session δ}
    (opens : Opens id bus session) : session.Present ∧ session.bus.links = bus.links := by
  obtain ⟨device, found, opened, handle, find, openDevice, claim⟩ := opens
  have same₁ := (find.holds (Storage.ends_find _ _ bus)).untouched
  obtain ⟨same₂, there⟩ := openDevice.holds (Storage.ends_openDevice device found)
  obtain ⟨own, has⟩ := there handle rfl
  have idle := claim.holds (Session.ends_claim ⟨opened, handle⟩)
  refine ⟨?_, ((same₁.trans same₂).trans idle.bus).links⟩
  rw [Session.Present, idle.device, own]
  exact has.of_links_eq idle.bus.links

/-- A player that entered service mode said so in its answer. -/
theorem head?_of_overlay {packet : List UInt8}
    (ready : (overlay packet [0]).headD 0 = Engine.ready) : packet.head? = some Engine.ready := by
  cases packet with
  | nil => exact absurd ready (by decide)
  | cons b rest => exact congrArg some ready

/-- The player is switched into service mode with success only if it says so. -/
theorem Transcript.ends_initialise {σ : Type} [BulkLink σ] {D : σ → List LinkCall → σ → Prop}
    (t : Transcript D) (e : Engine σ) :
    Ends Engine.initialise
      (fun result e' => ∃ new, D e.link new e'.link ∧ (result = .ok () → Initialised new)) e := by
  refine Ends.bind (t.ends_fill .initialise [0] e) ?_
  rintro ⟨result, buffer⟩ e' ⟨-, new, grown, -, completed⟩
  refine Ends.pure_iff.mpr ⟨new, grown, ?_⟩
  intro ok
  cases result with
  | error cause => cases ok
  | ok _ =>
    have ready : buffer.headD 0 = Engine.ready := by
      by_contra other
      change (if buffer.headD 0 = Engine.ready then _ else _) = _ at ok
      rw [if_neg other] at ok
      cases ok
    obtain ⟨taken, moved, packet, rfl, stage, accepted⟩ := completed rfl
    cases stage with
    | received answer _ _ =>
      exact ⟨e.tag + 1, taken, answer, packet, rfl, head?_of_overlay ready, accepted⟩

section

variable {δ : Type} [BulkLink δ] {e : Engine (Session (Recorded δ))}

theorem ends_identify_made (present : e.link.Present) :
    Ends Engine.identify (fun result e' => ∃ calls, e.link.Made calls e'.link ∧
      Commanded .identify Identity.size calls ∧ ∀ i, result = .ok i → Identified calls) e := by
  intro log
  obtain ⟨calls, made, commanded⟩ := Engine.conducts_identify.ends_made present log
  obtain ⟨new, grown, _, identified⟩ := Session.transcript.ends_identify e log
  refine ⟨calls, made, commanded, ?_⟩
  rw [made.grown.unique grown]
  exact identified

theorem ends_initialise_made (present : e.link.Present) :
    Ends Engine.initialise (fun result e' => ∃ calls, e.link.Made calls e'.link ∧
      Commanded .initialise 1 calls ∧ (result = .ok () → Initialised calls)) e := by
  intro log
  obtain ⟨calls, made, commanded⟩ := Engine.conducts_initialise.ends_made present log
  obtain ⟨new, grown, initialised⟩ := Session.transcript.ends_initialise e log
  refine ⟨calls, made, commanded, ?_⟩
  rw [made.grown.unique grown]
  exact initialised

variable {work : ServiceM (Recorded δ) Unit}

theorem ends_enterServiceMode_made (present : e.link.Present) (desk : Desk) :
    Ends (enterServiceMode : ServiceM (Recorded δ) Unit).run
      (fun outcome x => ∃ identify initialise, e.link.Made (identify ++ initialise) x.1.link ∧
        Phases (fun _ => False) identify initialise [] ∧
        (outcome = .ok () → Initialised initialise))
      (e, desk) := by
  refine Ends.bindExcept ((ends_identify_made present).require _ desk) ?_ ?_
  · rintro _ ⟨u, _⟩ ⟨r, outcome, ⟨identify, made, said, identified⟩, rfl⟩
    cases r with
    | error cause => cases outcome
    | ok i =>
      refine Ends.bindExcept_lift (((ends_initialise_made made.present).require _ _).mono ?_)
      rintro _ v ⟨r, rfl, ⟨initialise, made', said', initialised⟩, -⟩
      refine ⟨identify, initialise, made.trans made',
        ⟨said, Or.inr ⟨identified i rfl, said'⟩, Or.inl rfl⟩, ?_⟩
      intro ok
      cases r with
      | error cause => cases ok
      | ok _ => exact initialised rfl
  · rintro f ⟨u, _⟩ ⟨r, outcome, ⟨identify, made, said, -⟩, rfl⟩
    refine ⟨identify, [], ?_, ⟨said, Or.inl rfl, Or.inl rfl⟩, nofun⟩
    rw [List.append_nil]
    exact made

/-- However a session goes up to the end of the work, its calls have their order. -/
theorem ends_phases (conducts : ConductsRun asks work) (present : e.link.Present) (desk : Desk) :
    Ends (do enterServiceMode; work : ServiceM (Recorded δ) Unit).run
      (fun _ x => ∃ identify initialise body,
        e.link.Made (identify ++ initialise ++ body) x.1.link ∧
        Phases asks identify initialise body) (e, desk) := by
  refine Ends.bindExcept (ends_enterServiceMode_made present desk) ?_ ?_
  · rintro _ ⟨u, d⟩ ⟨identify, initialise, made, phases, initialised⟩
    refine (conducts.ends_made (x := (u, d)) made.present).mono ?_
    rintro _ v ⟨body, made', said⟩
    exact ⟨identify, initialise, body, made.trans made',
      ⟨phases.identified, phases.initialised, Or.inr ⟨initialised rfl, said⟩⟩⟩
  · rintro f ⟨u, d⟩ ⟨identify, initialise, made, phases, -⟩
    refine ⟨identify, initialise, [], ?_, ⟨phases.identified, phases.initialised, Or.inl rfl⟩⟩
    rw [List.append_nil]
    exact made

/-- From one desk, all sessions in service mode with the same work are courses of one dialogue. -/
theorem exists_dialogue_phases (conducts : ConductsRun asks work) (desk : Desk) :
    ∃ d : Dialogue (Except Failure Unit × (UInt32 × Desk)), ∀ session : Session (Recorded δ),
      session.Present →
      Ends (do enterServiceMode; work : ServiceM (Recorded δ) Unit).run
        (fun outcome x => ∃ identify initialise body,
          session.Made (identify ++ initialise ++ body) x.1.link ∧
          Phases asks identify initialise body ∧
          ∃ tag, d.Course (identify ++ initialise ++ body) (outcome, (tag, x.2)))
        ({ link := session }, desk) := by
  obtain ⟨d, courses⟩ := (conducts_session conducts).exists_course
  refine ⟨d (0, desk), ?_⟩
  intro session present log
  obtain ⟨identify, initialise, body, made, phases⟩ :=
    ends_phases (e := { link := session }) conducts present desk log
  obtain ⟨calls, made', -, course⟩ := courses ({ link := session }, desk) present log
  rw [made'.grown.unique made.grown] at course
  exact ⟨identify, initialise, body, made, phases, _, course⟩

/-- The same of whole runs, with DETACH behind the work if that was asked for. -/
theorem exists_dialogue {service : ServiceTarget} {run : ProgramM (Recorded δ) Unit}
    (serves : Serves service asks run) (desk : Desk) :
    ∃ d : Dialogue (Except Failure Unit × (UInt32 × Desk)), ∀ bus session,
      Opens service.target.device bus session →
      Ends run.run (fun outcome x => ∃ identify initialise body last,
        SessionShape service.detach asks identify initialise body last ∧
        x.1.record session.handle.device.position =
          bus.record session.handle.device.position ++ (identify ++ initialise ++ body ++ last) ∧
        ∃ tag desk', d.Course (identify ++ initialise ++ body) (outcome, (tag, desk')) ∧
          x.2.folder = desk'.folder) (bus, desk) := by
  obtain ⟨work, rfl, conducts⟩ := serves
  obtain ⟨d, courses⟩ := exists_dialogue_phases conducts desk
  refine ⟨d, ?_⟩
  intro bus session opens
  obtain ⟨present, same⟩ := opens.present
  refine ends_withTarget _ opens (Ends.bindExcept_step (courses session present) ?_)
  rintro outcome ⟨u, desk'⟩ ⟨identify, initialise, body, made, phases, tag, course⟩
  refine (ends_detaching service.detach outcome
    (Engine.conducts_detachQuietly.ends_made made.present) desk').mono ?_
  rintro _ x ⟨rfl, told, texts, shown⟩ b closed
  have last : ∃ last, session.Made (identify ++ initialise ++ body ++ last) x.1.link ∧
      if service.detach then Commanded .detach 0 last else last = [] := by
    by_cases detach : service.detach
    · rw [if_pos detach] at told
      obtain ⟨_, last, made', said⟩ := told
      exact ⟨last, made.trans made', by rwa [if_pos detach]⟩
    · rw [if_neg detach] at told
      refine ⟨[], ?_, by rw [if_neg detach]⟩
      rw [told, List.append_nil]
      exact made
  obtain ⟨last, all, detached⟩ := last
  refine ⟨identify, initialise, body, last, ⟨phases, detached⟩, ?_, tag, desk', course,
    shown.folder⟩
  rw [Bus.record_eq closed.links, all.grown.bus.here, Bus.record_eq same]

/-- DETACH is no part of the work. -/
theorem Invocation.not_asks_detach (invocation : Invocation) : ¬ invocation.Asks .detach := by
  cases invocation <;> simp [Invocation.Asks]

/-- Whatever the device does, whatever is asked of a player in service mode and however it ends,
once the device was opened and claimed: its record grows by the calls of IDENTIFY, then of the
command that switches the player into service mode if IDENTIFY went well, then of the commands of
the work if the player entered service mode, and then of DETACH if that was asked for; DETACH is
sent once then and never otherwise. Another run from the same desk, on any bus, in which the calls
up to DETACH are the same and turn out the same, comes to the same and leaves the same files. -/
theorem session_shape {invocation : Invocation} {service : ServiceTarget}
    (asked : invocation.service? = some service) (usable : invocation.Usable)
    {bus bus' : Bus (Recorded δ)} {session session' : Session (Recorded δ)}
    (opens : Opens service.target.device bus session)
    (opens' : Opens service.target.device bus' session') (desk : Desk) :
    Ends invocation.run.run (fun outcome x => ∃ identify initialise body last,
      SessionShape service.detach invocation.Asks identify initialise body last ∧
      x.1.record session.handle.device.position =
        bus.record session.handle.device.position ++ (identify ++ initialise ++ body ++ last) ∧
      (identify ++ initialise ++ body ++ last).countP LinkCall.detaches =
        (if service.detach then 1 else 0) ∧
      Ends invocation.run.run (fun outcome' x' => ∀ calls',
        x'.1.record session'.handle.device.position =
          bus'.record session'.handle.device.position ++ calls' →
        beforeDetach calls' = beforeDetach (identify ++ initialise ++ body ++ last) →
        outcome' = outcome ∧ x'.2.folder = x.2.folder) (bus', desk)) (bus, desk) := by
  have others := invocation.not_asks_detach
  obtain ⟨d, courses⟩ := exists_dialogue (Invocation.serves (δ := Recorded δ) asked usable) desk
  refine (courses bus session opens).mono ?_
  intro outcome x ⟨identify, initialise, body, last, shape, record, tag, d₁, course, folder⟩
  refine ⟨identify, initialise, body, last, shape, record, shape.countP_detaches others, ?_⟩
  refine (courses bus' session' opens').mono ?_
  intro outcome' x' ⟨identify', initialise', body', last', shape', record', tag', d₂, course',
    folder'⟩ calls' noted same
  rw [record', List.append_cancel_left_eq] at noted
  rw [← noted, shape'.beforeDetach_eq others, shape.beforeDetach_eq others] at same
  rw [same] at course'
  cases course.unique course'
  exact ⟨rfl, folder'.trans folder.symm⟩

end

/-- A bus with a player that is ready to go on at an entry point, and what it answers DETACH. -/
def entering (last : List (Except UsbError (List UInt8))) : Bus (Recorded Playback) where
  devices := [.plain ⟨0x10D6, 0x1101⟩
    { link :=
      { reads := [.ok (Identity.compatibleName.toList ++ [0, 0]), .ok (make 1 0 0).toOctets,
          .ok [Engine.ready], .ok (make 2 0 0).toOctets, .ok (make 3 0 0).toOctets] ++ last } }]

/-- DETACH is not answered in one run and answered in the other. -/
theorem session_shape_entering :
    let enter : Invocation := .enter ⟨⟨⟨0x10D6, 0x1101⟩, 0⟩, true⟩ 0x1234
    let answered : Bus (Recorded Playback) := entering [.ok (make 4 0 0).toOctets]
    ∃ session session', Opens ⟨0x10D6, 0x1101⟩ (entering []) session ∧
      Opens ⟨0x10D6, 0x1101⟩ answered session' ∧
      Ends enter.run.run (fun outcome x => ∃ identify initialise body last,
        SessionShape true enter.Asks identify initialise body last ∧
        x.1.record session.handle.device.position =
          (entering []).record session.handle.device.position ++
            (identify ++ initialise ++ body ++ last) ∧
        (identify ++ initialise ++ body ++ last).countP LinkCall.detaches = 1 ∧
        Ends enter.run.run (fun outcome' x' => ∀ calls',
          x'.1.record session'.handle.device.position =
            answered.record session'.handle.device.position ++ calls' →
          beforeDetach calls' = beforeDetach (identify ++ initialise ++ body ++ last) →
          outcome' = outcome ∧ x'.2.folder = x.2.folder) (answered, {})) (entering [], {}) := by
  intro enter answered
  obtain ⟨session, opens, _⟩ := exists_opens (δ := Recorded Playback) ⟨0x10D6, 0x1101⟩ (by decide) _
  obtain ⟨session', opens', _⟩ := exists_opens (δ := Recorded Playback) ⟨0x10D6, 0x1101⟩ (by decide) _
  have fits : enter.Usable := (by decide : 0x1234 ≤ 0xFFFF)
  exact ⟨session, session', opens, opens', session_shape rfl fits opens opens' {}⟩

end PlayerLink
