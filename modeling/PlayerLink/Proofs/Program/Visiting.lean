import PlayerLink.Proofs.Program.Conduct
import PlayerLink.Proofs.Program.Session
import PlayerLink.Proofs.Usb.Visits
import PlayerLink.Simulation.Playback

/-!
# What runs leave on the bus

Work on a device is a visit: the device is opened, its interface claimed, a dialogue held, the
interface released and the device closed, and wherever this comes to an end early, what was begun is
undone. Every run is a sequence of visits, whatever the devices do and however the run ends.
-/

namespace PlayerLink

open RunM

variable {δ α β : Type}

section

variable [BulkLink δ]

/-! ### One visit -/

/-- How far work on a device got. -/
inductive Reached (β : Type) where
  | unopened (cause : StorageError)
  | unclaimed (cause : StorageError)
  | done (b : β)

/-- How the work ended and what it left on the desk, given how far it got. -/
def Reached.Ended (openFailed claimFailed : StorageError → Failure) (desk : Desk)
    (post : β → Except Failure α → Desk → Prop) (outcome : Except Failure α) (desk' : Desk) :
    Reached β → Prop
  | unopened cause => outcome = .error (openFailed cause) ∧ desk' = desk
  | unclaimed cause => outcome = .error (claimFailed cause) ∧ desk' = desk
  | done b => post b outcome desk'

/-- Work on an open device is a dialogue with it. How it ends and what it leaves on the desk follows
from what the dialogue comes to. -/
def Holds (talk : Dialogue β) (desk : Desk) (post : β → Except Failure α → Desk → Prop)
    (work : ServiceM δ α) : Prop :=
  ∀ session, Ends work.run (fun outcome x => x.1.link = (talk.hold session).2 ∧
    post (talk.hold session).1 outcome x.2) ({ link := session }, desk)

/-- A device is visited for a dialogue: what the visit is like, how far the work gets, and what
state the device is in afterwards. -/
inductive Visited (talk : Dialogue β) (interface : UInt8) (a : AttachedDevice δ) :
    Visit → Reached β → AttachedDevice δ → Prop
  | unopened {fault : UsbError} {a' : AttachedDevice δ} (same : a.Untouched a') :
    Visited talk interface a (.refused fault) (.unopened (.openFailed fault.reported)) a'
  | unclaimed {detached surrendered : Option UsbError} {fault : UsbError} {a' : AttachedDevice δ}
    (same : a.Untouched a') :
    Visited talk interface a (.made interface detached [.refused fault] surrendered)
      (.unclaimed (Session.refusal interface fault)) a'
  | done {detached released surrendered : Option UsbError} {transfers : List Transfer}
    {a₁ a' : AttachedDevice δ} (before : a.Untouched a₁) (after : (talk.hold a₁).2.Untouched a') :
    Visited talk interface a
      (.made interface detached [.claimed transfers released] surrendered)
      (.done (talk.hold a₁).1) a'

/-- What becomes of work on a device depends on nothing but the device, wherever it is on whatever
bus. -/
theorem exists_visited (d : StorageDevice) (a : AttachedDevice δ) (talk : Dialogue β) :
    ∃ visit reached a', Visited talk d.storage.number a visit reached a' ∧
      ∀ (position : Nat) (bus : Bus δ) (openFailed claimFailed : StorageError → Failure)
        (work : ServiceM δ α) (desk : Desk) (post : β → Except Failure α → Desk → Prop),
        bus.devices[position]? = some a → Holds talk desk post work →
        Ends (withDevice (d.placed position) openFailed claimFailed work).run
          (fun outcome x => Bus.Worked position bus (visit.events position) a' x.1 ∧
            reached.Ended openFailed claimFailed desk post outcome x.2) (bus, desk) := by
  rcases opening : a.outcome .opening with ⟨_ | fault, a₁⟩
  · obtain ⟨a₂, detached, opened, opens⟩ := Storage.exists_openDevice d opening
    rcases claiming : a₂.outcome .claim with ⟨_ | fault, a₃⟩
    · have claims : Session.Does Session.claim d a₂ { detached } (.ok ()) a₃
          { detached, claim := some [] } := Session.does_claim_of_made d rfl claiming
      obtain ⟨transfers, held⟩ := Session.exists_hold talk d a₃ { detached, claim := some [] }
      obtain ⟨a₅, released, surrendered, closed, closes⟩ := Session.exists_close d (talk.hold a₃).2
        (Past.transfer transfers { detached, claim := some [] })
      have before := opened.trans (AttachedDevice.untouched_of_outcome claiming)
      refine ⟨.made d.storage.number detached [.claimed transfers released] surrendered,
        .done (talk.hold a₃).1, a₅, .done before closed, ?_⟩
      intro position bus openFailed claimFailed work desk post there holds
      refine ends_withDevice_of_claimed _ (opens position bus there)
        (fun b stands => claims bus position _ stands) ?_
      intro session stands
      obtain ⟨told, stands⟩ := held bus position session stands
      refine (holds session).mono ?_
      rintro outcome x ⟨link, ended⟩ log
      rw [← link] at stands
      rw [told] at ended
      exact ⟨closes bus position x.1.link stands log, ended⟩
    · have claims : Session.Does Session.claim d a₂ { detached }
          (.error (Session.refusal d.storage.number fault)) a₃ (Past.refuse fault { detached }) :=
        Session.does_claim_of_refused d rfl claiming
      obtain ⟨a₄, released, surrendered, closed, closes⟩ := Session.exists_close d a₃
        (Past.refuse fault { detached })
      have same := (opened.trans (AttachedDevice.untouched_of_outcome claiming)).trans closed
      refine ⟨.made d.storage.number detached [.refused fault] surrendered,
        .unclaimed (Session.refusal d.storage.number fault), a₄, .unclaimed same, ?_⟩
      intro position bus openFailed claimFailed work desk post there _
      refine ends_withDevice_of_unclaimed _ (Session.refusal d.storage.number fault)
        (opens position bus there) ?_
      intro b stands
      refine (claims bus position _ stands).mono ?_
      rintro r s ⟨told, stands⟩
      exact ⟨told, fun log => ⟨closes bus position s stands log, rfl, rfl⟩⟩
  · refine ⟨.refused fault, .unopened (.openFailed fault.reported), a₁,
      .unopened (AttachedDevice.untouched_of_outcome opening), ?_⟩
    intro position bus openFailed claimFailed work desk post there _
    refine ends_withDevice_of_unopened _ (.openFailed fault.reported) ?_
    refine (Storage.ends_openDevice_of_refused (d := d) opening there).mono ?_
    exact fun r b told => ⟨told.1, told.2, rfl, rfl⟩

/-! ### Work as a dialogue -/

/-- In what follows a dialogue anything may be said. -/
theorem Conducts.freely {σ τ κ : Type} [BulkLink σ] {link : τ → σ} {beside : τ → κ}
    {talk : List LinkCall → Prop} {step : StateT τ LogM α} {next : α → StateT τ LogM β}
    (first : Conducts link beside talk step)
    (rest : ∀ a, Conducts link beside (fun _ => True) (next a)) :
    Conducts link beside (fun _ => True) (step >>= next) :=
  .bind (fun _ => True) first rest fun _ _ _ _ => True.intro

/-- Work on an open device is a dialogue with it, in which anything may be said. -/
abbrev Converses (work : ServiceM δ α) : Prop :=
  Conducts (fun x : Engine (Session δ) × Desk => x.1.link) (fun x => (x.1.tag, x.2))
    (fun _ => True) work.run

theorem ConductsRun.converses {asks : Command → Prop} {work : ServiceM δ α}
    (h : ConductsRun asks work) : Converses work :=
  h.mono fun _ _ => True.intro

namespace Converses

variable {work : ServiceM δ α}

theorem bind {next : α → ServiceM δ β} (first : Converses work)
    (rest : ∀ a, Converses (next a)) : Converses (work >>= next) := by
  show Conducts _ _ _ (work.run >>= ExceptT.bindCont next)
  refine first.freely ?_
  intro outcome
  cases outcome with
  | ok a => exact rest a
  | error f => exact .pure _ True.intro

theorem log (text : LogM Unit) : Converses (liftM text : ServiceM δ Unit) :=
  have said : ConductsRun (fun _ => True) (liftM text : ServiceM δ Unit) := .log text
  said.converses

theorem say (text : String) : Converses (say text : ServiceM δ Unit) :=
  have said : ConductsRun (fun _ => True) (RunM.say text : ServiceM δ Unit) := .say text
  said.converses

theorem pure (a : α) : Converses (pure a : ServiceM δ α) :=
  have given : ConductsRun (fun _ => True) (Pure.pure a : ServiceM δ α) := .pure a
  given.converses

theorem identify : Converses (onDevice Engine.identify : ServiceM δ _) :=
  have asked : ConductsRun (fun _ => True) (onDevice Engine.identify : ServiceM δ _) :=
    .lift (Engine.conducts_identify.asked True.intro).onDevice
  asked.converses

theorem require {ε : Type} {step : EngineM (Session δ) (Except ε α)} {talk : List LinkCall → Prop}
    (h : Engine.Conducts talk step) (fail : ε → Failure) : Converses (require step fail) :=
  h.onDevice.freely fun _ => .pure _ True.intro

theorem exists_holds (h : Converses work) (desk : Desk) :
    ∃ talk : Dialogue (Except Failure α × (UInt32 × Desk)),
      Holds talk desk (fun _ _ _ => True) work := by
  obtain ⟨d, -, held⟩ := h
  refine ⟨d (0, desk), fun session => ?_⟩
  refine (held ({ link := session }, desk)).mono ?_
  intro outcome x same
  exact ⟨congrArg Prod.snd same.symm, True.intro⟩

end Converses

namespace Engine

theorem conducts_query (c : Command) (size : Nat) (name : String)
    (interpret : List UInt8 → Option α) :
    Conducts (σ := δ) (Commanded c (List.replicate size (0 : UInt8)).length)
      (query c size name interpret) :=
  (conducts_fill c (List.replicate size 0)).beforeNone fun _ => .pure _ rfl

theorem conducts_sendData (data : List UInt8) :
    Conducts (σ := δ) (fun _ => True) (sendData data) := by
  refine (conducts_send data).freely ?_
  intro told
  cases told with
  | error cause => exact .pure _ True.intro
  | ok taken =>
    have warned (text : LogM Unit) : Conducts (σ := δ) (fun _ => True) text := .log text True.intro
    exact .ite ((warned _).freely fun _ => .pure _ True.intro) (.pure _ True.intro)

/-- A command that sends data holds a dialogue as well. -/
theorem conducts_perform_sending (c : Command) (data : List UInt8) :
    Conducts (σ := δ) (fun _ => True) (perform c (.send data)) := by
  have status (tag : UInt32) : Conducts (σ := δ) (Says fun _ => True) (collectStatus tag) :=
    conducts_collectStatus tag
  have moved (tag : UInt32) : Conducts (σ := δ) (fun _ => True) (moveData tag (.send data)) :=
    .ite (.pure _ True.intro) ((conducts_sendData data).freely fun _ => .pure _ True.intro)
  have ran : Conducts (σ := δ) (fun _ => True) (run c (.send data)) := by
    refine conducts_nextTag.freely fun tag => (conducts_sendWrapper _).freely ?_
    intro sent
    cases sent with
    | error cause => exact .pure _ True.intro
    | ok _ =>
      refine (moved tag).freely ?_
      rintro ⟨outcome, buffer⟩
      cases outcome with
      | error cause => exact .pure _ True.intro
      | ok _ => exact (status tag).freely fun _ => .pure _ True.intro
  exact ran.freely fun _ => .pure _ True.intro

end Engine

theorem converses_writeSectors (lun : UInt8) (sector : UInt32) (sectors : List (List UInt8)) :
    Converses (δ := δ) (writeSectors lun sector sectors) := by
  induction sectors generalizing sector with
  | nil => exact .pure _
  | cons data rest ih =>
    exact .bind (.require (Engine.conducts_perform_sending _ data) _) fun _ => ih (sector + 1)

/-- Work in service mode with all that stands around it. -/
theorem converses_serviceMode {asks : Command → Prop} {work : ServiceM δ α}
    (conducts : ConductsRun asks work) (detach : Bool) :
    Converses (do
      let outcome ← attempt do
        enterServiceMode
        work
      if detach then
        let detached ← onDevice Engine.detachQuietly
        if detached then say "Detaching device successful."
        else say "Detaching device failed."
      ended outcome : ServiceM δ α) := by
  have quietly : ConductsRun (fun _ => True) (onDevice Engine.detachQuietly : ServiceM δ Bool) :=
    .lift (Engine.conducts_detachQuietly.asked True.intro).onDevice
  refine (ConductsRun.bind (.lift (conducts_session conducts)) fun outcome => ?_).converses
  refine .ite (.bind quietly fun detached => ?_) (.ended _)
  exact .ite (.bind (.say _) fun _ => .ended _) (.bind (.say _) fun _ => .ended _)

end

/-! ### Runs -/

/-- Steps of a run make visits and leave nothing else in the trace, however they end. -/
def MakesVisits (steps : ProgramM δ α) : Prop :=
  ∀ bus desk, Ends steps.run (fun _ x => bus.Visits x.1) (bus, desk)

namespace MakesVisits

theorem ended (outcome : Except Failure α) : MakesVisits (δ := δ) (ended outcome) :=
  fun _ _ => Ends.pure_iff.mpr (.of_trace_eq rfl)

theorem onDesk (change : Desk → Desk) : MakesVisits (δ := δ) (onDesk change) :=
  fun _ _ _ => .of_trace_eq rfl

theorem bind {steps : ProgramM δ α} {next : α → ProgramM δ β} (first : MakesVisits steps)
    (rest : ∀ a, MakesVisits (next a)) : MakesVisits (steps >>= next) := by
  intro bus desk
  refine Ends.bindExcept (first bus desk) ?_ ?_
  · rintro a ⟨bus', desk'⟩ visits
    exact (rest a bus' desk').mono fun _ _ more => visits.trans more
  · exact fun _ _ visits => visits

theorem ite {c : Prop} [Decidable c] {yes no : ProgramM δ α} (first : MakesVisits yes)
    (second : MakesVisits no) : MakesVisits (if c then yes else no) := by
  split
  · exact first
  · exact second

theorem attempt {steps : ProgramM δ α} (h : MakesVisits steps) : MakesVisits (attempt steps) :=
  fun bus desk => Ends.bind (h bus desk) fun _ _ visits => Ends.pure_iff.mpr visits

theorem require {ε : Type} {step : BusM δ (Except ε α)}
    (views : ∀ b, Ends step (fun _ b' => Storage.Viewed b b') b) (fail : ε → Failure) :
    MakesVisits (require step fail) := by
  intro bus desk
  refine ((views bus).require fail desk).mono ?_
  rintro _ x ⟨_, -, viewed, -⟩
  exact .of_trace_eq viewed.trace

variable [BulkLink δ]

theorem withDevice {work : ServiceM δ α} (converses : Converses work) (device : StorageDevice)
    (openFailed claimFailed : StorageError → Failure) :
    MakesVisits (withDevice device openFailed claimFailed work) := by
  intro bus desk
  cases there : bus.devices[device.position]? with
  | some a =>
    obtain ⟨talk, holds⟩ := converses.exists_holds desk
    obtain ⟨visit, reached, a', -, ends⟩ := exists_visited (α := α) device a talk
    refine (ends device.position bus openFailed claimFailed work desk _ there holds).mono ?_
    exact fun _ x ended => .one ended.1.trace
  | none =>
    refine ends_withDevice_of_unopened _ (.openFailed .noDevice) ?_
    refine (Storage.ends_openDevice_of_missing there).mono ?_
    exact fun r b told => ⟨told.1, .one told.2⟩

theorem withTarget {work : ServiceM δ α} (converses : Converses work) (target : Target) :
    MakesVisits (withTarget target work) := by
  refine .bind (.require (Storage.ends_find _ _) _) fun device => ?_
  exact .withDevice (.bind (.log _) fun _ => converses) device _ _

end MakesVisits

section

variable [BulkLink δ]

theorem makesVisits_enumerate : MakesVisits (enumerate : ProgramM δ Unit) := by
  have tested (d : StorageDevice) : MakesVisits (δ := δ) (testDevice d) := by
    refine .bind (.attempt (.withDevice (.bind .identify ?_) d _ _)) ?_
    · intro outcome
      cases outcome with
      | ok identity => exact .bind (.say _) fun _ => .pure _
      | error e => exact .bind (.log _) fun _ => .bind (.say _) fun _ => .pure _
    · intro outcome
      cases outcome with
      | ok compatible => exact .ended _
      | error failure => exact .bind (.onDesk _) fun _ => .ended _
  have all (found : List StorageDevice) : MakesVisits (δ := δ) (testDevices found) := by
    induction found with
    | nil => exact .ended _
    | cons d rest ih => exact .bind (tested d) fun _ => .bind ih fun _ => .ended _
  refine .bind (.require Storage.ends_list _) fun found => .bind (.onDesk _) fun _ => ?_
  exact .bind (all found) fun count => .ite (.onDesk _) (.onDesk _)

theorem makesVisits_survey : MakesVisits (survey : ProgramM δ Unit) := by
  have surveyed (d : StorageDevice) : MakesVisits (δ := δ) (surveyDevice d) := by
    refine .withDevice (.bind (.require (Engine.conducts_query _ _ _ _) _) fun inquiry => ?_) d _ _
    refine .bind (.say _) fun _ => .bind .identify ?_
    intro outcome
    cases outcome with
    | ok identity => exact .say _
    | error e => exact .say _
  have all (found : List StorageDevice) : MakesVisits (δ := δ) (found.forM surveyDevice) := by
    induction found with
    | nil => exact .ended _
    | cons d rest ih => exact .bind (surveyed d) fun _ => ih
  refine .bind (.require Storage.ends_list _) fun found => ?_
  exact .ite (.onDesk _) (all found)

/-- Everything that an invocation does with devices it does in visits. -/
theorem Invocation.makesVisits (invocation : Invocation) :
    MakesVisits (invocation.run : ProgramM δ Unit) := by
  have serviced {service : ServiceTarget} (asked : invocation.service? = some service)
      (usable : invocation.Usable) : MakesVisits (invocation.run : ProgramM δ Unit) := by
    obtain ⟨work, run, conducts⟩ := Invocation.serves (δ := δ) asked usable
    rw [run]
    exact .withTarget (converses_serviceMode conducts service.detach) _
  cases invocation with
  | enumerate => exact makesVisits_enumerate
  | inquiry target =>
    refine .withTarget (.bind (.say _) fun _ => ?_) _
    refine .bind (.require (Engine.conducts_query _ _ _ _) _) fun inquiry => ?_
    have shown : ConductsRun (fun _ => True) (sayAll (inquiryLines inquiry) : ServiceM δ Unit) :=
      .sayAll _
    exact shown.converses
  | capacity target =>
    refine .withTarget (.bind (.say _) fun _ => ?_) _
    exact .bind (.require (Engine.conducts_query _ _ _ _) _) fun capacity => .say _
  | read target first count path =>
    have dumped : ConductsRun (fun _ => True) (dumpSectors path first count
        fun sector buffer => Engine.readSector (σ := Session δ) target.lun sector buffer) :=
      conducts_dumpSectors (fun sector buffer =>
        (Engine.conducts_fill _ buffer).asked True.intro) path first count
    exact .withTarget (.bind (.log _) fun _ => dumped.converses) _
  | write target first path =>
    refine .bind (fun _ _ _ => .of_trace_eq rfl) fun desk => .bind (.ended _) fun input => ?_
    refine .bind (.ended _) fun range => .withTarget (.bind (.log _) fun _ => ?_) _
    exact .bind (converses_writeSectors _ _ _) fun _ => .log _
  | enter service address =>
    by_cases usable : address.toNat ≤ 0xFFFF
    · exact serviced rfl usable
    · show MakesVisits (enterAt service address)
      rw [enterAt, if_pos (Nat.lt_of_not_le usable)]
      exact .ended _
  | _ => exact serviced rfl True.intro

/-- Whatever the devices do. In a session with a device that was opened, after any sequence of
claims, releases and transfers: what was done stands in the trace as uses, in which every claim that
succeeded is followed by one release and no other call is a release; one claim may stand, for as
long the flag is set and another claim is refused without a call; and giving the session up releases
the claim that stands, if one does, and closes the device. And every run of an invocation, and of
the survey, however it ends, is a sequence of such visits, from opening a device to closing it. -/
theorem interface_released_once (bus : Bus δ) :
    (∀ d handle opened, Gives (Storage.openDevice d) bus (.ok handle) opened →
      ∀ calls : List SessionCall, Ends (calls.forM Session.make)
        (fun _ s => ∃ past, Session.Accounts bus d past s) ⟨opened, handle⟩) ∧
    (∀ (invocation : Invocation) (desk : Desk),
      Ends invocation.run.run (fun _ x => bus.Visits x.1) (bus, desk)) ∧
    ∀ desk : Desk, Ends survey.run (fun _ x => bus.Visits x.1) (bus, desk) := by
  refine ⟨?_, ?_, ?_⟩
  · exact fun d handle opened h calls => Session.ends_calls h calls
  · exact fun invocation desk => invocation.makesVisits bus desk
  · exact fun desk => makesVisits_survey bus desk

end

/-- A device whose first release is refused. -/
def stubborn : Bus Playback where
  devices := [{ AttachedDevice.plain ⟨0x10D6, 0x1101⟩ {} with
    faults := fun
      | .release => [some .io]
      | _ => [] }]

/-- The device on that bus. -/
def stubbornDevice : StorageDevice where
  position := 0
  vendorId := 0x10D6
  productId := 0x1101
  busNumber := 1
  address := 1
  storage := .plain

/-- Such a device may be claimed again after the release that was refused. -/
theorem interface_released_once_refused : ∃ handle opened,
    Gives (Storage.openDevice stubbornDevice) stubborn (.ok handle) opened ∧
    Ends (List.forM [.claim, .claim, .release, .release, .claim] Session.make)
      (fun _ s => (∃ past, Session.Accounts stubborn stubbornDevice past s) ∧
        After s.close fun b => b.trace.toList =
          [.opened 0 none, .autoDetached 0 none, .claimed 0 0 none, .released 0 0 (some .io),
            .claimed 0 0 none, .released 0 0 none, .closed 0]) ⟨opened, handle⟩ := by
  have given : Gives (Storage.openDevice stubbornDevice) stubborn (.ok { device := stubbornDevice })
      { stubborn with trace := #[.opened 0 none, .autoDetached 0 none] } :=
    fun _ => ⟨rfl, rfl⟩
  refine ⟨_, _, given, Ends.and ?_ fun _ _ => rfl⟩
  exact (interface_released_once stubborn).1 _ _ _ given _

end PlayerLink
