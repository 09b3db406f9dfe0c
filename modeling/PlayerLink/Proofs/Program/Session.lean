import PlayerLink.Program.Session
import PlayerLink.Proofs.Firmware.Serving
import PlayerLink.Proofs.Usb.Availability

/-!
# Sessions with a player

A session holds a device on the bus and passes every call on to it, so a device that serves its
firmware does so through a session. Work in service mode ends as it would right after the player
has entered it: whatever the detaching and the closing of the device come to is at most shown.
-/

namespace PlayerLink

open RunM

variable {δ : Type}

namespace Session

/-- The device of a session is on the bus, in a state of which `P` holds. -/
def Holding (P : δ → Prop) (s : Session δ) : Prop :=
  ∃ d, s.bus.devices[s.handle.device.position]? = some d ∧ P d.link

/-- The device of a session has gone to another state, and all else that its calls depend on is the
same. -/
structure Relinked (s : Session δ) (l : δ) (s' : Session δ) : Prop where
  handle : s'.handle = s.handle
  devices : s'.bus.devices =
    s.bus.devices.modify s.handle.device.position fun d => { d with link := l }
  listFaults : s'.bus.listFaults = s.bus.listFaults

variable {s s' s'' : Session δ} {d : AttachedDevice δ} {l l' : δ}

namespace Relinked

theorem trans (first : Relinked s l s') (second : Relinked s' l' s'') : Relinked s l' s'' where
  handle := second.handle.trans first.handle
  devices := by
    rw [second.devices, first.handle, first.devices, List.modify_modify_eq]
    rfl
  listFaults := second.listFaults.trans first.listFaults

theorem there (h : Relinked s l s') (there : s.bus.devices[s.handle.device.position]? = some d) :
    s'.bus.devices[s'.handle.device.position]? = some { d with link := l } := by
  rw [h.handle, h.devices, List.getElem?_modify_eq, there]
  rfl

/-- The device is offered in its new state. -/
theorem offers {id : DeviceId} {P Q : δ → Prop} (h : Relinked s l s')
    (offers : s.bus.Offers id s.handle.device.position P) (state : Q l) :
    s'.bus.Offers id s'.handle.device.position Q where
  lists := by
    rw [h.listFaults]
    exact offers.lists
  device := by
    obtain ⟨d, there, available, -⟩ := offers.device
    exact ⟨_, h.there there, available.relinked l, state⟩
  first p d before there := by
    rw [h.handle] at before
    rw [h.devices, List.getElem?_modify_ne _ _ (Nat.ne_of_gt before)] at there
    exact offers.first p d before there

end Relinked

theorem onLink_of_ok {β : Type} {b : Bus δ} {position : Nat}
    {call : StateM δ (Except UsbError β)} {a : β} (there : b.devices[position]? = some d)
    (ok : call d.link = (.ok a, l)) :
    Bus.onLink position call b =
      (.ok a, { b with devices := b.devices.modify position fun d => { d with link := l } }) := by
  rw [Bus.onLink_of_there call there, ok, List.modify_eq_set_getElem?, there]
  rfl

variable [BulkLink δ]

theorem send_of_ok {data : List UInt8} {taken : Nat}
    (there : s.bus.devices[s.handle.device.position]? = some d)
    (ok : BulkLink.send data d.link = (.ok taken, l)) :
    ∃ s', BulkLink.send data s = (.ok taken, s') ∧ s.Relinked l s' := by
  have call := onLink_of_ok there ok
  refine ⟨⟨{ s.bus with
    devices := s.bus.devices.modify s.handle.device.position fun d => { d with link := l }
    trace := s.bus.trace.push (.sent s.handle.device.position
      s.handle.device.storage.output.address data (UInt32.ofNat s.handle.timeout)
      (.ok taken)) }, s.handle⟩, ?_, rfl, rfl, rfl⟩
  change onDevice _ s = _
  simp only [onDevice, Bus.send, StateT.bind, bind, call]
  rfl

theorem receive_of_ok {room : Nat} {data : List UInt8}
    (there : s.bus.devices[s.handle.device.position]? = some d)
    (ok : BulkLink.receive room d.link = (.ok data, l)) :
    ∃ s', BulkLink.receive room s = (.ok data, s') ∧ s.Relinked l s' := by
  have call := onLink_of_ok there ok
  refine ⟨⟨{ s.bus with
    devices := s.bus.devices.modify s.handle.device.position fun d => { d with link := l }
    trace := s.bus.trace.push (.received s.handle.device.position
      s.handle.device.storage.input.address room (UInt32.ofNat s.handle.timeout)
      (.ok data.length)) }, s.handle⟩, ?_, rfl, rfl, rfl⟩
  change onDevice _ s = _
  simp only [onDevice, Bus.receive, StateT.bind, bind, call]
  rfl

/-- What the device answers is what the session answers. -/
theorem answers {w : CommandWrapper} {room : Nat} {data : List UInt8}
    (there : s.bus.devices[s.handle.device.position]? = some d)
    (h : Answers w room data d.link l) :
    ∃ s', s.Relinked l s' ∧ Answers w room data s s' := by
  obtain ⟨taken, residue, l₁, l₂, sent, received, status⟩ := h
  obtain ⟨s₁, sent', same₁⟩ := send_of_ok there sent
  obtain ⟨s₂, received', same₂⟩ := receive_of_ok (same₁.there there) received
  have same₂ := same₁.trans same₂
  obtain ⟨s₃, status', same₃⟩ := receive_of_ok (same₂.there there) status
  exact ⟨s₃, same₂.trans same₃, taken, residue, s₁, s₂, sent', received', status'⟩

/-- What the device takes is taken by the session. -/
theorem takes {w : CommandWrapper} {data : List UInt8}
    (there : s.bus.devices[s.handle.device.position]? = some d) (h : Takes w data d.link l) :
    ∃ s', s.Relinked l s' ∧ Takes w data s s' := by
  obtain ⟨taken, taken', residue, l₁, l₂, sent, moved, status⟩ := h
  obtain ⟨s₁, sent', same₁⟩ := send_of_ok there sent
  obtain ⟨s₂, moved', same₂⟩ := send_of_ok (same₁.there there) moved
  have same₂ := same₁.trans same₂
  obtain ⟨s₃, status', same₃⟩ := receive_of_ok (same₂.there there) status
  exact ⟨s₃, same₂.trans same₃, taken, taken', residue, s₁, s₂, sent', moved', status'⟩

theorem declines {w : CommandWrapper} {room : Nat}
    (there : s.bus.devices[s.handle.device.position]? = some d)
    (h : Declines w room d.link l) : ∃ s', Declines w room s s' := by
  obtain ⟨taken, residue, status, l₁, sent, told⟩ := h
  obtain ⟨s₁, sent', same₁⟩ := send_of_ok there sent
  obtain ⟨s₂, told', -⟩ := receive_of_ok (same₁.there there) told
  exact ⟨s₂, taken, residue, status, s₁, sent', told'⟩

end Session

/-- An engine over the session of a device that is on the bus, where `P` holds of the device and
the tag. -/
def Engine.Holding (P : Engine δ → Prop) (e : Engine (Session δ)) : Prop :=
  ∃ d, e.link.bus.devices[e.link.handle.device.position]? = some d ∧ P ⟨d.link, e.tag⟩

/-- A player follows a script through the session that holds it. -/
theorem Scripted.session [BulkLink δ] {lun : UInt8} {image : Image} {script : List UInt32}
    {fresh identified : Engine δ → Prop} {ready : List UInt32 → Engine δ → Prop}
    (h : Scripted lun image script fresh identified ready) :
    Scripted lun image script (Engine.Holding fresh) (Engine.Holding identified)
      (fun left => Engine.Holding (ready left)) where
  identify := by
    intro e ⟨d, there, start⟩
    obtain ⟨rest, l, short, next, answers⟩ := h.identify ⟨d.link, e.tag⟩ start
    obtain ⟨s, relinked, answers'⟩ := Session.answers there answers
    exact ⟨rest, s, short, ⟨_, relinked.there there, next⟩, answers'⟩
  initialise := by
    intro e ⟨d, there, start⟩
    obtain ⟨l, next, answers⟩ := h.initialise ⟨d.link, e.tag⟩ start
    obtain ⟨s, relinked, answers'⟩ := Session.answers there answers
    exact ⟨s, ⟨_, relinked.there there, next⟩, answers'⟩
  read := by
    intro e sector rest ⟨d, there, start⟩
    obtain ⟨l, next, answers⟩ := h.read ⟨d.link, e.tag⟩ sector rest start
    obtain ⟨s, relinked, answers'⟩ := Session.answers there answers
    exact ⟨s, ⟨_, relinked.there there, next⟩, answers'⟩

/-! ### What is shown -/

/-- Texts were printed, and the folder is as it was. -/
structure Desk.Shows (texts : List String) (d d' : Desk) : Prop where
  printed : d'.printed.toList = d.printed.toList ++ texts
  folder : d'.folder = d.folder

namespace Desk.Shows

variable {a b : List String} {d d' d'' : Desk}

theorem refl (d : Desk) : Desk.Shows [] d d := ⟨by simp, rfl⟩

theorem trans (first : Desk.Shows a d d') (second : Desk.Shows b d' d'') :
    Desk.Shows (a ++ b) d d'' :=
  ⟨by rw [second.printed, first.printed, List.append_assoc], second.folder.trans first.folder⟩

theorem print (text : String) (d : Desk) : Desk.Shows [text] d (d.print text) :=
  ⟨by simp [Desk.print], rfl⟩

end Desk.Shows

/-! ### Steps of a run -/

namespace Ends

variable {σ α β ε : Type} {s : σ} {desk : Desk}

theorem require {step : StateT σ LogM (Except ε α)} {mid : Except ε α → σ → Prop}
    (h : Ends step mid s) (fail : ε → Failure) (desk : Desk) :
    Ends (RunM.require step fail).run
      (fun outcome t => ∃ r, outcome = r.mapError fail ∧ mid r t.1 ∧ t.2 = desk) (s, desk) := by
  refine Ends.bind (h.onDevice desk) ?_
  rintro r t ⟨mid, same⟩
  exact Ends.pure_iff.mpr ⟨r, rfl, mid, same⟩

/-- What follows a step on the device that succeeds. -/
theorem bindRequire {step : StateT σ LogM (Except ε α)} {fail : ε → Failure}
    {mid : Except ε α → σ → Prop} {next : α → RunM σ β} {post : Except Failure β → σ × Desk → Prop}
    (first : Ends step mid s) (ok : ∀ r t, mid r t → ∃ a, r = .ok a ∧
      Ends (next a).run post (t, desk)) :
    Ends (RunM.require step fail >>= next).run post (s, desk) := by
  refine Ends.bindExcept (first.require fail desk) ?_ ?_
  · rintro a ⟨t, _⟩ ⟨r, outcome, mid, rfl⟩
    obtain ⟨b, rfl, rest⟩ := ok r t mid
    cases outcome
    exact rest
  · rintro e ⟨t, _⟩ ⟨r, outcome, mid, rfl⟩
    obtain ⟨b, rfl, -⟩ := ok r t mid
    cases outcome

theorem bindOnDesk {change : Desk → Desk} {next : Unit → RunM σ β}
    {post : Except Failure β → σ × Desk → Prop}
    (rest : Ends (next ()).run post (s, change desk)) :
    Ends (RunM.onDesk change >>= next).run post (s, desk) :=
  fun log => rest log

theorem say (text : String) (s : σ) (desk : Desk) :
    Ends (RunM.say text).run (fun outcome t => outcome = .ok () ∧ t = (s, desk.print text))
      (s, desk) :=
  fun _ => ⟨rfl, rfl⟩

theorem bindDesk {next : Desk → RunM σ β} {post : Except Failure β → σ × Desk → Prop}
    (rest : Ends (next desk).run post (s, desk)) :
    Ends (RunM.desk >>= next).run post (s, desk) :=
  fun log => rest log

theorem bindEnded {outcome : Except Failure α} {a : α} {next : α → RunM σ β}
    {post : Except Failure β → σ × Desk → Prop} (ok : outcome = .ok a)
    (rest : Ends (next a).run post (s, desk)) :
    Ends (RunM.ended outcome >>= next).run post (s, desk) := by
  subst ok
  exact fun log => rest log

theorem bindEnded_error {f : Failure} {next : α → RunM σ β}
    {post : Except Failure β → σ × Desk → Prop} (failed : post (.error f) (s, desk)) :
    Ends (RunM.ended (.error f) >>= next).run post (s, desk) :=
  fun _ => failed

theorem bindEnded_of_error {outcome : Except Failure α} {f : Failure} {next : α → RunM σ β}
    {post : Except Failure β → σ × Desk → Prop} (failed : outcome = .error f)
    (stopped : post (.error f) (s, desk)) :
    Ends (RunM.ended outcome >>= next).run post (s, desk) := by
  subst failed
  exact bindEnded_error stopped

end Ends

/-! ### Sessions -/

/-- An interface for mass storage, as a player has one. -/
def StorageInterface.plain : StorageInterface where
  input := ⟨0x81, 0x02, 64⟩
  output := ⟨0x02, 0x02, 64⟩
  number := 0
  subclass := 0x06

/-- A device with such an interface and without faults. -/
def AttachedDevice.plain (id : DeviceId) (link : δ) : AttachedDevice δ where
  vendorId := id.vendorId
  productId := id.productId
  busNumber := 1
  address := 1
  active := [[{ classCode := 0x08, subclass := 0x06, protocol := 0x50, number := 0
                endpoints := [StorageInterface.plain.input, StorageInterface.plain.output] }]]
  first := []
  link

/-- Such a device is offered where it is alone on the bus. -/
theorem offers_plain (id : DeviceId) {P : δ → Prop} {link : δ} (state : P link) :
    Bus.Offers id 0 P { devices := [.plain id link] } where
  lists := by simp
  device := by
    refine ⟨_, rfl, ⟨rfl, rfl, ⟨.plain, rfl⟩, ?_⟩, state⟩
    intro call _ fault left
    cases left
  first p d before := absurd before (Nat.not_lt_zero p)

/-- It opens. -/
theorem exists_opens (id : DeviceId) (named : ¬ (id.vendorId = 0 ∧ id.productId = 0)) (link : δ) :
    ∃ session, Opens id { devices := [.plain id link] } session ∧
      Session.Holding (· = link) session := by
  have alone : Bus.Offers id 0 (· = link) { devices := [.plain id link] } := offers_plain id rfl
  obtain ⟨session, opens, place, offers⟩ := alone.exists_opens named
  obtain ⟨d, there, -, state⟩ := offers.device
  rw [← place] at there
  exact ⟨session, opens, d, there, state⟩

variable {α : Type} {bus : Bus δ} {session : Session δ} {desk : Desk}

section

variable (post : Except Failure α → Bus δ × Desk → Prop)

/-- The stages of work on a device: opening it, claiming its interface, the work itself, and closing
the device wherever this comes to an end. -/
theorem ends_withDevice_stages {device : StorageDevice}
    {openFailed claimFailed : StorageError → Failure} {work : ServiceM δ α}
    {opened : Except StorageError OpenDevice → Bus δ → Prop}
    (claimed : Except StorageError Unit → Session δ → Prop)
    (opening : Ends (Storage.openDevice device) opened bus)
    (unopened : ∀ e b, opened (.error e) b → post (.error (openFailed e)) (b, desk))
    (claiming : ∀ handle b, opened (.ok handle) b → Ends Session.claim claimed ⟨b, handle⟩)
    (unclaimed : ∀ e s, claimed (.error e) s →
      After s.close fun b => post (.error (claimFailed e)) (b, desk))
    (worked : ∀ s, claimed (.ok ()) s → Ends work.run
      (fun outcome x => After x.1.link.close fun b => post outcome (b, x.2)) ({ link := s }, desk)) :
    Ends (withDevice device openFailed claimFailed work).run post (bus, desk) := by
  refine Ends.after_iff.mpr ?_
  change After (Storage.openDevice device bus >>= _) _
  refine After.bind (Ends.after_iff.mp opening) ?_
  rintro ⟨_ | handle, b⟩ found
  · exact After.pure_iff.mpr (unopened _ b found)
  · refine After.bind (Ends.after_iff.mp (claiming handle b found)) ?_
    rintro ⟨_ | _, s⟩ asked
    · exact After.bind (unclaimed _ s asked) fun _ ended => After.pure_iff.mpr ended
    · refine After.bind (Ends.after_iff.mp (worked s asked)) ?_
      rintro ⟨outcome, x⟩ closed
      exact After.bind closed fun _ ended => After.pure_iff.mpr ended

section

variable {device : StorageDevice} {openFailed claimFailed : StorageError → Failure}
variable {work : ServiceM δ α} {handle : OpenDevice} {opened : Bus δ → Prop}

/-- A device that cannot be opened. -/
theorem ends_withDevice_of_unopened (e : StorageError)
    (opening : Ends (Storage.openDevice device)
      (fun r b => r = .error e ∧ post (.error (openFailed e)) (b, desk)) bus) :
    Ends (withDevice device openFailed claimFailed work).run post (bus, desk) := by
  refine ends_withDevice_stages post (fun _ _ => False) opening ?_ ?_ ?_ ?_
  · rintro _ b ⟨same, ended⟩
    cases same
    exact ended
  · rintro _ b ⟨failed, -⟩
    cases failed
  · exact fun _ _ => False.elim
  · exact fun _ => False.elim

/-- A device that is opened but whose interface cannot be claimed. -/
theorem ends_withDevice_of_unclaimed (e : StorageError)
    (opening : Ends (Storage.openDevice device) (fun r b => r = .ok handle ∧ opened b) bus)
    (claiming : ∀ b, opened b → Ends Session.claim (fun r s => r = .error e ∧
      After s.close fun b => post (.error (claimFailed e)) (b, desk)) ⟨b, handle⟩) :
    Ends (withDevice device openFailed claimFailed work).run post (bus, desk) := by
  refine ends_withDevice_stages post (fun r s => r = .error e ∧
    After s.close fun b => post (.error (claimFailed e)) (b, desk)) opening ?_ ?_ ?_ ?_
  · rintro _ b ⟨failed, -⟩
    cases failed
  · rintro _ b ⟨same, found⟩
    cases same
    exact claiming b found
  · rintro _ s ⟨same, closed⟩
    cases same
    exact closed
  · rintro s ⟨failed, -⟩
    cases failed

/-- A device that is opened and whose interface is claimed. -/
theorem ends_withDevice_of_claimed {claimed : Session δ → Prop}
    (opening : Ends (Storage.openDevice device) (fun r b => r = .ok handle ∧ opened b) bus)
    (claiming : ∀ b, opened b →
      Ends Session.claim (fun r s => r = .ok () ∧ claimed s) ⟨b, handle⟩)
    (working : ∀ s, claimed s → Ends work.run
      (fun outcome x => After x.1.link.close fun b => post outcome (b, x.2)) ({ link := s }, desk)) :
    Ends (withDevice device openFailed claimFailed work).run post (bus, desk) := by
  refine ends_withDevice_stages post (fun r s => r = .ok () ∧ claimed s) opening ?_ ?_ ?_ ?_
  · rintro _ b ⟨failed, -⟩
    cases failed
  · rintro _ b ⟨same, found⟩
    cases same
    exact claiming b found
  · rintro _ s ⟨failed, -⟩
    cases failed
  · rintro s ⟨-, ready⟩
    exact working s ready

end

/-- Work ends between opening and closing a device as it does on the open device, and closing calls
none of the devices. -/
theorem ends_withDevice {device : StorageDevice} {openFailed claimFailed : StorageError → Failure}
    {work : ServiceM δ α} {opened : Bus δ} {handle : OpenDevice}
    (openDevice : Gives (Storage.openDevice device) bus (.ok handle) opened)
    (claim : Gives Session.claim ⟨opened, handle⟩ (.ok ()) session)
    (done : Ends work.run (fun outcome t => ∀ b : Bus δ, t.1.link.bus.Untouched b →
      post outcome (b, t.2)) ({ link := session }, desk)) :
    Ends (withDevice device openFailed claimFailed work).run post (bus, desk) := by
  refine ends_withDevice_of_claimed post openDevice (fun _ same => same ▸ claim) ?_
  rintro _ rfl
  refine done.mono ?_
  intro outcome x ended
  exact fun log => ended _ (Session.after_close x.1.link log)

/-- Work ends on the device that a target names as it does on the open device. -/
theorem ends_withTarget {target : Target} {work : ServiceM δ α}
    (opens : Opens target.device bus session)
    (done : Ends work.run (fun outcome t => ∀ b : Bus δ, t.1.link.bus.Untouched b →
      post outcome (b, t.2)) ({ link := session }, desk)) :
    Ends (withTarget target work).run post (bus, desk) := by
  obtain ⟨device, found, opened, handle, find, openDevice, claim⟩ := opens
  refine Ends.bindRequire find ?_
  rintro _ _ ⟨rfl, rfl⟩
  exact ⟨device, rfl, ends_withDevice post openDevice claim (Ends.bindExcept_lift done)⟩

end

variable {post : Except Failure α → Desk → Prop}
variable [BulkLink δ]

/-- Behind the work the player is detached if that was asked for. How the work ended stays as it is,
and at most a word about the detaching is shown. -/
theorem ends_detaching (detach : Bool) (outcome : Except Failure α) {e : Engine (Session δ)}
    {mid : Bool → Engine (Session δ) → Prop} (quietly : Ends Engine.detachQuietly mid e)
    (desk : Desk) :
    Ends (do
      if detach then
        let detached ← onDevice Engine.detachQuietly
        if detached then say "Detaching device successful."
        else say "Detaching device failed."
      ended outcome : ServiceM δ α).run
      (fun r x => r = outcome ∧ (if detach then ∃ detached, mid detached x.1 else x.1 = e) ∧
        ∃ texts, Desk.Shows texts desk x.2) (e, desk) := by
  by_cases asked : detach
  · rw [if_pos asked]
    refine Ends.bindExcept_step (quietly.onDevice desk) ?_
    rintro detached ⟨u, _⟩ ⟨told, rfl⟩
    by_cases well : detached
    · rw [if_pos well]
      refine Ends.bindOnDesk (Ends.pure_iff.mpr ⟨rfl, ?_, _, .print _ _⟩)
      rw [if_pos asked]
      exact ⟨detached, told⟩
    · rw [if_neg well]
      refine Ends.bindOnDesk (Ends.pure_iff.mpr ⟨rfl, ?_, _, .print _ _⟩)
      rw [if_pos asked]
      exact ⟨detached, told⟩
  · rw [if_neg asked]
    refine Ends.pure_iff.mpr ⟨rfl, ?_, [], .refl desk⟩
    rw [if_neg asked]

section ServiceMode

variable {lun : UInt8} {image : Image} {script : List UInt32}
variable {fresh identified : Engine (Session δ) → Prop}
variable {ready : List UInt32 → Engine (Session δ) → Prop}

theorem ends_enterServiceMode (h : Scripted lun image script fresh identified ready)
    {e : Engine (Session δ)} (start : fresh e) (desk : Desk) :
    Ends enterServiceMode.run
      (fun outcome t => outcome = .ok () ∧ ready script t.1 ∧ t.2 = desk) (e, desk) := by
  refine Ends.bindRequire (h.ends_identify start) ?_
  rintro _ u ⟨⟨i, rfl⟩, next⟩
  refine ⟨i, rfl, Ends.bindExcept_lift ?_⟩
  refine ((h.ends_initialise next).require _ desk).mono ?_
  rintro _ ⟨v, _⟩ ⟨_, rfl, ⟨rfl, last⟩, rfl⟩
  exact ⟨rfl, last, rfl⟩

variable (post) in
/-- Work in service mode ends as it does on a player that is ready, and then at most a word about
the detaching is shown. -/
theorem ends_withServiceMode {service : ServiceTarget} {work : ServiceM δ α}
    (h : Scripted service.target.lun image script fresh identified ready)
    (opens : Opens service.target.device bus session) (start : fresh { link := session })
    (done : ∀ e : Engine (Session δ), ready script e →
      Ends work.run (fun outcome t => post outcome t.2) (e, desk)) :
    Ends (withServiceMode service work).run
      (fun outcome t => ∃ desk' texts, post outcome desk' ∧ Desk.Shows texts desk' t.2)
      (bus, desk) := by
  refine ends_withTarget
    (fun outcome t => ∃ desk' texts, post outcome desk' ∧ Desk.Shows texts desk' t.2) opens ?_
  have served : Ends (do enterServiceMode; work : ServiceM δ α).run
      (fun outcome t => post outcome t.2) ({ link := session }, desk) := by
    refine Ends.bindExcept (ends_enterServiceMode h start desk) ?_ ?_
    · rintro _ ⟨u, _⟩ ⟨-, next, rfl⟩
      exact done u next
    · rintro e _ ⟨failed, -⟩
      cases failed
  refine Ends.bindExcept_step served ?_
  rintro outcome ⟨e, desk'⟩ worked
  refine (ends_detaching service.detach outcome (.trivial _ e) desk').mono ?_
  rintro _ t ⟨rfl, -, texts, shown⟩ b -
  exact ⟨desk', texts, worked, shown⟩

end ServiceMode

end PlayerLink
