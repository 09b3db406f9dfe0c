import PlayerLink.Proofs.Engine.Dialogue
import PlayerLink.Proofs.Usb.Availability

/-!
# Visits

What is done with a device from opening it to closing it is a `Visit`: the device is opened, it is
used, and it is closed. Transfers, claims that were refused, and claims that were made are the uses;
a claim that was made ends with one release. Until a session is over, one claim may stand.

A session moves its device from state to state and adds to the trace of the bus, and nothing else on
the bus changes. So what each step of a session comes to is said here for one state of the device,
wherever the device is on whatever bus.
-/

namespace PlayerLink

variable {δ α : Type}

/-! ### What is in the trace -/

/-- A call on a device that is open, other than to claim and to release it. -/
inductive Transfer where
  | sent (endpoint : UInt8) (data : List UInt8) (timeout : UInt32) (outcome : Except UsbError Nat)
  | received (endpoint : UInt8) (room : Nat) (timeout : UInt32) (outcome : Except UsbError Nat)
  | haltCleared (endpoint : UInt8) (fault : Option UsbError)

/-- The call as the trace has it for the device at a place. -/
def Transfer.event (position : Nat) : Transfer → BusEvent
  | sent endpoint data timeout outcome => .sent position endpoint data timeout outcome
  | received endpoint room timeout outcome => .received position endpoint room timeout outcome
  | haltCleared endpoint fault => .haltCleared position endpoint fault

/-- One thing that was done with a device while it was open. -/
inductive Use where
  | transfer (t : Transfer)
  /-- A claim that was refused. -/
  | refused (fault : UsbError)
  /-- A claim that was made, what was transferred under it, and how its release turned out. -/
  | claimed (transfers : List Transfer) (released : Option UsbError)

namespace Use

def events (position : Nat) (interface : UInt8) : Use → List BusEvent
  | transfer t => [t.event position]
  | refused fault => [.claimed position interface (some fault)]
  | claimed transfers released =>
    .claimed position interface none ::
      (transfers.map (Transfer.event position) ++ [.released position interface released])

/-- Whether the controller holds a claim after a use, if it is told whether it did before. A claim
whose release was refused it holds on to. -/
def holds (before : Bool) : Use → Bool
  | claimed _ released => released.isSome
  | _ => before

/-- Whether the controller holds a claim after some uses. -/
def held (uses : List Use) : Bool := uses.foldl holds false

end Use

/-- What was done with a device since it was opened. -/
structure Past where
  /-- How asking for the system's own driver to be kept away turned out. -/
  detached : Option UsbError
  uses : List Use := []
  /-- What was transferred under the claim that stands, if one does. -/
  claim : Option (List Transfer) := none

namespace Past

/-- The start of a visit in the trace. -/
def openingEvents (position : Nat) (detached : Option UsbError) : List BusEvent :=
  [.opened position none, .autoDetached position detached]

def events (position : Nat) (interface : UInt8) (past : Past) : List BusEvent :=
  openingEvents position past.detached ++ past.uses.flatMap (Use.events position interface) ++
    match past.claim with
    | none => []
    | some transfers => .claimed position interface none :: transfers.map (Transfer.event position)

/-- Whether the controller holds a claim. -/
def held (past : Past) : Bool := past.claim.isSome || Use.held past.uses

/-- More was transferred. -/
def transfer (more : List Transfer) (past : Past) : Past :=
  match past.claim with
  | none => { past with uses := past.uses ++ more.map .transfer }
  | some transfers => { past with claim := some (transfers ++ more) }

/-- A claim was refused. -/
def refuse (fault : UsbError) (past : Past) : Past :=
  { past with uses := past.uses ++ [.refused fault] }

/-- The claim that stands, if one does, was released. -/
def settle (released : Option UsbError) (past : Past) : Past :=
  match past.claim with
  | none => past
  | some transfers =>
    { past with uses := past.uses ++ [.claimed transfers released], claim := none }

end Past

/-- What was done with a device from opening it to closing it. -/
inductive Visit where
  /-- It could not be opened. -/
  | refused (fault : UsbError)
  /-- A claim that the controller holds on to although it was asked to release it comes back with
  the closing. -/
  | made (interface : UInt8) (detached : Option UsbError) (uses : List Use)
      (surrendered : Option UsbError)

/-- A visit in the trace. -/
def Visit.events (position : Nat) : Visit → List BusEvent
  | refused fault => [.opened position (some fault)]
  | made interface detached uses surrendered =>
    Past.openingEvents position detached ++ uses.flatMap (Use.events position interface) ++
      (if Use.held uses then [.surrendered position interface surrendered] else []) ++
      [.closed position]

namespace Past

variable {position : Nat} {interface : UInt8}

theorem transfer_nil (past : Past) : past.transfer [] = past := by
  rw [transfer]
  split
  next none => simp
  next claim => simp [← claim]

theorem transfer_transfer (more rest : List Transfer) (past : Past) :
    (past.transfer more).transfer rest = past.transfer (more ++ rest) := by
  rw [transfer, transfer, transfer]
  cases past.claim with
  | none => simp
  | some transfers => simp

theorem events_transfer (more : List Transfer) (past : Past) :
    (past.transfer more).events position interface =
      past.events position interface ++ more.map (Transfer.event position) := by
  rw [events, transfer]
  cases claim : past.claim with
  | none => simp [events, claim, Use.events, List.flatMap_map, ← List.map_eq_flatMap]
  | some transfers => simp [events, claim]

theorem isSome_claim_transfer (more : List Transfer) (past : Past) :
    (past.transfer more).claim.isSome = past.claim.isSome := by
  rw [transfer]
  split
  next none => rfl
  next claim => rw [claim]; rfl

theorem held_transfer (more : List Transfer) (past : Past) :
    (past.transfer more).held = past.held := by
  have unchanged (before : Bool) : (more.map Use.transfer).foldl Use.holds before = before := by
    induction more with
    | nil => rfl
    | cons t rest ih => exact ih
  rw [held, isSome_claim_transfer, held, transfer]
  cases past.claim with
  | none => simp only [Use.held, List.foldl_append, unchanged]
  | some transfers => rfl

theorem claim_settle (released : Option UsbError) (past : Past) :
    (past.settle released).claim = none := by
  rw [settle]
  split
  next none => exact none
  next => rfl

end Past

/-! ### One device -/

namespace AttachedDevice

/-- A device as a session tells of it: an error in its own words, and of a halt what the controller
says. -/
instance [BulkLink δ] : BulkLink (AttachedDevice δ) where
  send octets := fun a =>
    let (outcome, link) := BulkLink.send octets a.link
    (outcome.mapError UsbError.reported, { a with link })
  receive room := fun a =>
    let (outcome, link) := BulkLink.receive room a.link
    (outcome.mapError UsbError.reported, { a with link })
  clearHalt := fun a =>
    let (fault, a) := outcome .clearHalt { a with link := (BulkLink.clearHalt a.link).2 }
    (match fault with
      | some e => .error e.reported
      | none => .ok (), a)

end AttachedDevice

namespace Bus

/-- At a place on a bus something was done that left the device there in the state `a` and added
events to the trace, and nothing else is different. -/
structure Worked (position : Nat) (b : Bus δ) (events : List BusEvent) (a : AttachedDevice δ)
    (b' : Bus δ) : Prop where
  inside : position < b.devices.length
  devices : b'.devices = b.devices.set position a
  trace : b'.trace.toList = b.trace.toList ++ events
  listFaults : b'.listFaults = b.listFaults

namespace Worked

variable {position : Nat} {b b₁ b₂ : Bus δ} {events more : List BusEvent} {a a' : AttachedDevice δ}

theorem refl (there : b.devices[position]? = some a) : Worked position b [] a b := by
  obtain ⟨inside, rfl⟩ := List.getElem?_eq_some_iff.mp there
  exact ⟨inside, (List.set_getElem_self inside).symm, (List.append_nil _).symm, rfl⟩

theorem there (h : Worked position b events a b₁) : b₁.devices[position]? = some a := by
  rw [h.devices]
  exact List.getElem?_set_self h.inside

theorem elsewhere (h : Worked position b events a b₁) {p : Nat} (other : p ≠ position) :
    b₁.devices[p]? = b.devices[p]? := by
  rw [h.devices]
  exact List.getElem?_set_ne (Ne.symm other)

theorem trans (first : Worked position b events a b₁) (second : Worked position b₁ more a' b₂) :
    Worked position b (events ++ more) a' b₂ where
  inside := first.inside
  devices := by rw [second.devices, first.devices, List.set_set]
  trace := by rw [second.trace, first.trace, List.append_assoc]
  listFaults := second.listFaults.trans first.listFaults

/-- An event was noted down. -/
theorem note (h : Worked position b events a b₁) (event : BusEvent) :
    Worked position b (events ++ [event]) a (Bus.note event b₁).2 :=
  h.trans ⟨(List.getElem?_eq_some_iff.mp h.there).1, (Worked.refl h.there).devices,
    Array.toList_push, rfl⟩

end Worked

variable {position : Nat} {b : Bus δ} {a : AttachedDevice δ}

/-- A call for a device that is there turns out as the device has it. -/
theorem perform_of_there (there : b.devices[position]? = some a) (call : DeviceCall)
    (event : Option UsbError → BusEvent) :
    (perform position call event b).1 = (a.outcome call).1.map UsbError.reported ∧
      Worked position b [event (a.outcome call).1] (a.outcome call).2
        (perform position call event b).2 := by
  have inside := (List.getElem?_eq_some_iff.mp there).1
  simp only [perform, bind, StateT.bind, outcome, atDevice, there]
  exact ⟨rfl, inside, rfl, Array.toList_push, rfl⟩

theorem worked_onLink {β : Type} (there : b.devices[position]? = some a)
    (call : StateM δ (Except UsbError β)) :
    (onLink position call b).1 = (call a.link).1 ∧
      Worked position b [] { a with link := (call a.link).2 } (onLink position call b).2 := by
  rw [onLink_of_there call there]
  exact ⟨rfl, (List.getElem?_eq_some_iff.mp there).1, rfl, (List.append_nil _).symm, rfl⟩

variable [BulkLink δ]

/-- What is sent to a device is answered by the device, and stands in the trace. -/
theorem send_of_there (there : b.devices[position]? = some a) (endpoint : UInt8)
    (timeout : UInt32) (octets : List UInt8) :
    (send position endpoint timeout octets b).1 = (BulkLink.send octets a).1 ∧
      Worked position b [(Transfer.sent endpoint octets timeout
          (BulkLink.send octets a.link).1).event position]
        (BulkLink.send octets a).2 (send position endpoint timeout octets b).2 := by
  obtain ⟨told, worked⟩ := worked_onLink there (BulkLink.send octets)
  have noted := worked.note (.sent position endpoint octets timeout (BulkLink.send octets a.link).1)
  rw [← told] at noted ⊢
  exact ⟨congrArg (Except.mapError UsbError.reported) told, noted⟩

theorem receive_of_there (there : b.devices[position]? = some a) (endpoint : UInt8)
    (timeout : UInt32) (room : Nat) :
    (receive position endpoint timeout room b).1 = (BulkLink.receive room a).1 ∧
      Worked position b [(Transfer.received endpoint room timeout
          ((BulkLink.receive room a.link).1.map List.length)).event position]
        (BulkLink.receive room a).2 (receive position endpoint timeout room b).2 := by
  obtain ⟨told, worked⟩ := worked_onLink there (BulkLink.receive room)
  have noted := worked.note (.received position endpoint room timeout
    ((BulkLink.receive room a.link).1.map List.length))
  rw [← told] at noted ⊢
  exact ⟨congrArg (Except.mapError UsbError.reported) told, noted⟩

theorem clearHalt_of_there (there : b.devices[position]? = some a) (endpoint : UInt8) :
    Worked position b [(Transfer.haltCleared endpoint
        (({ a with link := (BulkLink.clearHalt a.link).2 } : AttachedDevice δ).outcome
          .clearHalt).1).event position]
      (BulkLink.clearHalt a).2 (clearHalt position endpoint b).2 := by
  obtain ⟨-, worked⟩ := worked_onLink there BulkLink.clearHalt
  obtain ⟨-, performed⟩ := perform_of_there worked.there .clearHalt
    (.haltCleared position endpoint)
  rw [clearHalt_snd]
  exact worked.trans performed

end Bus

/-! ### Sessions -/

/-- The device at another place. -/
def StorageDevice.placed (position : Nat) (d : StorageDevice) : StorageDevice := { d with position }

namespace Session

/-- Since a bus was in the state `start`, its device at a place was opened; this is behind it. -/
structure Stands (start : Bus δ) (position : Nat) (d : StorageDevice) (a : AttachedDevice δ)
    (past : Past) (s : Session δ) : Prop where
  handle : s.handle =
    { device := d.placed position, claimed := past.claim.isSome, held := past.held }
  worked : Bus.Worked position start (past.events position d.storage.number) a s.bus

/-- In a session with a device in the state `a` that has this behind it, a step gives the answer
`r`, wherever the device is on whatever bus, and the device is in the state `a'` then, with that
behind it. -/
def Does (step : SessionM δ α) (d : StorageDevice) (a : AttachedDevice δ) (past : Past) (r : α)
    (a' : AttachedDevice δ) (past' : Past) : Prop :=
  ∀ start position s, Stands start position d a past s →
    Ends step (fun r' s' => r' = r ∧ Stands start position d a' past' s') s

variable {d : StorageDevice} {a : AttachedDevice δ} {past : Past}

/-- A call for the device of a session. -/
theorem ends_onBus_perform {start : Bus δ} {position : Nat} {events : List BusEvent}
    {s : Session δ} (worked : Bus.Worked position start events a s.bus) (call : DeviceCall)
    (event : Option UsbError → BusEvent) :
    Ends (onBus (Bus.perform position call event))
      (fun fault s' => fault = (a.outcome call).1.map UsbError.reported ∧
        s'.handle = s.handle ∧ Bus.Worked position start (events ++ [event (a.outcome call).1])
          (a.outcome call).2 s'.bus) s := by
  obtain ⟨told, performed⟩ := Bus.perform_of_there worked.there call event
  exact fun _ => ⟨told, rfl, worked.trans performed⟩

/-- A session that claims an interface twice is refused the second time without a call. -/
theorem gives_claim_of_claimed {s : Session δ} (claimed : s.handle.claimed) :
    Gives claim s (.error (.busy s.handle.device.storage.number)) s := by
  rw [claim]
  refine Ends.bind_get ?_
  simp only [claimed, if_true]
  exact Gives.pure _ _

theorem does_claim_of_claimed (claimed : past.claim.isSome) :
    Does claim d a past (.error (.busy d.storage.number)) a past := by
  intro start position s stands
  have flag : s.handle.claimed := by rw [stands.handle]; exact claimed
  have refused := gives_claim_of_claimed flag
  rw [stands.handle] at refused
  exact refused.ends ⟨rfl, stands⟩

/-- What a session says of a claim that the controller refused. -/
def refusal (interface : UInt8) (fault : UsbError) : StorageError :=
  match fault.reported with
  | .busy => .busy interface
  | e => .claimFailed interface e

theorem does_claim_of_refused (d : StorageDevice) {past : Past} {fault : UsbError}
    {a' : AttachedDevice δ} (unclaimed : past.claim = none)
    (refused : a.outcome .claim = (some fault, a')) :
    Does claim d a past (.error (refusal d.storage.number fault)) a' (past.refuse fault) := by
  intro start position s stands
  rw [claim]
  refine Ends.bind_get ?_
  rw [stands.handle]
  simp only [unclaimed, Option.isSome_none, Bool.false_eq_true, if_false]
  refine Ends.bind (ends_onBus_perform stands.worked .claim _) ?_
  rintro told s' ⟨rfl, same, worked⟩
  rw [refused] at worked ⊢
  have after : Stands start position d a' (past.refuse fault) s' := by
    refine ⟨?_, ?_⟩
    · rw [same, stands.handle]
      simp [Past.refuse, Past.held, Use.held, Use.holds]
    · simpa [Past.events, Past.refuse, unclaimed, Use.events, StorageDevice.placed] using worked
  simp only [Option.map_some, refusal]
  cases fault.reported with
  | busy => exact Ends.pure_iff.mpr ⟨rfl, after⟩
  | _ => exact Ends.pure_iff.mpr ⟨rfl, after⟩

theorem does_claim_of_made (d : StorageDevice) {past : Past} {a' : AttachedDevice δ}
    (unclaimed : past.claim = none)
    (made : a.outcome .claim = (none, a')) :
    Does claim d a past (.ok ()) a' { past with claim := some [] } := by
  intro start position s stands
  rw [claim]
  refine Ends.bind_get ?_
  rw [stands.handle]
  simp only [unclaimed, Option.isSome_none, Bool.false_eq_true, if_false]
  refine Ends.bind (ends_onBus_perform stands.worked .claim _) ?_
  rintro told s' ⟨rfl, same, worked⟩
  rw [made] at worked ⊢
  have after : Stands start position d a' { past with claim := some [] }
      { s' with handle := { s'.handle with claimed := true, held := true } } := by
    refine ⟨?_, ?_⟩
    · simp only [same, stands.handle]
      rfl
    · simpa [Past.events, unclaimed, StorageDevice.placed] using worked
  exact fun _ => ⟨rfl, after⟩

theorem does_release_of_unclaimed (unclaimed : past.claim = none) :
    Does release d a past () a past := by
  intro start position s stands
  rw [release]
  refine Ends.bind_get ?_
  rw [stands.handle]
  simp only [unclaimed, Option.isSome_none, Bool.false_eq_true, if_false]
  exact Ends.pure_iff.mpr ⟨trivial, stands⟩

/-- A claim is over with the first release, however the release turns out. -/
theorem does_release_of_claimed {transfers : List Transfer}
    (claimed : past.claim = some transfers) :
    Does release d a past () (a.outcome .release).2 (past.settle (a.outcome .release).1) := by
  intro start position s stands
  rw [release]
  refine Ends.bind_get ?_
  rw [stands.handle]
  simp only [claimed, Option.isSome_some, if_true]
  have unset : Ends (setHandle fun h => { h with claimed := false })
      (fun _ s' => s'.handle = { s.handle with claimed := false } ∧ s'.bus = s.bus) s :=
    fun _ => ⟨rfl, rfl⟩
  refine Ends.bind unset ?_
  rintro _ s₁ ⟨handle₁, bus₁⟩
  have worked₁ := stands.worked
  rw [← bus₁] at worked₁
  refine Ends.bind (ends_onBus_perform worked₁ .release _) ?_
  rintro told s₂ ⟨rfl, handle₂, worked₂⟩
  generalize a.outcome .release = released at worked₂ ⊢
  obtain ⟨fault, a'⟩ := released
  have worked : Bus.Worked position start
      ((past.settle fault).events position d.storage.number) a' s₂.bus := by
    simpa [Past.events, Past.settle, claimed, Use.events, StorageDevice.placed] using worked₂
  cases fault with
  | none =>
    have handle : ({ s₂.handle with held := false } : OpenDevice) =
        { device := d.placed position, claimed := (past.settle none).claim.isSome,
          held := (past.settle none).held } := by
      rw [handle₂, handle₁, stands.handle]
      simp [Past.settle, claimed, Past.held, Use.held, Use.holds]
    exact fun _ => ⟨trivial, handle, worked⟩
  | some e =>
    refine Ends.lift_iff.mpr ⟨trivial, ?_, worked⟩
    rw [handle₂, handle₁, stands.handle]
    simp [Past.settle, claimed, Past.held, Use.held, Use.holds]

theorem exists_does_claim (d : StorageDevice) (a : AttachedDevice δ) (past : Past) :
    ∃ r a' past', Does claim d a past r a' past' := by
  cases claimed : past.claim with
  | some transfers => exact ⟨_, _, _, does_claim_of_claimed (by rw [claimed]; rfl)⟩
  | none =>
    rcases outcome : a.outcome .claim with ⟨_ | fault, a'⟩
    · exact ⟨_, _, _, does_claim_of_made d claimed outcome⟩
    · exact ⟨_, _, _, does_claim_of_refused d claimed outcome⟩

theorem exists_does_release (d : StorageDevice) (a : AttachedDevice δ) (past : Past) :
    ∃ a' released, a.Untouched a' ∧ Does release d a past () a' (past.settle released) := by
  cases claimed : past.claim with
  | some transfers =>
    exact ⟨_, _, a.untouched_outcome .release, does_release_of_claimed claimed⟩
  | none =>
    have same : past.settle none = past := by rw [Past.settle, claimed]
    refine ⟨a, none, .refl a, ?_⟩
    rw [same]
    exact does_release_of_unclaimed claimed

/-- A transfer of a session is one on the bus, and leaves the handle as it is. -/
theorem Stands.onDevice {start : Bus δ} {position : Nat} {s : Session δ} {β : Type}
    {call : OpenDevice → StateM (Bus δ) β} {told : β} {t : Transfer} {a' : AttachedDevice δ}
    (stands : Stands start position d a past s)
    (made : (call s.handle s.bus).1 = told ∧
      Bus.Worked position s.bus [t.event position] a' (call s.handle s.bus).2) :
    (Session.onDevice call s).1 = told ∧
      Stands start position d a' (past.transfer [t]) (Session.onDevice call s).2 := by
  obtain ⟨answer, worked⟩ := made
  refine ⟨answer, ?_, ?_⟩
  · rw [Past.isSome_claim_transfer, Past.held_transfer]
    exact stands.handle
  · rw [Past.events_transfer]
    exact stands.worked.trans worked

section

variable [BulkLink δ]

/-- What is sent to a device in the state `a`, as the trace has it. -/
def sending (d : StorageDevice) (a : AttachedDevice δ) (octets : List UInt8) : Transfer :=
  .sent d.storage.output.address octets 1000 (BulkLink.send octets a.link).1

def receiving (d : StorageDevice) (a : AttachedDevice δ) (room : Nat) : Transfer :=
  .received d.storage.input.address room 1000 ((BulkLink.receive room a.link).1.map List.length)

def clearing (d : StorageDevice) (a : AttachedDevice δ) : Transfer :=
  .haltCleared d.storage.input.address
    (({ a with link := (BulkLink.clearHalt a.link).2 } : AttachedDevice δ).outcome .clearHalt).1

namespace Stands

variable {start : Bus δ} {position : Nat} {s : Session δ}

theorem send (stands : Stands start position d a past s) (octets : List UInt8) :
    (BulkLink.send octets s).1 = (BulkLink.send octets a).1 ∧
      Stands start position d (BulkLink.send octets a).2
        (past.transfer [sending d a octets]) (BulkLink.send octets s).2 := by
  refine stands.onDevice ?_
  rw [stands.handle]
  exact Bus.send_of_there stands.worked.there d.storage.output.address 1000 octets

theorem receive (stands : Stands start position d a past s) (room : Nat) :
    (BulkLink.receive room s).1 = (BulkLink.receive room a).1 ∧
      Stands start position d (BulkLink.receive room a).2
        (past.transfer [receiving d a room]) (BulkLink.receive room s).2 := by
  refine stands.onDevice ?_
  rw [stands.handle]
  exact Bus.receive_of_there stands.worked.there d.storage.input.address 1000 room

theorem clearHalt (stands : Stands start position d a past s) :
    Stands start position d (BulkLink.clearHalt a).2 (past.transfer [clearing d a])
      (BulkLink.clearHalt s).2 := by
  refine (stands.onDevice ⟨rfl, ?_⟩).2
  rw [stands.handle]
  exact Bus.clearHalt_of_there stands.worked.there d.storage.input.address

end Stands

/-- A dialogue in a session comes to what it comes to with the device alone. -/
theorem exists_hold {β : Type} (talk : Dialogue β) (d : StorageDevice) (a : AttachedDevice δ)
    (past : Past) :
    ∃ transfers, ∀ start position s, Stands start position d a past s →
      (talk.hold s).1 = (talk.hold a).1 ∧
        Stands start position d (talk.hold a).2 (past.transfer transfers) (talk.hold s).2 := by
  induction talk generalizing a past with
  | done b =>
    refine ⟨[], fun start position s stands => ⟨rfl, ?_⟩⟩
    rw [Past.transfer_nil]
    exact stands
  | send octets next ih =>
    obtain ⟨transfers, rest⟩ := ih (BulkLink.send octets a).1 (BulkLink.send octets a).2
      (past.transfer [sending d a octets])
    refine ⟨sending d a octets :: transfers, fun start position s stands => ?_⟩
    obtain ⟨told, sent⟩ := stands.send octets
    rw [Past.transfer_transfer] at rest
    rw [Dialogue.hold, Dialogue.hold, told]
    exact rest start position _ sent
  | receive room next ih =>
    obtain ⟨transfers, rest⟩ := ih (BulkLink.receive room a).1 (BulkLink.receive room a).2
      (past.transfer [receiving d a room])
    refine ⟨receiving d a room :: transfers, fun start position s stands => ?_⟩
    obtain ⟨told, received⟩ := stands.receive room
    rw [Past.transfer_transfer] at rest
    rw [Dialogue.hold, Dialogue.hold, told]
    exact rest start position _ received
  | clearHalt next ih =>
    obtain ⟨transfers, rest⟩ := ih (BulkLink.clearHalt a).2 (past.transfer [clearing d a])
    refine ⟨clearing d a :: transfers, fun start position s stands => ?_⟩
    rw [Past.transfer_transfer] at rest
    exact rest start position _ stands.clearHalt

end

end Session

/-! ### From opening to closing -/

/-- The visit that ends with closing, which may come with a release. -/
def Past.visit (interface : UInt8) (surrendered : Option UsbError) (past : Past) : Visit :=
  .made interface past.detached past.uses surrendered

theorem Past.events_visit {position : Nat} {interface : UInt8} {past : Past}
    (unclaimed : past.claim = none) (surrendered : Option UsbError) :
    (past.visit interface surrendered).events position = past.events position interface ++
      (if past.held then [.surrendered position interface surrendered] else []) ++
      [.closed position] := by
  simp [visit, Visit.events, events, held, unclaimed]

namespace Session

/-- What the controller still holds goes with the handle. -/
theorem exists_dropHandle (d : StorageDevice) (a : AttachedDevice δ) {past : Past}
    (unclaimed : past.claim = none) :
    ∃ a' surrendered, a.Untouched a' ∧ ∀ start position s, Stands start position d a past s →
      Ends dropHandle (fun _ s' => Bus.Worked position start
        ((past.visit d.storage.number surrendered).events position) a' s'.bus) s := by
  by_cases held : past.held
  · refine ⟨(a.outcome .release).2, (a.outcome .release).1, a.untouched_outcome .release,
      fun start position s stands => ?_⟩
    rw [Past.events_visit unclaimed, if_pos held, dropHandle]
    refine Ends.bind_get ?_
    rw [stands.handle]
    simp only [held, if_true]
    refine Ends.bind (ends_onBus_perform stands.worked .release _) ?_
    rintro _ s' ⟨-, -, worked⟩
    exact fun _ => worked.note (.closed position)
  · refine ⟨a, none, .refl a, fun start position s stands => ?_⟩
    rw [Past.events_visit unclaimed, if_neg held, List.append_nil, dropHandle]
    refine Ends.bind_get ?_
    rw [stands.handle]
    simp only [held, Bool.false_eq_true, if_false]
    exact fun _ => stands.worked.note (.closed position)

theorem exists_close (d : StorageDevice) (a : AttachedDevice δ) (past : Past) :
    ∃ a' released surrendered, a.Untouched a' ∧ ∀ start position s,
      Stands start position d a past s → After s.close fun b => Bus.Worked position start
        (((past.settle released).visit d.storage.number surrendered).events position) a' b := by
  obtain ⟨a₁, released, untouched₁, does⟩ := exists_does_release d a past
  obtain ⟨a₂, surrendered, untouched₂, drops⟩ :=
    exists_dropHandle d a₁ (past.claim_settle released)
  refine ⟨a₂, released, surrendered, untouched₁.trans untouched₂,
    fun start position s stands => ?_⟩
  have dropped : Ends (do release; dropHandle : SessionM δ Unit) (fun _ s' => Bus.Worked position
      start (((past.settle released).visit d.storage.number surrendered).events position)
      a₂ s'.bus) s :=
    Ends.bind (does start position s stands) fun _ s₁ stands₁ => drops start position s₁ stands₁.2
  refine After.bind (Ends.after_iff.mp dropped) ?_
  rintro ⟨_, s'⟩ worked
  exact After.pure_iff.mpr worked

end Session

namespace Storage

variable {d : StorageDevice} {a a' : AttachedDevice δ}

theorem ends_openDevice_of_refused {fault : UsbError}
    (refused : a.outcome .opening = (some fault, a'))
    {position : Nat} {b : Bus δ} (there : b.devices[position]? = some a) :
    Ends (openDevice (d.placed position))
      (fun r b' => r = .error (.openFailed fault.reported) ∧
        Bus.Worked position b ((Visit.refused fault).events position) a' b') b := by
  obtain ⟨told, worked⟩ := Bus.perform_of_there there .opening (.opened position)
  rw [refused] at told worked
  have opening := gives_onBus (Bus.perform position .opening (.opened position)) b
  rw [told] at opening
  exact opening.bindEnds (Ends.pure_iff.mpr ⟨rfl, worked⟩)

/-- Where there is no device none can be opened. -/
theorem ends_openDevice_of_missing {b : Bus δ} (missing : b.devices[d.position]? = none) :
    Ends (openDevice d) (fun r b' => r = .error (.openFailed .noDevice) ∧
      b'.trace.toList = b.trace.toList ++ (Visit.refused .noDevice).events d.position) b := by
  have opening := gives_onBus (Bus.perform d.position .opening (.opened d.position)) b
  simp only [Bus.perform, bind, StateT.bind, Bus.outcome, Bus.atDevice, missing] at opening
  exact opening.bindEnds (Ends.pure_iff.mpr ⟨rfl, Array.toList_push⟩)

/-- A device that was opened stands at the start of its visit. -/
theorem exists_openDevice (d : StorageDevice) (opened : a.outcome .opening = (none, a')) :
    ∃ a'' detached, a.Untouched a'' ∧ ∀ position (b : Bus δ), b.devices[position]? = some a →
      Ends (openDevice (d.placed position)) (fun r b' => r = .ok { device := d.placed position } ∧
        Session.Stands b position d a'' { detached } ⟨b', { device := d.placed position }⟩) b := by
  have untouched := (AttachedDevice.untouched_of_outcome opened).trans
    (a'.untouched_outcome .autoDetach)
  refine ⟨(a'.outcome .autoDetach).2, (a'.outcome .autoDetach).1, untouched,
    fun position b there => ?_⟩
  obtain ⟨told, worked⟩ := Bus.perform_of_there there .opening (.opened position)
  rw [opened] at told worked
  obtain ⟨told', worked'⟩ := Bus.perform_of_there worked.there .autoDetach (.autoDetached position)
  have opening := gives_onBus (Bus.perform position .opening (.opened position)) b
  rw [told] at opening
  have stands : Session.Stands b position d (a'.outcome .autoDetach).2
      { detached := (a'.outcome .autoDetach).1 } ⟨_, { device := d.placed position }⟩ :=
    ⟨rfl, worked.trans worked'⟩
  refine opening.bindEnds ((gives_onBus _ _).bindEnds ?_)
  split
  · exact Ends.bind_lift (Ends.bind_lift (Ends.pure_iff.mpr ⟨rfl, stands⟩))
  · exact Ends.bind_lift (Ends.pure_iff.mpr ⟨rfl, stands⟩)

/-- Whatever could be opened stands at the start of its visit. -/
theorem exists_stands {d : StorageDevice} {bus opened : Bus δ} {handle : OpenDevice}
    (h : Gives (openDevice d) bus (.ok handle) opened) :
    ∃ a detached, Session.Stands bus d.position d a { detached } ⟨opened, handle⟩ := by
  cases there : bus.devices[d.position]? with
  | none =>
    obtain ⟨failed, -⟩ := h.holds (ends_openDevice_of_missing there)
    cases failed
  | some a =>
    rcases asked : a.outcome .opening with ⟨_ | fault, a'⟩
    · obtain ⟨a'', detached, -, opens⟩ := exists_openDevice d asked
      obtain ⟨same, stands⟩ := h.holds (opens d.position bus there)
      cases same
      exact ⟨a'', detached, stands⟩
    · obtain ⟨failed, -⟩ := h.holds (ends_openDevice_of_refused (d := d) asked there)
      cases failed

end Storage

/-! ### Sequences of visits -/

namespace Bus

/-- What a bus saw between two states is a sequence of visits. -/
def Visits (b b' : Bus δ) : Prop :=
  ∃ visits : List (Nat × Visit),
    b'.trace.toList = b.trace.toList ++ visits.flatMap fun v => v.2.events v.1

theorem Visits.of_trace_eq {b b' : Bus δ} (same : b'.trace = b.trace) : b.Visits b' :=
  ⟨[], by rw [same, List.flatMap_nil, List.append_nil]⟩

theorem Visits.one {b b' : Bus δ} {position : Nat} {visit : Visit}
    (trace : b'.trace.toList = b.trace.toList ++ visit.events position) : b.Visits b' :=
  ⟨[(position, visit)], by rw [trace, List.flatMap_singleton]⟩

theorem Visits.trans {b b' b'' : Bus δ} (first : b.Visits b') (second : b'.Visits b'') :
    b.Visits b'' := by
  obtain ⟨visits, trace⟩ := first
  obtain ⟨visits', trace'⟩ := second
  exact ⟨visits ++ visits', by rw [trace', trace, List.flatMap_append, List.append_assoc]⟩

end Bus

/-! ### Sequences of calls -/

/-- What a caller does with a session before it gives it up. -/
inductive SessionCall where
  | claim
  | release
  | converse (talk : Dialogue Unit)

namespace Session

variable [BulkLink δ]

def make : SessionCall → SessionM δ Unit
  | .claim => do let _ ← claim
  | .release => release
  | .converse talk => fun s => pure (talk.hold s)

theorem exists_does_make (call : SessionCall) (d : StorageDevice) (a : AttachedDevice δ)
    (past : Past) : ∃ a' past', Does (make call) d a past () a' past' := by
  cases call with
  | claim =>
    obtain ⟨r, a', past', does⟩ := exists_does_claim d a past
    refine ⟨a', past', fun start position s stands => ?_⟩
    exact Ends.bind (does start position s stands) fun _ _ h => Ends.pure_iff.mpr ⟨rfl, h.2⟩
  | release =>
    obtain ⟨a', released, -, does⟩ := exists_does_release d a past
    exact ⟨a', _, does⟩
  | converse talk =>
    obtain ⟨transfers, holds⟩ := exists_hold talk d a past
    exact ⟨_, _, fun start position s stands _ => ⟨rfl, (holds start position s stands).2⟩⟩

/-- After any calls a session stands in the middle of a visit. -/
theorem ends_forM_make (calls : List SessionCall) {start : Bus δ} {position : Nat}
    {d : StorageDevice} {a : AttachedDevice δ} {past : Past} {s : Session δ}
    (stands : Stands start position d a past s) :
    Ends (calls.forM make) (fun _ s' => ∃ a' past', Stands start position d a' past' s') s := by
  induction calls generalizing a past s with
  | nil => exact Ends.pure_iff.mpr ⟨a, past, stands⟩
  | cons call rest ih =>
    obtain ⟨a', past', does⟩ := exists_does_make call d a past
    exact Ends.bind (does start position s stands) fun _ _ h => ih h.2

/-- A session accounts for what was done with its device since a bus was in the state `start`. -/
structure Accounts (start : Bus δ) (d : StorageDevice) (past : Past) (s : Session δ) : Prop where
  trace : s.bus.trace.toList = start.trace.toList ++ past.events d.position d.storage.number
  /-- The flag is set while a claim stands. -/
  flag : s.handle.claimed = past.claim.isSome
  /-- While a claim stands, another is refused without a call. -/
  busy : past.claim.isSome → Gives claim s (.error (.busy d.storage.number)) s
  /-- Whenever the session is given up, a claim that stands is released and the device closed. -/
  closes : After s.close fun b => ∃ released surrendered, b.trace.toList = start.trace.toList ++
    ((past.settle released).visit d.storage.number surrendered).events d.position

/-- After any calls a session accounts for them. -/
theorem ends_calls {d : StorageDevice} {bus opened : Bus δ} {handle : OpenDevice}
    (h : Gives (Storage.openDevice d) bus (.ok handle) opened) (calls : List SessionCall) :
    Ends (calls.forM make) (fun _ s => ∃ past, Accounts bus d past s) ⟨opened, handle⟩ := by
  obtain ⟨a, detached, stands⟩ := Storage.exists_stands h
  refine (ends_forM_make calls stands).mono ?_
  rintro _ s ⟨a', past, stands⟩
  obtain ⟨_, released, surrendered, -, closes⟩ := exists_close d a' past
  have flag : s.handle.claimed = past.claim.isSome := by rw [stands.handle]
  constructor
  constructor
  · exact stands.worked.trace
  · exact flag
  · intro claimed
    have refused := gives_claim_of_claimed (s := s) (by rw [flag]; exact claimed)
    rwa [stands.handle] at refused
  · exact fun log => ⟨released, surrendered, (closes bus d.position s stands log).trace⟩

end Session

end PlayerLink
