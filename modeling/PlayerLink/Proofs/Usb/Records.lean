import PlayerLink.Proofs.Engine.Transcript
import PlayerLink.Storage

/-!
# Records of the devices on a bus

The devices on a bus may each keep a record of the calls that were made on them. Looking for a
device, opening, claiming, releasing and closing it calls none of them: they stay `Untouched`, but
for outcomes of such calls that are used up. The transfers of a session add to the record of its
device and to no other.
-/

namespace PlayerLink

variable {δ α : Type}

/-- What the devices on a bus are linked by, in their order. -/
def Bus.links (b : Bus δ) : List δ := b.devices.map AttachedDevice.link

/-- The calls that were made on the device at a place. -/
def Bus.record (b : Bus (Recorded δ)) (position : Nat) : List LinkCall :=
  ((b.links[position]?).map fun l => l.calls.toList).getD []

/-! ### Calls that reach no device -/

namespace AttachedDevice

/-- A device is as it was, but for outcomes of calls to come that were used up. -/
structure Untouched (d d' : AttachedDevice δ) : Prop where
  same : { d' with faults := d.faults } = d
  faults : ∀ call, d'.faults call <:+ d.faults call

namespace Untouched

variable {d d' d'' : AttachedDevice δ}

theorem refl (d : AttachedDevice δ) : Untouched d d := ⟨rfl, fun _ => List.suffix_rfl⟩

theorem trans (first : Untouched d d') (second : Untouched d' d'') : Untouched d d'' where
  same :=
    calc { d'' with faults := d.faults }
        = { ({ d'' with faults := d'.faults } : AttachedDevice δ) with faults := d.faults } := rfl
      _ = { d' with faults := d.faults } := by rw [second.same]
      _ = d := first.same
  faults call := (second.faults call).trans (first.faults call)

/-- What does not depend on the outcomes to come is the same. -/
theorem congr {β : Type} (h : Untouched d d') {f : AttachedDevice δ → β}
    (blind : ∀ (d : AttachedDevice δ) faults, f { d with faults } = f d) : f d' = f d :=
  calc f d' = f { d' with faults := d.faults } := (blind d' d.faults).symm
    _ = f d := congrArg f h.same

theorem link (h : Untouched d d') : d'.link = d.link := h.congr fun _ _ => rfl

theorem vendorId (h : Untouched d d') : d'.vendorId = d.vendorId := h.congr fun _ _ => rfl

theorem productId (h : Untouched d d') : d'.productId = d.productId := h.congr fun _ _ => rfl

theorem active (h : Untouched d d') : d'.active = d.active := h.congr fun _ _ => rfl

theorem first (h : Untouched d d') : d'.first = d.first := h.congr fun _ _ => rfl

end Untouched

theorem untouched_outcome (call : DeviceCall) (d : AttachedDevice δ) :
    d.Untouched (d.outcome call).2 := by
  rw [outcome]
  split
  · exact .refl d
  · rename_i fault rest faults
    refine ⟨rfl, ?_⟩
    intro other
    by_cases here : other = call
    · subst here
      rw [faults]
      simp only [if_true, List.suffix_cons]
    · simp only [if_neg here, List.suffix_rfl]

theorem untouched_of_outcome {call : DeviceCall} {d d' : AttachedDevice δ}
    {fault : Option UsbError} (h : d.outcome call = (fault, d')) : d.Untouched d' := by
  have untouched := untouched_outcome call d
  rwa [h] at untouched

theorem untouched_probe (d : AttachedDevice δ) : d.Untouched d.probe.2 := by
  rcases h₁ : d.outcome .descriptor with ⟨fault₁, d₁⟩
  have first := untouched_of_outcome h₁
  rw [probe, h₁]
  cases fault₁ with
  | some _ => exact first
  | none =>
    rcases h₂ : d₁.outcome .activeConfiguration with ⟨fault₂, d₂⟩
    have second := first.trans (untouched_of_outcome h₂)
    simp only [h₂]
    cases fault₂ with
    | none => exact second
    | some _ =>
      rcases h₃ : d₂.outcome .firstConfiguration with ⟨fault₃, d₃⟩
      have third := second.trans (untouched_of_outcome h₃)
      simp only [h₃]
      cases fault₃ with
      | none => exact third
      | some _ => exact third

end AttachedDevice

namespace Bus

/-- The devices on a bus are as they were, but for outcomes of calls to come that were used up. -/
structure Untouched (b b' : Bus δ) : Prop where
  count : b'.devices.length = b.devices.length
  devices : ∀ (p : Nat) (d d' : AttachedDevice δ), b.devices[p]? = some d →
    b'.devices[p]? = some d' → d.Untouched d'
  listFaults : b'.listFaults <:+ b.listFaults

namespace Untouched

variable {b b' b'' : Bus δ}

theorem of_devices_eq (devices : b'.devices = b.devices)
    (listFaults : b'.listFaults <:+ b.listFaults) : b.Untouched b' where
  count := congrArg List.length devices
  devices p d d' before after := by
    rw [devices, before, Option.some.injEq] at after
    exact after ▸ .refl d
  listFaults := listFaults

theorem refl (b : Bus δ) : b.Untouched b := of_devices_eq rfl List.suffix_rfl

/-- A device that was there is there still. -/
theorem exists_device (h : b.Untouched b') {p : Nat} {d : AttachedDevice δ}
    (there : b.devices[p]? = some d) : ∃ d', b'.devices[p]? = some d' ∧ d.Untouched d' := by
  have inside : p < b'.devices.length := by
    rw [h.count]
    exact (List.getElem?_eq_some_iff.mp there).1
  have there' := List.getElem?_eq_getElem inside
  exact ⟨_, there', h.devices p d _ there there'⟩

theorem trans (first : b.Untouched b') (second : b'.Untouched b'') : b.Untouched b'' where
  count := second.count.trans first.count
  devices p d d'' before after := by
    obtain ⟨d', there, untouched⟩ := first.exists_device before
    exact untouched.trans (second.devices p d' d'' there after)
  listFaults := second.listFaults.trans first.listFaults

theorem links (h : b.Untouched b') : b'.links = b.links := by
  apply List.ext_getElem?
  intro p
  rw [Bus.links, Bus.links, List.getElem?_map, List.getElem?_map]
  cases before : b.devices[p]? with
  | some d =>
    obtain ⟨d', after, untouched⟩ := h.exists_device before
    rw [after, Option.map_some, Option.map_some, untouched.link]
  | none =>
    rw [List.getElem?_eq_none_iff, ← h.count, ← List.getElem?_eq_none_iff] at before
    rw [before]

end Untouched

theorem untouched_atDevice (position : Nat) (missing : α)
    (step : AttachedDevice δ → α × AttachedDevice δ)
    (same : ∀ d : AttachedDevice δ, d.Untouched (step d).2) (b : Bus δ) :
    b.Untouched (atDevice position missing step b).2 := by
  rw [atDevice]
  split
  · exact .refl b
  · rename_i d there
    refine ⟨List.length_set, ?_, List.suffix_rfl⟩
    intro p d₁ d₂ before after
    by_cases here : position = p
    · subst here
      rw [there, Option.some.injEq] at before
      rw [List.getElem?_set_self (List.getElem?_eq_some_iff.mp there).1, Option.some.injEq] at after
      exact before ▸ after ▸ same d
    · rw [List.getElem?_set_ne here, before, Option.some.injEq] at after
      exact after ▸ .refl d₁

theorem untouched_perform (position : Nat) (call : DeviceCall)
    (event : Option UsbError → BusEvent) (b : Bus δ) :
    b.Untouched (perform position call event b).2 := by
  have asked := untouched_atDevice position (some .noDevice) (AttachedDevice.outcome call)
    (AttachedDevice.untouched_outcome call) b
  exact asked.trans (.of_devices_eq rfl List.suffix_rfl)

theorem record_eq {b b' : Bus (Recorded δ)} (same : b'.links = b.links) (position : Nat) :
    b'.record position = b.record position := by
  rw [record, same, record]

theorem record_congr {b b' : Bus (Recorded δ)} {position : Nat}
    (same : b'.devices[position]? = b.devices[position]?) :
    b'.record position = b.record position := by
  rw [record, record, links, links, List.getElem?_map, List.getElem?_map, same]

theorem record_of_there {b : Bus (Recorded δ)} {position : Nat} {a : AttachedDevice (Recorded δ)}
    (there : b.devices[position]? = some a) : b.record position = a.link.calls.toList := by
  rw [record, links, List.getElem?_map, there]
  rfl

/-- The record of the device at a place has grown, and that of no other. -/
structure Grew (position : Nat) (b : Bus (Recorded δ)) (new : List LinkCall)
    (b' : Bus (Recorded δ)) : Prop where
  here : b'.record position = b.record position ++ new
  others : ∀ p, p ≠ position → b'.record p = b.record p

namespace Grew

variable {position : Nat} {b b' b'' : Bus (Recorded δ)} {x y : List LinkCall}

theorem of_links_eq (same : b'.links = b.links) : Grew position b [] b' where
  here := by rw [record_eq same, List.append_nil]
  others p _ := record_eq same p

theorem trans (first : Grew position b x b') (second : Grew position b' y b'') :
    Grew position b (x ++ y) b'' where
  here := by rw [second.here, first.here, List.append_assoc]
  others p other := (second.others p other).trans (first.others p other)

end Grew

theorem onLink_of_there {β : Type} {position : Nat} {b : Bus δ} {d : AttachedDevice δ}
    (call : StateM δ (Except UsbError β)) (there : b.devices[position]? = some d) :
    onLink position call b = ((call d.link).1,
      { b with devices := b.devices.set position { d with link := (call d.link).2 } }) := by
  rw [onLink, atDevice, there]
  rfl

theorem links_onLink_of_there {β : Type} {position : Nat} {b : Bus δ} {d : AttachedDevice δ}
    (call : StateM δ (Except UsbError β)) (there : b.devices[position]? = some d) :
    (onLink position call b).2.links = b.links.set position (call d.link).2 := by
  rw [onLink_of_there call there, links, List.map_set]
  rfl

/-- A call on the link of a device that is there. -/
theorem grew_onLink_of_there {β : Type} {position : Nat} {b : Bus (Recorded δ)}
    {d : AttachedDevice (Recorded δ)} {call : StateM (Recorded δ) (Except UsbError β)}
    {new : List LinkCall} (there : b.devices[position]? = some d)
    (grown : Recorded.Grew d.link new (call d.link).2) :
    Grew position b new (onLink position call b).2 := by
  have before : b.links[position]? = some d.link := by
    rw [links, List.getElem?_map, there]
    rfl
  have lt : position < b.links.length := (List.getElem?_eq_some_iff.mp before).1
  have after := links_onLink_of_there call there
  refine ⟨?_, ?_⟩
  · rw [record, after, List.getElem?_set_self lt, record, before]
    exact grown
  · intro p other
    rw [record, after, List.getElem?_set_ne (Ne.symm other), record]

/-- A call on the link of a device, if there is one. -/
theorem grew_onLink {β : Type} (position : Nat)
    (call : StateM (Recorded δ) (Except UsbError β)) {note : Except UsbError β → LinkCall}
    (noted : ∀ l, ∃ new, Recorded.Grew l new (call l).2 ∧ Noted note (call l).1 new)
    (b : Bus (Recorded δ)) :
    ∃ new, Grew position b new (onLink position call b).2 ∧
      Noted note (onLink position call b).1 new := by
  cases there : b.devices[position]? with
  | none =>
    rw [onLink, atDevice, there]
    exact ⟨[], .of_links_eq rfl, .missing _⟩
  | some d =>
    obtain ⟨new, grown, told⟩ := noted d.link
    refine ⟨new, grew_onLink_of_there there grown, ?_⟩
    rw [onLink_of_there call there]
    exact told

theorem clearHalt_snd [BulkLink δ] (position : Nat) (endpoint : UInt8) (b : Bus δ) :
    (clearHalt position endpoint b).2 =
      (perform position .clearHalt (.haltCleared position endpoint)
        (onLink position BulkLink.clearHalt b).2).2 := by
  rcases first : onLink position (BulkLink.clearHalt : StateM δ _) b with ⟨told, b₁⟩
  rcases second : perform position .clearHalt (.haltCleared position endpoint) b₁ with ⟨fault, b₂⟩
  simp only [clearHalt, bind, StateT.bind, first, second]
  cases fault <;> rfl

/-- The device takes part in clearing a halt, and the controller's own call adds nothing. -/
theorem grew_clearHalt [BulkLink δ] (position : Nat) (endpoint : UInt8) (b : Bus (Recorded δ)) :
    ∃ new, Grew position b new (clearHalt position endpoint b).2 ∧ LinkCall.sends new = [] := by
  obtain ⟨new, grown, noted⟩ := grew_onLink position BulkLink.clearHalt
    (Recorded.grew_noting BulkLink.clearHalt .clearHalt) b
  refine ⟨new, ?_, noted.sends_eq_nil fun _ => rfl⟩
  have controller := grown.trans (.of_links_eq (untouched_perform position .clearHalt
    (.haltCleared position endpoint) (onLink position BulkLink.clearHalt b).2).links)
  rwa [List.append_nil, ← clearHalt_snd] at controller

end Bus

/-- A failure that is told in other words is noted as before. -/
theorem Noted.mapError {note : Except UsbError α → LinkCall} {told : Except UsbError α}
    {new : List LinkCall} (noted : Noted note told new) (f : UsbError → UsbError) :
    Noted note (told.mapError f) new := by
  cases noted with
  | made outcome ok =>
    refine .made outcome ?_
    intro a h
    cases told with
    | error e => cases h
    | ok b =>
      cases h
      exact ok _ rfl
  | missing e => exact .missing (f e)

/-! ### Sessions -/

namespace Session

/-- The record of the device of a session has grown, and all else is the same. -/
structure Grew (s : Session (Recorded δ)) (new : List LinkCall) (s' : Session (Recorded δ)) :
    Prop where
  handle : s'.handle = s.handle
  bus : Bus.Grew s.handle.device.position s.bus new s'.bus

theorem transcript [BulkLink δ] : Transcript (Session.Grew : Session (Recorded δ) → _) where
  refl s := ⟨rfl, .of_links_eq rfl⟩
  trans {s s' s'' x y} first second := by
    refine ⟨second.handle.trans first.handle, first.bus.trans ?_⟩
    rw [← first.handle]
    exact second.bus
  send data s := by
    obtain ⟨new, grown, noted⟩ := Bus.grew_onLink s.handle.device.position (BulkLink.send data)
      (Recorded.transcript.send data) s.bus
    exact ⟨new, ⟨rfl, grown.here, grown.others⟩, noted.mapError _⟩
  receive room s := by
    obtain ⟨new, grown, noted⟩ := Bus.grew_onLink s.handle.device.position (BulkLink.receive room)
      (Recorded.transcript.receive room) s.bus
    exact ⟨new, ⟨rfl, grown.here, grown.others⟩, noted.mapError _⟩
  clearHalt s := by
    obtain ⟨new, grown, silent⟩ := Bus.grew_clearHalt s.handle.device.position
      s.handle.device.storage.input.address s.bus
    exact ⟨new, ⟨rfl, grown⟩, silent⟩

end Session

/-! ### Before and after a session -/

namespace Storage

/-- Looking at the devices in front of a place and behind it. -/
theorem length_probeAll (position : Nat) (devices : List (AttachedDevice δ)) :
    (probeAll position devices).2.length = devices.length := by
  induction devices generalizing position with
  | nil => rfl
  | cons d rest ih => exact congrArg (· + 1) (ih (position + 1))

theorem untouched_probeAll (position : Nat) (devices : List (AttachedDevice δ)) (p : Nat)
    (d d' : AttachedDevice δ) (before : devices[p]? = some d)
    (after : (probeAll position devices).2[p]? = some d') : d.Untouched d' := by
  induction devices generalizing position p with
  | nil => cases before
  | cons first rest ih =>
    change (first.probe.2 :: (probeAll (position + 1) rest).2)[p]? = some d' at after
    cases p with
    | zero =>
      cases before
      cases after
      exact AttachedDevice.untouched_probe _
    | succ p => exact ih (position + 1) p before after

theorem untouched_listOutcome (b : Bus δ) : b.Untouched (Bus.listOutcome b).2 :=
  .of_devices_eq rfl (List.tail_suffix _)

/-- Looking at the devices leaves nothing in the trace. -/
structure Viewed (b b' : Bus δ) : Prop where
  untouched : b.Untouched b'
  trace : b'.trace = b.trace

theorem ends_list (b : Bus δ) : Ends list (fun _ b' => Viewed b b') b := by
  intro log
  have listed : Viewed b (Bus.listOutcome b).2 := ⟨untouched_listOutcome b, rfl⟩
  rcases result : Bus.listOutcome b with ⟨fault, b'⟩
  rw [result] at listed
  simp only [list, result]
  cases fault with
  | some e => exact listed
  | none =>
    refine ⟨listed.untouched.trans ?_, listed.trace⟩
    exact ⟨length_probeAll 0 b'.devices, untouched_probeAll 0 b'.devices, List.suffix_rfl⟩

theorem ends_find (vendorId productId : UInt16) (b : Bus δ) :
    Ends (find vendorId productId) (fun _ b' => Viewed b b') b := by
  rw [find]
  by_cases null : vendorId = 0 ∧ productId = 0
  · rw [if_pos null]
    exact Ends.pure_iff.mpr ⟨.refl b, rfl⟩
  · rw [if_neg null]
    refine Ends.bind (ends_list b) ?_
    rintro found b' viewed
    cases found with
    | error e => exact Ends.pure_iff.mpr viewed
    | ok devices =>
      simp only
      split
      · exact Ends.pure_iff.mpr viewed
      · exact Ends.pure_iff.mpr viewed

end Storage

namespace Session

variable {s s' s'' : Session δ}

/-- Nothing was transferred, and the device is the one that was opened. -/
structure Idle (s s' : Session δ) : Prop where
  bus : s.bus.Untouched s'.bus
  device : s'.handle.device = s.handle.device

theorem Idle.refl (s : Session δ) : Idle s s := ⟨.refl s.bus, rfl⟩

theorem Idle.trans (first : Idle s s') (second : Idle s' s'') : Idle s s'' :=
  ⟨first.bus.trans second.bus, second.device.trans first.device⟩

theorem ends_setHandle (change : OpenDevice → OpenDevice)
    (same : ∀ h, (change h).device = h.device) (s : Session δ) :
    Ends (setHandle change) (fun _ s' => Idle s s') s :=
  fun _ => ⟨.refl s.bus, same s.handle⟩

theorem ends_perform (position : Nat) (call : DeviceCall) (event : Option UsbError → BusEvent)
    (s : Session δ) :
    Ends (onBus (Bus.perform position call event)) (fun _ s' => Idle s s') s :=
  fun _ => ⟨Bus.untouched_perform position call event s.bus, rfl⟩

theorem ends_claim (s : Session δ) : Ends claim (fun _ s' => Idle s s') s := by
  rw [claim]
  refine Ends.bind_get ?_
  by_cases claimed : s.handle.claimed
  · simp only [if_pos claimed]
    exact Ends.pure_iff.mpr (.refl s)
  · simp only [if_neg claimed]
    refine Ends.bind (ends_perform _ _ _ s) ?_
    rintro fault s₁ idle
    cases fault with
    | none =>
      refine Ends.bind (ends_setHandle _ (by intro; rfl) s₁) ?_
      rintro _ s₂ idle'
      exact Ends.pure_iff.mpr (idle.trans idle')
    | some e => cases e <;> exact Ends.pure_iff.mpr idle

theorem ends_release (s : Session δ) : Ends release (fun _ s' => Idle s s') s := by
  rw [release]
  refine Ends.bind_get ?_
  by_cases claimed : s.handle.claimed
  · simp only [if_pos claimed]
    refine Ends.bind (ends_setHandle _ (by intro; rfl) s) ?_
    rintro _ s₁ idle₁
    refine Ends.bind (ends_perform _ _ _ s₁) ?_
    rintro fault s₂ idle₂
    have idle := idle₁.trans idle₂
    cases fault with
    | none => exact (ends_setHandle _ (by intro; rfl) s₂).mono fun _ _ idle₃ => idle.trans idle₃
    | some e => exact Ends.lift_iff.mpr idle
  · simp only [if_neg claimed]
    exact Ends.pure_iff.mpr (.refl s)

theorem ends_dropHandle (s : Session δ) : Ends dropHandle (fun _ s' => Idle s s') s := by
  have closed (s : Session δ) (position : Nat) :
      Ends (onBus (Bus.note (.closed position))) (fun _ s' => Idle s s') s :=
    fun _ => ⟨.of_devices_eq rfl List.suffix_rfl, rfl⟩
  rw [dropHandle]
  refine Ends.bind_get ?_
  by_cases held : s.handle.held
  · simp only [if_pos held]
    refine Ends.bind (ends_perform _ _ _ s) ?_
    rintro _ s₁ idle₁
    refine Ends.bind (ends_setHandle _ (by intro; rfl) s₁) ?_
    rintro _ s₂ idle₂
    exact (closed s₂ _).mono fun _ _ idle₃ => (idle₁.trans idle₂).trans idle₃
  · simp only [if_neg held]
    exact closed s _

theorem after_close (s : Session δ) : After s.close fun b => s.bus.Untouched b := by
  have both : Ends (do release; dropHandle : SessionM δ Unit) (fun _ s' => Idle s s') s :=
    (ends_release s).bind fun _ s₁ idle₁ =>
      (ends_dropHandle s₁).mono fun _ _ idle₂ => idle₁.trans idle₂
  refine After.bind (Ends.after_iff.mp both) ?_
  rintro ⟨_, s'⟩ idle
  exact After.pure_iff.mpr idle.bus

end Session

end PlayerLink
