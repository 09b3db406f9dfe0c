import PlayerLink.Proofs.Usb.Selection

/-!
# Devices that can be used

`Bus.Offers` is what a bus needs for a device with given ids to be found, opened and claimed: the
calls for this go well, and no device in front of it is taken for it. Nothing of this is used up by
using the device, so it can be opened again after it was closed.
-/

namespace PlayerLink

variable {δ : Type}

namespace AttachedDevice

/-- The device has the ids, its active configuration has an interface for mass storage, and none of
the calls from finding it to claiming it fails. -/
structure Available (id : DeviceId) (d : AttachedDevice δ) : Prop where
  vendorId : d.vendorId = id.vendorId
  productId : d.productId = id.productId
  storage : ∃ storage, d.active.storage? = some storage
  succeeds : ∀ call ∈ [.descriptor, .activeConfiguration, .opening, .claim],
    ∀ fault ∈ d.faults call, fault = none

/-- The device has other ids or no interface for mass storage, so a search for the ids does not end
with it. -/
def PassedOver (id : DeviceId) (d : AttachedDevice δ) : Prop :=
  d.vendorId = id.vendorId → d.productId = id.productId →
    d.active.storage? = none ∧ d.first.storage? = none

variable {id : DeviceId} {d d' : AttachedDevice δ}

theorem Untouched.available (h : d.Untouched d') (available : d.Available id) :
    d'.Available id where
  vendorId := h.vendorId.trans available.vendorId
  productId := h.productId.trans available.productId
  storage := by
    rw [h.active]
    exact available.storage
  succeeds call asked fault left :=
    available.succeeds call asked fault ((h.faults call).subset left)

theorem Untouched.passedOver (h : d.Untouched d') (passed : d.PassedOver id) :
    d'.PassedOver id := by
  rw [PassedOver, h.vendorId, h.productId, h.active, h.first]
  exact passed

/-- What a device is linked by does not matter for finding it. -/
theorem Available.relinked (available : d.Available id) (l : δ) :
    ({ d with link := l } : AttachedDevice δ).Available id :=
  ⟨available.vendorId, available.productId, available.storage, available.succeeds⟩

theorem Available.reads (available : d.Available id) {call : DeviceCall}
    (asked : call ∈ [.descriptor, .activeConfiguration, .opening, .claim]) : d.Reads call := by
  have succeeds := available.succeeds call asked
  rw [Reads]
  cases faults : d.faults call with
  | nil => rfl
  | cons fault rest =>
    rw [faults] at succeeds
    exact succeeds fault List.mem_cons_self

theorem Available.outcome (available : d.Available id) (call : DeviceCall)
    (asked : call ∈ [.descriptor, .activeConfiguration, .opening, .claim]) :
    (d.outcome call).1 = none :=
  (eq_none_of_outcome rfl).mpr (available.reads asked)

theorem Available.suits (available : d.Available id) : d.Suits id := by
  have seen : d.Shows d.active := .active (available.reads (by simp)) (available.reads (by simp))
  exact ⟨⟨available.vendorId, available.productId⟩, _, seen,
    Configuration.exists_storage?_iff.mp available.storage⟩

/-- A device without an interface does not suit, whatever of it can be read. -/
theorem PassedOver.not_suits (passed : d.PassedOver id) : ¬ d.Suits id := by
  rintro ⟨⟨vendorId, productId⟩, c, seen, usable⟩
  obtain ⟨i, offered⟩ := Configuration.exists_storage?_iff.mpr usable
  obtain ⟨active, first⟩ := passed vendorId productId
  cases seen with
  | active => exact nomatch active.symm.trans offered
  | first => exact nomatch first.symm.trans offered

end AttachedDevice

namespace Bus

/-- The devices are listed, and the first one that a search for the ids ends with stands at a place,
can be used, and is in a state of which `P` holds. -/
structure Offers (id : DeviceId) (position : Nat) (P : δ → Prop) (b : Bus δ) : Prop where
  lists : ∀ fault ∈ b.listFaults, fault = none
  device : ∃ d, b.devices[position]? = some d ∧ d.Available id ∧ P d.link
  first : ∀ (p : Nat) (d : AttachedDevice δ), p < position → b.devices[p]? = some d →
    d.PassedOver id

variable {id : DeviceId} {position : Nat} {P : δ → Prop} {b b' : Bus δ}

theorem Untouched.offers (h : b.Untouched b') (offers : b.Offers id position P) :
    b'.Offers id position P where
  lists fault left := offers.lists fault (h.listFaults.subset left)
  device := by
    obtain ⟨d, there, available, state⟩ := offers.device
    obtain ⟨d', there', untouched⟩ := h.exists_device there
    exact ⟨d', there', untouched.available available, untouched.link ▸ state⟩
  first p d' before there' := by
    have inside : p < b.devices.length := by
      rw [← h.count]
      exact (List.getElem?_eq_some_iff.mp there').1
    have there := List.getElem?_eq_getElem inside
    exact (h.devices p _ d' there there').passedOver (offers.first p _ before there)

/-- A call that does not fail on the device does not fail. -/
theorem perform_of_outcome {d : AttachedDevice δ} {call : DeviceCall}
    (there : b.devices[position]? = some d) (succeeds : (d.outcome call).1 = none)
    (event : Option UsbError → BusEvent) : (perform position call event b).1 = none := by
  rcases asked : d.outcome call with ⟨fault, d'⟩
  rw [asked] at succeeds
  subst succeeds
  simp only [perform, bind, StateT.bind, outcome, atDevice, there, asked]
  rfl

theorem Offers.perform (offers : b.Offers id position P) {call : DeviceCall}
    (asked : call ∈ [.descriptor, .activeConfiguration, .opening, .claim])
    (event : Option UsbError → BusEvent) : (perform position call event b).1 = none := by
  obtain ⟨d, there, available, -⟩ := offers.device
  exact perform_of_outcome there (available.outcome call asked) event

theorem Offers.listOutcome (offers : b.Offers id position P) : (Bus.listOutcome b).1 = none := by
  rw [Bus.listOutcome]
  cases faults : b.listFaults with
  | nil => rfl
  | cons fault rest =>
    have quiet := offers.lists fault (by rw [faults]; exact List.mem_cons_self ..)
    rw [quiet]
    rfl

end Bus

/-! ### Finding, opening and claiming -/

namespace Storage

variable {id : DeviceId}

/-- The search passes over the devices in front and takes the one that is available. -/
theorem exists_taken {devices : List (AttachedDevice δ)} {position : Nat} {d : AttachedDevice δ}
    (there : devices[position]? = some d) (available : d.Available id)
    (first : ∀ (p : Nat) (d : AttachedDevice δ), p < position → devices[p]? = some d →
      d.PassedOver id) :
    ∃ device, taken id (probeAll 0 devices).1 = some device ∧ device.position = position := by
  have ended := taken_probeAll id 0 devices
  generalize taken id (probeAll 0 devices).1 = outcome at ended ⊢
  cases ended with
  | @first before after a i split passed named found =>
    refine ⟨_, rfl, (Nat.zero_add _).trans ?_⟩
    obtain early | same | late := Nat.lt_trichotomy before.length position
    · have here : devices[before.length]? = some a := by
        rw [split, List.getElem?_append_right (Nat.le_refl _), Nat.sub_self]
        rfl
      exact absurd (AttachedDevice.suits_iff.mpr ⟨named, i, found⟩)
        (first before.length a early here).not_suits
    · exact same
    · rw [split, List.getElem?_append_left late] at there
      exact absurd available.suits (passed d (List.mem_of_getElem? there))
  | none unsuited => exact absurd available.suits (unsuited d (List.mem_of_getElem? there))

theorem gives_onBus {α : Type} (step : StateM (Bus δ) α) (b : Bus δ) :
    Gives (onBus step) b (step b).1 (step b).2 :=
  fun _ => ⟨rfl, rfl⟩

variable {position : Nat} {P : δ → Prop} {b : Bus δ}

/-- Listing the devices, if it does not fail, tells what is found by looking at each. -/
theorem exists_gives_list (lists : (Bus.listOutcome b).1 = none) :
    ∃ b', Gives list b (.ok (probeAll 0 b.devices).1) b' ∧ b.Untouched b' := by
  rcases listed : Bus.listOutcome b with ⟨fault, b₁⟩
  rw [listed] at lists
  have devices : b₁.devices = b.devices := (congrArg (fun r => r.2.devices) listed).symm
  subst lists
  have given : Gives list b (.ok (probeAll 0 b.devices).1)
      { b₁ with devices := (probeAll 0 b.devices).2 } := by
    intro log
    simp only [list, listed, devices]
    exact ⟨rfl, rfl⟩
  exact ⟨_, given, (given.holds (ends_list b)).untouched⟩

/-- A search that is not for the empty ids takes the first of the devices found that has the ids. -/
theorem exists_gives_find_of_lists (named : ¬ (id.vendorId = 0 ∧ id.productId = 0))
    (lists : (Bus.listOutcome b).1 = none) :
    ∃ b', Gives (find id.vendorId id.productId) b
      ((taken id (probeAll 0 b.devices).1).elim (.error (.notFound id.vendorId id.productId)) .ok)
      b' ∧ b.Untouched b' := by
  obtain ⟨b', given, untouched⟩ := exists_gives_list lists
  refine ⟨b', ?_, untouched⟩
  rw [find, if_neg named]
  refine given.bindEnds ?_
  simp only
  split
  next device first =>
    rw [show taken id (probeAll 0 b.devices).1 = some device from first]
    exact Gives.pure _ _
  next nothing =>
    rw [show taken id (probeAll 0 b.devices).1 = none from nothing]
    exact Gives.pure _ _

theorem exists_gives_find (named : ¬ (id.vendorId = 0 ∧ id.productId = 0))
    (offers : b.Offers id position P) :
    ∃ device b', Gives (find id.vendorId id.productId) b (.ok device) b' ∧ b.Untouched b' ∧
      device.position = position := by
  obtain ⟨d, there, available, -⟩ := offers.device
  obtain ⟨device, taken, place⟩ := exists_taken there available offers.first
  obtain ⟨b', given, untouched⟩ := exists_gives_find_of_lists named offers.listOutcome
  rw [taken] at given
  exact ⟨device, b', given, untouched, place⟩

/-- That the system's own driver cannot be kept away is only logged. -/
theorem exists_gives_openDevice {d : StorageDevice}
    (opens : (Bus.perform d.position .opening (.opened d.position) b).1 = none) :
    ∃ b', Gives (openDevice d) b (.ok { device := d }) b' ∧ b.Untouched b' := by
  have opened := gives_onBus (Bus.perform d.position .opening (.opened d.position)) b
  rw [opens] at opened
  have asked := Bus.untouched_perform d.position .opening (.opened d.position) b
  have detached := Bus.untouched_perform d.position .autoDetach (.autoDetached d.position)
    (Bus.perform d.position .opening (.opened d.position) b).2
  refine ⟨_, ?_, asked.trans detached⟩
  refine opened.bindEnds ((gives_onBus _ _).bindEnds ?_)
  split
  · exact Ends.bind_lift (Ends.bind_lift (Gives.pure _ _))
  · exact Ends.bind_lift (Gives.pure _ _)

end Storage

/-- A device that was just opened is claimed if the controller does not refuse. -/
theorem Session.exists_gives_claim {s : Session δ} (unclaimed : s.handle.claimed = false)
    (succeeds : (Bus.perform s.handle.device.position .claim
      (.claimed s.handle.device.position s.handle.device.storage.number) s.bus).1 = none) :
    ∃ s', Gives claim s (.ok ()) s' ∧ Session.Idle s s' := by
  let claiming : StateM (Bus δ) (Option UsbError) := Bus.perform s.handle.device.position .claim
    (.claimed s.handle.device.position s.handle.device.storage.number)
  have asked : Gives (Session.onBus claiming) s (claiming s.bus).1
      { s with bus := (claiming s.bus).2 } :=
    fun _ => ⟨rfl, rfl⟩
  rw [succeeds] at asked
  have given : Gives claim s (.ok ()) ⟨(claiming s.bus).2,
      { s.handle with claimed := true, held := true }⟩ := by
    rw [claim]
    refine Ends.bind_get ?_
    simp only [unclaimed, Bool.false_eq_true, if_false]
    refine asked.bindEnds ?_
    exact fun _ => ⟨rfl, rfl⟩
  exact ⟨_, given, given.holds (ends_claim s)⟩

/-- The device with the given ids is found on the bus, it can be opened, and its interface can be
claimed. -/
def Opens (id : DeviceId) (bus : Bus δ) (session : Session δ) : Prop :=
  ∃ device found opened handle,
    Gives (Storage.find id.vendorId id.productId) bus (.ok device) found ∧
    Gives (Storage.openDevice device) found (.ok handle) opened ∧
    Gives Session.claim ⟨opened, handle⟩ (.ok ()) session

/-- A device that is offered opens, and the offer stands. -/
theorem Bus.Offers.exists_opens {id : DeviceId} {position : Nat} {P : δ → Prop} {b : Bus δ}
    (offers : b.Offers id position P) (named : ¬ (id.vendorId = 0 ∧ id.productId = 0)) :
    ∃ session, Opens id b session ∧ session.handle.device.position = position ∧
      session.bus.Offers id position P := by
  obtain ⟨device, b₁, find, untouched₁, rfl⟩ := Storage.exists_gives_find named offers
  have offers₁ := untouched₁.offers offers
  obtain ⟨b₂, openDevice, untouched₂⟩ :=
    Storage.exists_gives_openDevice (offers₁.perform (by simp) (.opened device.position))
  have offers₂ := untouched₂.offers offers₁
  obtain ⟨session, claim, idle⟩ := Session.exists_gives_claim (s := ⟨b₂, { device }⟩) rfl
    (offers₂.perform (by simp) _)
  exact ⟨session, ⟨device, b₁, b₂, _, find, openDevice, claim⟩,
    congrArg StorageDevice.position idle.device, idle.bus.offers offers₂⟩

end PlayerLink
