import PlayerLink.Proofs.Program.Enumeration
import PlayerLink.Proofs.Usb.Presence

/-!
# The device that a search selects

A search for ids ends with the first device that has them and shows a setting for bulk-only mass
storage with a bulk endpoint for either direction. Only such a setting counts, and the first one
that does gives the interface with its number, its subclass and both of its endpoints; a setting in
front that has half of what is needed adds nothing to it. A device that shows no configuration could
as well not be there.
-/

namespace PlayerLink

section

variable {δ : Type} {id : DeviceId} {a : AttachedDevice δ}

/-- The device told of is this one, the first that suits, behind the others. -/
structure SuitsFirst (id : DeviceId) (before : List (AttachedDevice δ)) (a : AttachedDevice δ)
    (device : StorageDevice) : Prop where
  passed : ∀ other ∈ before, ¬ other.Suits id
  suits : a.Suits id
  place : device.position = before.length
  ids : device.vendorId = a.vendorId ∧ device.productId = a.productId
  port : device.busNumber = a.busNumber ∧ device.address = a.address
  storage : ∃ c, a.Shows c ∧ device.storage.FirstOf c

/-- What a search for ids comes to among devices. -/
structure Selected (id : DeviceId) (devices : List (AttachedDevice δ))
    (outcome : Except StorageError StorageDevice) : Prop where
  first : ∀ device, outcome = .ok device →
    ∃ before a after, devices = before ++ a :: after ∧ SuitsFirst id before a device
  found : (∃ device, outcome = .ok device) ↔ ∃ a ∈ devices, a.Suits id
  missing : outcome = .error (.notFound id.vendorId id.productId) ↔ ∀ a ∈ devices, ¬ a.Suits id

namespace Storage

variable {devices : List (AttachedDevice δ)}

theorem Taken.selected {device : Option StorageDevice} (taken : Taken id 0 devices device) :
    Selected id devices (device.elim (.error (.notFound id.vendorId id.productId)) .ok) := by
  cases taken with
  | @first before after a i split passed named found =>
    have suits := AttachedDevice.suits_iff.mpr ⟨named, i, found⟩
    have mem : a ∈ devices := by
      rw [split]
      exact List.mem_append_right before List.mem_cons_self
    constructor
    · rintro _ ⟨⟩
      obtain ⟨c, seen, offered⟩ := AttachedDevice.exists_shows_of_probe found
      refine ⟨before, a, after, split, passed, suits, Nat.zero_add _, ⟨rfl, rfl⟩, ⟨rfl, rfl⟩, c,
        seen, ?_⟩
      exact Configuration.firstOf_of_storage? offered
    · exact iff_of_true ⟨_, rfl⟩ ⟨a, mem, suits⟩
    · exact iff_of_false nofun fun unsuited => unsuited a mem suits
  | none unsuited =>
    constructor
    · nofun
    · exact iff_of_false nofun fun ⟨a, mem, suits⟩ => unsuited a mem suits
    · exact iff_of_true rfl unsuited

/-! ### Devices that cannot be read -/

theorem probeAll_append (start : Nat) (front back : List (AttachedDevice δ)) :
    (probeAll start (front ++ back)).1 =
      (probeAll start front).1 ++ (probeAll (start + front.length) back).1 := by
  induction front generalizing start with
  | nil => rfl
  | cons a rest ih =>
    show (a.asStorage start).toList ++ (probeAll (start + 1) (rest ++ back)).1 = _
    rw [ih, ← List.append_assoc, List.length_cons, Nat.add_assoc start 1, Nat.add_comm 1]
    rfl

/-- What is found does not depend on where the devices start but for the places. -/
theorem probeAll_succ (start : Nat) (devices : List (AttachedDevice δ)) :
    (probeAll (start + 1) devices).1 =
      (probeAll start devices).1.map fun d => d.placed (d.position + 1) := by
  induction devices generalizing start with
  | nil => rfl
  | cons a rest ih =>
    have here : a.asStorage (start + 1) =
        (a.asStorage start).map fun d => d.placed (d.position + 1) := by
      rw [AttachedDevice.asStorage, AttachedDevice.asStorage, Option.map_map]
      rfl
    show (a.asStorage (start + 1)).toList ++ (probeAll (start + 1 + 1) rest).1 =
      ((a.asStorage start).toList ++ (probeAll (start + 1) rest).1).map _
    rw [here, ih, List.map_append, Option.toList_map]

end Storage

end

/-- The storage device after another device was put on the bus at a place. -/
def StorageDevice.madeRoom (place : Nat) (d : StorageDevice) : StorageDevice :=
  if d.position < place then d else d.placed (d.position + 1)

theorem StorageDevice.ids_madeRoom (place : Nat) (d : StorageDevice) :
    (d.madeRoom place).vendorId = d.vendorId ∧ (d.madeRoom place).productId = d.productId := by
  rw [madeRoom]
  split
  · exact ⟨rfl, rfl⟩
  · exact ⟨rfl, rfl⟩

section

variable {δ : Type} {id : DeviceId} {a : AttachedDevice δ}

namespace Storage

/-- A device that shows no configuration is not found, and what is found of the others is the same.
-/
theorem probeAll_unreadable (front back : List (AttachedDevice δ)) (unreadable : a.Unreadable) :
    (probeAll 0 (front ++ a :: back)).1 =
      (probeAll 0 (front ++ back)).1.map (StorageDevice.madeRoom front.length) := by
  have before : (probeAll 0 front).1.map (StorageDevice.madeRoom front.length) =
      (probeAll 0 front).1 := by
    refine (List.map_congr_left fun d mem => ?_).trans (List.map_id _)
    obtain ⟨p, b, place, there, -⟩ := mem_probeAll mem
    have inside := (List.getElem?_eq_some_iff.mp there).1
    exact if_pos (by omega)
  have behind : (probeAll front.length back).1.map (StorageDevice.madeRoom front.length) =
      (probeAll (front.length + 1) back).1 := by
    rw [probeAll_succ]
    refine List.map_congr_left fun d mem => ?_
    obtain ⟨p, b, place, -⟩ := mem_probeAll mem
    exact if_neg (by omega)
  have nothing : (probeAll front.length (a :: back)).1 = (probeAll (front.length + 1) back).1 := by
    show (a.asStorage front.length).toList ++ _ = _
    rw [AttachedDevice.asStorage, unreadable.probe]
    rfl
  rw [probeAll_append, probeAll_append, Nat.zero_add, List.map_append, before, behind, nothing]

theorem taken_unreadable (id : DeviceId) (front back : List (AttachedDevice δ))
    (unreadable : a.Unreadable) :
    taken id (probeAll 0 (front ++ a :: back)).1 =
      (taken id (probeAll 0 (front ++ back)).1).map (StorageDevice.madeRoom front.length) := by
  rw [probeAll_unreadable front back unreadable, taken, List.find?_map, taken]
  simp only [Function.comp_def, StorageDevice.ids_madeRoom]

/-- The session that a search leads to is one with the device that it took. -/
theorem eq_of_opens {bus listed : Bus δ} {session : Session δ}
    {outcome : Except StorageError StorageDevice} (opens : Opens id bus session)
    (finds : Gives (find id.vendorId id.productId) bus outcome listed) :
    outcome = .ok session.handle.device := by
  obtain ⟨device, found, opened, handle, find, openDevice, claim⟩ := opens
  have first : outcome = .ok device := (finds.holds find).1
  have ended := openDevice.holds (ends_openDevice device found)
  have second : handle.device = device := (ended.2 handle rfl).1
  have third : session.handle.device = handle.device := (claim.holds (Session.ends_claim _)).device
  rw [first, third, second]

/-- A search for the empty ids is refused and leaves the bus alone. Any other search among devices
that can be listed ends with the first one that suits, and it says that there is none exactly if no
device suits. A session that it leads to is one with that device and its interface. And it comes to
the same without a device that shows no configuration. -/
theorem find_selects_first (id : DeviceId) (bus : Bus δ) :
    (id = ⟨0, 0⟩ →
      Gives (find id.vendorId id.productId) bus (.error .nullDeviceId) bus) ∧
    (id ≠ ⟨0, 0⟩ → (Bus.listOutcome bus).1 = none → ∃ outcome listed,
      Gives (find id.vendorId id.productId) bus outcome listed ∧
      Selected id bus.devices outcome ∧
      (∀ session, Opens id bus session → outcome = .ok session.handle.device) ∧
      ∀ front a back, bus.devices = front ++ a :: back → a.Unreadable → ∃ without listed',
        Gives (find id.vendorId id.productId) { bus with devices := front ++ back } without
          listed' ∧
        outcome = without.map (StorageDevice.madeRoom front.length)) := by
  constructor
  · rintro rfl
    rw [find, if_pos ⟨rfl, rfl⟩]
    exact Gives.pure _ _
  · intro other lists
    have named : ¬ (id.vendorId = 0 ∧ id.productId = 0) := by
      rintro ⟨vendorId, productId⟩
      exact other (congrArg₂ DeviceId.mk vendorId productId)
    obtain ⟨listed, finds, -⟩ := exists_gives_find_of_lists named lists
    refine ⟨_, listed, finds, (taken_probeAll id 0 bus.devices).selected,
      fun session opens => eq_of_opens opens finds, ?_⟩
    intro front a back split unreadable
    obtain ⟨listed', finds', -⟩ :=
      exists_gives_find_of_lists (b := { bus with devices := front ++ back }) named lists
    refine ⟨_, listed', finds', ?_⟩
    rw [split, taken_unreadable id front back unreadable]
    show Option.elim (Option.map _ _) _ _ =
      Except.map _ ((taken id (probeAll 0 (front ++ back)).1).elim _ _)
    cases taken id (probeAll 0 (front ++ back)).1 with
    | none => rfl
    | some d => rfl

end Storage

end

/-- A player whose descriptors cannot be read. -/
def mutePlayer : AttachedDevice Playback :=
  { AttachedDevice.plain ⟨0x10D6, 0x1101⟩ {} with
    faults := fun
      | .descriptor => [some .io]
      | _ => [] }

/-- A setting for mass storage. -/
def storageSetting (subclass number : UInt8) (endpoints : List Endpoint) : AlternateSetting :=
  ⟨0x08, subclass, 0x50, number, endpoints⟩

/-- A player with an endpoint for either direction, but none of its settings has both. -/
def halvedPlayer : AttachedDevice Playback :=
  { AttachedDevice.plain ⟨0x10D6, 0x1101⟩ {} with
    active := [[storageSetting 0x06 0 [⟨0x81, 0x02, 64⟩]],
      [storageSetting 0x06 1 [⟨0x02, 0x02, 64⟩]]] }

/-- A player whose active configuration cannot be read. In the first one there is half a setting in
front of two whole ones. -/
def compositePlayer : AttachedDevice Playback :=
  { AttachedDevice.plain ⟨0x10D6, 0x1101⟩ {} with
    first := [
      [storageSetting 0x06 0 [⟨0x81, 0x02, 64⟩]],
      [storageSetting 0x05 1 [⟨0x82, 0x03, 8⟩, ⟨0x83, 0x02, 512⟩, ⟨0x04, 0x02, 64⟩],
        storageSetting 0x06 2 [⟨0x85, 0x02, 64⟩, ⟨0x06, 0x02, 64⟩]]]
    faults := fun
      | .activeConfiguration => [some .notFound]
      | _ => [] }

theorem Storage.find_selects_first_composite :
    let id : DeviceId := ⟨0x10D6, 0x1101⟩
    let bus : Bus Playback := { devices := [mutePlayer, halvedPlayer, compositePlayer] }
    let device : StorageDevice :=
      ⟨2, 0x10D6, 0x1101, 1, 1, ⟨⟨0x83, 0x02, 512⟩, ⟨0x04, 0x02, 64⟩, 1, 0x05⟩⟩
    id ≠ ⟨0, 0⟩ ∧ (Bus.listOutcome bus).1 = none ∧ mutePlayer.Unreadable ∧
    Selected id bus.devices (.ok device) ∧
    (∀ session, Opens id bus session → session.handle.device = device) ∧
    ∃ without listed', Gives (find id.vendorId id.productId)
        { bus with devices := [halvedPlayer, compositePlayer] } without listed' ∧
      .ok device = without.map (StorageDevice.madeRoom 0) := by
  intro id bus device
  have other : id ≠ ⟨0, 0⟩ := by decide
  have unreadable : mutePlayer.Unreadable := by
    intro c seen
    cases seen with
    | active descriptor _ => exact absurd descriptor (by decide)
    | first descriptor _ _ => exact absurd descriptor (by decide)
  obtain ⟨outcome, listed, finds, selected, session, without⟩ :=
    (find_selects_first id bus).2 other rfl
  have last : Ends (find id.vendorId id.productId) (fun outcome _ => outcome = .ok device) bus :=
    fun _ => rfl
  have same : outcome = .ok device := finds.holds last
  rw [same] at selected session without
  refine ⟨other, rfl, unreadable, selected, ?_, ?_⟩
  · exact fun s opens => (Except.ok.inj (session s opens)).symm
  · exact without [] mutePlayer [halvedPlayer, compositePlayer] rfl unreadable

end PlayerLink
