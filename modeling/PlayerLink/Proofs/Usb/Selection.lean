import PlayerLink.CommandLine.Value
import PlayerLink.Proofs.Usb.Records

/-!
# What a search finds

A device shows one configuration, the active one or else the first one, if it can be read. In it the
first setting for bulk-only mass storage that has a bulk endpoint for either direction gives the
interface, with its number, its subclass and both of its endpoints; a setting in front that has half
of what is needed adds nothing to it. A search for ids takes the first device that has them and
shows such a setting.
-/

namespace PlayerLink

variable {δ : Type}

/-! ### Settings -/

/-- A setting for bulk-only mass storage with endpoints for both directions. -/
structure AlternateSetting.Usable (s : AlternateSetting) : Prop where
  classCode : s.classCode = 0x08
  subclass : s.subclass = 0x05 ∨ s.subclass = 0x06
  protocol : s.protocol = 0x50
  input : ∃ e ∈ s.endpoints, e.IsBulk ∧ e.IsInput
  output : ∃ e ∈ s.endpoints, e.IsBulk ∧ ¬ e.IsInput

/-- All that an interface has it has from this setting. -/
structure StorageInterface.Of (i : StorageInterface) (s : AlternateSetting) : Prop where
  number : i.number = s.number
  subclass : i.subclass = s.subclass
  input : i.input ∈ s.endpoints ∧ i.input.IsBulk ∧ i.input.IsInput
  output : i.output ∈ s.endpoints ∧ i.output.IsBulk ∧ ¬ i.output.IsInput

/-- An interface is that of the first setting of a configuration that can be used. -/
def StorageInterface.FirstOf (i : StorageInterface) (c : Configuration) : Prop :=
  ∃ before s after, c.flatten = before ++ s :: after ∧ (∀ t ∈ before, ¬ t.Usable) ∧ s.Usable ∧
    i.Of s

section

variable {s : AlternateSetting} {i : StorageInterface} {endpoints : List Endpoint} {e : Endpoint}
  {P : Endpoint → Prop} [DecidablePred P]

theorem mem_of_last_filter (last : (endpoints.filter fun e => P e).getLast? = some e) :
    e ∈ endpoints ∧ P e := by
  obtain ⟨mem, kind⟩ := List.mem_filter.mp (List.mem_of_getLast? last)
  exact ⟨mem, of_decide_eq_true kind⟩

theorem exists_last_filter (kept : ∃ e ∈ endpoints, P e) :
    ∃ e, (endpoints.filter fun e => P e).getLast? = some e := by
  obtain ⟨e, mem, kind⟩ := kept
  have kept : e ∈ endpoints.filter fun e => P e := List.mem_filter.mpr ⟨mem, decide_eq_true kind⟩
  exact Option.isSome_iff_exists.mp (List.getLast?_isSome.mpr (List.ne_nil_of_mem kept))

namespace AlternateSetting

/-- What a setting offers is its own. -/
theorem of_storage? (offered : s.storage? = some i) : s.Usable ∧ i.Of s := by
  rw [storage?] at offered
  split at offered
  next kind =>
    obtain ⟨classCode, subclass, protocol⟩ := kind
    split at offered
    next input output receives sends =>
      cases offered
      have input := mem_of_last_filter (P := fun e => e.IsBulk ∧ e.IsInput) receives
      have output := mem_of_last_filter (P := fun e => e.IsBulk ∧ ¬ e.IsInput) sends
      exact ⟨⟨classCode, subclass, protocol, ⟨_, input⟩, ⟨_, output⟩⟩, rfl, rfl, input, output⟩
    next => cases offered
  next => cases offered

theorem Usable.exists_storage? (usable : s.Usable) : ∃ i, s.storage? = some i := by
  have kind : s.IsBulkOnlyStorage := ⟨usable.classCode, usable.subclass, usable.protocol⟩
  obtain ⟨input, receives⟩ := exists_last_filter usable.input
  obtain ⟨output, sends⟩ := exists_last_filter usable.output
  refine ⟨⟨input, output, s.number, s.subclass⟩, ?_⟩
  rw [storage?, if_pos kind, show s.input? = some input from receives,
    show s.output? = some output from sends]

theorem storage?_eq_none : s.storage? = none ↔ ¬ s.Usable := by
  constructor
  · intro none usable
    obtain ⟨i, offered⟩ := usable.exists_storage?
    rw [none] at offered
    cases offered
  · intro unusable
    cases offered : s.storage? with
    | none => rfl
    | some i => exact absurd (of_storage? offered).1 unusable

end AlternateSetting

namespace Configuration

variable {c : Configuration}

theorem firstOf_of_storage? (offered : c.storage? = some i) : i.FirstOf c := by
  obtain ⟨before, s, after, split, here, passed⟩ := List.findSome?_eq_some_iff.mp offered
  obtain ⟨usable, own⟩ := AlternateSetting.of_storage? here
  exact ⟨before, s, after, split,
    fun t mem => AlternateSetting.storage?_eq_none.mp (passed t mem), usable, own⟩

theorem exists_storage?_iff : (∃ i, c.storage? = some i) ↔ ∃ s ∈ c.flatten, s.Usable := by
  rw [← Option.isSome_iff_exists, storage?, List.findSome?_isSome_iff]
  refine exists_congr fun s => and_congr_right fun _ => ?_
  rw [Option.isSome_iff_ne_none, Ne, AlternateSetting.storage?_eq_none,
    Classical.not_not]

end Configuration

end

/-! ### What a device shows -/

namespace AttachedDevice

variable {d : AttachedDevice δ}

/-- The next call of a kind succeeds. -/
def Reads (call : DeviceCall) (d : AttachedDevice δ) : Prop := (d.faults call).head?.join = none

instance (call : DeviceCall) (d : AttachedDevice δ) : Decidable (d.Reads call) :=
  inferInstanceAs (Decidable (_ = _))

/-- Whoever looks at the descriptors of a device sees this configuration: the active one, or the
first one if the active one cannot be read. -/
inductive Shows (d : AttachedDevice δ) : Configuration → Prop
  | active (descriptor : d.Reads .descriptor) (active : d.Reads .activeConfiguration) :
    Shows d d.active
  | first (descriptor : d.Reads .descriptor) (unread : ¬ d.Reads .activeConfiguration)
    (first : d.Reads .firstConfiguration) : Shows d d.first

/-- No configuration of the device can be read. -/
def Unreadable (d : AttachedDevice δ) : Prop := ∀ c, ¬ d.Shows c

variable {call other : DeviceCall} {fault : Option UsbError} {d' : AttachedDevice δ}

theorem eq_none_of_outcome (asked : d.outcome call = (fault, d')) :
    fault = none ↔ d.Reads call := by
  rw [outcome] at asked
  rw [Reads]
  cases faults : d.faults call with
  | nil =>
    rw [faults] at asked
    cases asked
    exact iff_of_true rfl rfl
  | cons next rest =>
    rw [faults] at asked
    cases asked
    rfl

/-- A call uses up outcomes of its own kind only. -/
theorem reads_of_outcome (asked : d.outcome call = (fault, d')) (apart : other ≠ call) :
    d'.Reads other ↔ d.Reads other := by
  rw [outcome] at asked
  split at asked
  · cases asked
    rfl
  · cases asked
    simp only [Reads, if_neg apart]

/-- What is found by looking at a device, told by what can be read of it. -/
theorem probe_fst (d : AttachedDevice δ) : d.probe.1 =
    if d.Reads .descriptor then
      if d.Reads .activeConfiguration then d.active.storage?
      else if d.Reads .firstConfiguration then d.first.storage?
      else none
    else none := by
  rcases h₁ : d.outcome .descriptor with ⟨fault₁, d₁⟩
  have untouched₁ := untouched_of_outcome h₁
  have descriptor := eq_none_of_outcome h₁
  rw [probe, h₁]
  cases fault₁ with
  | some e => rw [if_neg (by simp [← descriptor])]
  | none =>
    rw [if_pos (descriptor.mp rfl)]
    rcases h₂ : d₁.outcome .activeConfiguration with ⟨fault₂, d₂⟩
    have untouched₂ := untouched₁.trans (untouched_of_outcome h₂)
    have active := (eq_none_of_outcome h₂).trans (reads_of_outcome h₁ (by decide))
    simp only [h₂]
    cases fault₂ with
    | none =>
      rw [if_pos (active.mp rfl)]
      exact congrArg Configuration.storage? untouched₂.active
    | some e =>
      rw [if_neg (by simp [← active])]
      rcases h₃ : d₂.outcome .firstConfiguration with ⟨fault₃, d₃⟩
      have untouched₃ := untouched₂.trans (untouched_of_outcome h₃)
      have first := (eq_none_of_outcome h₃).trans
        ((reads_of_outcome h₂ (by decide)).trans (reads_of_outcome h₁ (by decide)))
      simp only [h₃]
      cases fault₃ with
      | none =>
        rw [if_pos (first.mp rfl)]
        exact congrArg Configuration.storage? untouched₃.first
      | some e => rw [if_neg (by simp [← first])]

/-- Looking at a device shows the interface of the configuration that can be seen. -/
theorem Shows.probe {c : Configuration} (seen : d.Shows c) : d.probe.1 = c.storage? := by
  rw [probe_fst]
  cases seen with
  | active descriptor active => rw [if_pos descriptor, if_pos active]
  | first descriptor unread first => rw [if_pos descriptor, if_neg unread, if_pos first]

theorem Unreadable.probe (unreadable : d.Unreadable) : d.probe.1 = none := by
  rw [probe_fst]
  split
  next descriptor =>
    split
    next active => exact absurd (.active descriptor active) (unreadable _)
    next unread =>
      split
      next first => exact absurd (.first descriptor unread first) (unreadable _)
      next => rfl
  next => rfl

end AttachedDevice

/-! ### What a listing tells of -/

section

variable {id : DeviceId} {a : AttachedDevice δ}

/-- The storage device that a listing tells of, for a device at a place. -/
def AttachedDevice.asStorage (position : Nat) (a : AttachedDevice δ) : Option StorageDevice :=
  a.probe.1.map fun storage =>
    { position, storage, vendorId := a.probe.2.vendorId, productId := a.probe.2.productId,
      busNumber := a.probe.2.busNumber, address := a.probe.2.address }

theorem AttachedDevice.asStorage_of_probe {position : Nat} {i : StorageInterface}
    (found : a.probe.1 = some i) :
    a.asStorage position = some ⟨position, a.vendorId, a.productId, a.busNumber, a.address, i⟩ := by
  have untouched := a.untouched_probe
  rw [asStorage, found, untouched.vendorId, untouched.productId,
    untouched.congr (f := busNumber) fun _ _ => rfl, untouched.congr (f := address) fun _ _ => rfl]
  rfl

namespace Storage

theorem mem_probeAll {start : Nat} {devices : List (AttachedDevice δ)} {d : StorageDevice}
    (found : d ∈ (probeAll start devices).1) :
    ∃ p a, d.position = start + p ∧ devices[p]? = some a ∧ a.asStorage d.position = some d ∧
      (probeAll start devices).2[p]? = some a.probe.2 := by
  induction devices generalizing start with
  | nil => cases found
  | cons a rest ih =>
    have split : d ∈ (a.asStorage start).toList ++ (probeAll (start + 1) rest).1 := found
    rcases List.mem_append.mp split with here | behind
    · have shown : a.asStorage start = some d := Option.mem_toList.mp here
      have place : d.position = start := by
        obtain ⟨storage, -, rfl⟩ := Option.map_eq_some_iff.mp shown
        rfl
      refine ⟨0, a, place, rfl, ?_, rfl⟩
      rw [place]
      exact shown
    · obtain ⟨p, b, place, there, shown, after⟩ := ih behind
      exact ⟨p + 1, b, by omega, there, shown, after⟩

end Storage

namespace AttachedDevice

/-- The device has the ids. -/
def Named (id : DeviceId) (a : AttachedDevice δ) : Prop :=
  a.vendorId = id.vendorId ∧ a.productId = id.productId

/-- The device has the ids and shows a setting that can be used. -/
structure Suits (id : DeviceId) (a : AttachedDevice δ) : Prop where
  named : a.Named id
  usable : ∃ c, a.Shows c ∧ ∃ s ∈ c.flatten, s.Usable

/-- What is found by looking at a device is in the configuration that it shows. -/
theorem exists_shows_of_probe {i : StorageInterface} (found : a.probe.1 = some i) :
    ∃ c, a.Shows c ∧ c.storage? = some i := by
  by_cases unreadable : a.Unreadable
  · rw [unreadable.probe] at found
    cases found
  · obtain ⟨c, seen⟩ := Classical.not_forall_not.mp unreadable
    exact ⟨c, seen, seen.probe ▸ found⟩

theorem suits_iff : a.Suits id ↔ a.Named id ∧ ∃ i, a.probe.1 = some i := by
  constructor
  · rintro ⟨named, c, seen, usable⟩
    rw [seen.probe]
    exact ⟨named, Configuration.exists_storage?_iff.mpr usable⟩
  · rintro ⟨named, i, found⟩
    obtain ⟨c, seen, offered⟩ := exists_shows_of_probe found
    exact ⟨named, c, seen, Configuration.exists_storage?_iff.mp ⟨i, offered⟩⟩

end AttachedDevice

/-! ### What a search takes -/

/-- What a search for ids takes of what was found. -/
def Storage.taken (id : DeviceId) (found : List StorageDevice) : Option StorageDevice :=
  found.find? fun s => s.vendorId = id.vendorId ∧ s.productId = id.productId

/-- A search among devices from a place on takes the first one that suits. -/
inductive Storage.Taken (id : DeviceId) (start : Nat) (devices : List (AttachedDevice δ)) :
    Option StorageDevice → Prop
  | first {before after : List (AttachedDevice δ)} {a : AttachedDevice δ} {i : StorageInterface}
    (split : devices = before ++ a :: after) (passed : ∀ other ∈ before, ¬ other.Suits id)
    (named : a.Named id) (found : a.probe.1 = some i) :
    Taken id start devices (some
      ⟨start + before.length, a.vendorId, a.productId, a.busNumber, a.address, i⟩)
  | none (unsuited : ∀ a ∈ devices, ¬ a.Suits id) : Taken id start devices none

namespace Storage

variable {start : Nat} {devices rest : List (AttachedDevice δ)}

theorem Taken.here {i : StorageInterface} (named : a.Named id) (found : a.probe.1 = some i) :
    Taken id start (a :: rest)
      (some ⟨start, a.vendorId, a.productId, a.busNumber, a.address, i⟩) :=
  .first (List.nil_append _).symm nofun named found

/-- A search goes on behind a device that does not suit. -/
theorem Taken.behind {device : Option StorageDevice} (unsuited : ¬ a.Suits id)
    (taken : Taken id (start + 1) rest device) : Taken id start (a :: rest) device := by
  cases taken with
  | @first before after b i split passed named found =>
    have place : start + 1 + before.length = start + (a :: before).length := by
      rw [List.length_cons]
      omega
    have further : a :: rest = (a :: before) ++ b :: after := by rw [split, List.cons_append]
    rw [place]
    exact .first further (List.forall_mem_cons.mpr ⟨unsuited, passed⟩) named found
  | none others => exact .none (List.forall_mem_cons.mpr ⟨unsuited, others⟩)

/-- Nothing is taken of what is found by looking at a device that does not suit. -/
theorem taken_eq_none_of_not_suits (unsuited : ¬ a.Suits id) :
    taken id (a.asStorage start).toList = none := by
  refine List.find?_eq_none.mpr ?_
  intro d mem matching
  obtain ⟨i, found, rfl⟩ := Option.map_eq_some_iff.mp (Option.mem_toList.mp mem)
  have untouched := a.untouched_probe
  have named := of_decide_eq_true matching
  rw [untouched.vendorId, untouched.productId] at named
  exact unsuited (AttachedDevice.suits_iff.mpr ⟨named, i, found⟩)

theorem taken_probeAll (id : DeviceId) (start : Nat) (devices : List (AttachedDevice δ)) :
    Taken id start devices (taken id (probeAll start devices).1) := by
  induction devices generalizing start with
  | nil => exact .none nofun
  | cons a rest ih =>
    show Taken id start _ (taken id ((a.asStorage start).toList ++ (probeAll (start + 1) rest).1))
    by_cases suits : a.Suits id
    · obtain ⟨named, i, found⟩ := AttachedDevice.suits_iff.mp suits
      have first : taken id ((a.asStorage start).toList ++ (probeAll (start + 1) rest).1) =
          some ⟨start, a.vendorId, a.productId, a.busNumber, a.address, i⟩ := by
        rw [AttachedDevice.asStorage_of_probe found]
        exact List.find?_cons_of_pos (decide_eq_true named)
      rw [first]
      exact .here named found
    · rw [taken, List.find?_append, ← taken, taken_eq_none_of_not_suits suits, Option.none_or]
      exact (ih (start + 1)).behind suits

end Storage

end

end PlayerLink
