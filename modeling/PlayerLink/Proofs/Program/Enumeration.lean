import PlayerLink.Proofs.Program.Identification

/-!
# Every device is tested on its own

An enumeration tests one device after the other. What a test comes to, which calls are made for it
and what is shown of it depend on the device alone: not on where it is on the bus, not on the
devices that were tested before it, and not on what these did. So the lines of two enumerations
agree on every device that both find in the same state.
-/

namespace PlayerLink

open RunM

/-! ### What is found -/

section

variable {δ : Type}

theorem AttachedDevice.asStorage_placed {a : AttachedDevice δ} {position : Nat} {d : StorageDevice}
    (shown : a.asStorage position = some d) (p : Nat) : a.asStorage p = some (d.placed p) := by
  obtain ⟨storage, interface, rfl⟩ := Option.map_eq_some_iff.mp shown
  rw [asStorage, interface]
  rfl

namespace Storage

/-- The storage devices are found in the order of their places. -/
theorem pairwise_probeAll (start : Nat) (devices : List (AttachedDevice δ)) :
    (probeAll start devices).1.Pairwise fun d d' => d.position < d'.position := by
  induction devices generalizing start with
  | nil => exact .nil
  | cons a rest ih =>
    show ((a.asStorage start).toList ++ (probeAll (start + 1) rest).1).Pairwise _
    rw [List.pairwise_append]
    refine ⟨?_, ih (start + 1), ?_⟩
    · cases a.asStorage start with
      | none => exact .nil
      | some d => exact List.pairwise_singleton _ d
    · intro d here d' behind
      obtain ⟨storage, -, rfl⟩ := Option.map_eq_some_iff.mp (Option.mem_toList.mp here)
      obtain ⟨p, -, place, -⟩ := mem_probeAll behind
      show start < d'.position
      omega

theorem of_gives_list {bus listed : Bus δ} {found : List StorageDevice}
    (lists : Gives list bus (.ok found) listed) :
    found = (probeAll 0 bus.devices).1 ∧ listed.devices = (probeAll 0 bus.devices).2 := by
  obtain ⟨answer, after⟩ := lists {}
  rcases result : Bus.listOutcome bus with ⟨fault, b⟩
  have devices : b.devices = bus.devices := (congrArg (fun r => r.2.devices) result).symm
  simp only [list, result] at answer after
  cases fault with
  | some e => cases answer
  | none =>
    rw [← devices]
    exact ⟨(Except.ok.inj answer).symm, congrArg Bus.devices after.symm⟩

/-- A storage device that was found is at its place, and is tested in the state in which looking at
it left it. -/
theorem exists_of_mem_found {bus listed : Bus δ} {found : List StorageDevice}
    (lists : Gives list bus (.ok found) listed) {d : StorageDevice} (mem : d ∈ found) :
    ∃ a, bus.devices[d.position]? = some a ∧ a.asStorage d.position = some d ∧
      listed.devices[d.position]? = some a.probe.2 := by
  obtain ⟨all, devices⟩ := of_gives_list lists
  rw [all] at mem
  obtain ⟨p, a, place, there, shown, after⟩ := mem_probeAll mem
  rw [Nat.zero_add] at place
  rw [← devices, ← place] at after
  rw [← place] at there
  exact ⟨a, there, shown, after⟩

end Storage

end

/-! ### One test -/

/-- What an enumeration says of a device. -/
inductive Verdict where
  | found
  | failed
  | unusable (cause : StorageError)

namespace Verdict

def text : Verdict → String
  | found => "FOUND"
  | failed => "FAIL"
  | unusable cause => s!"FAIL ({cause.message})"

def isFound : Verdict → Bool
  | found => true
  | _ => false

/-- No other line says that a device was found. -/
theorem text_eq_found {v : Verdict} : v.text = "FOUND" ↔ v.isFound := by
  constructor
  · intro same
    cases v with
    | found => rfl
    | failed => exact absurd same (by decide)
    | unusable cause =>
      have letters := congrArg String.toList same
      simp [text, ToString.toString] at letters
  · intro found
    cases v with
    | found => rfl
    | _ => cases found

/-- What IDENTIFY comes to. -/
def ofIdentity : Except CommandError Identity → Verdict
  | .ok _ => found
  | .error _ => failed

theorem isFound_ofIdentity (outcome : Except CommandError Identity) :
    (ofIdentity outcome).isFound ↔ ∃ i, outcome = .ok i := by
  cases outcome with
  | ok i => exact ⟨fun _ => ⟨i, rfl⟩, fun _ => rfl⟩
  | error e =>
    refine ⟨fun found => ?_, fun ⟨_, same⟩ => ?_⟩
    · cases found
    · cases same

end Verdict

/-- A line of an enumeration. -/
def lineWith (d : StorageDevice) (answer : String) : String :=
  s!"Testing USB mass storage device {idText d} - {answer}"

theorem lineWith_inj {d : StorageDevice} {a b : String} : lineWith d a = lineWith d b ↔ a = b :=
  String.append_right_inj _

/-- What became of a device in an enumeration: what was said of it, what was done with it, and the
calls that it saw. -/
structure Test where
  verdict : Verdict
  visit : Visit
  calls : List LinkCall

namespace Test

/-- The line for a device that was tested. -/
def line (d : StorageDevice) (test : Test) : String := lineWith d test.verdict.text

theorem line_eq_found {d : StorageDevice} {test : Test} :
    test.line d = lineWith d "FOUND" ↔ test.verdict.isFound := by
  rw [line, lineWith_inj, Verdict.text_eq_found]

/-- A device is found exactly if it was opened, its interface was claimed, and it answered IDENTIFY
as a compatible player does, with success. -/
def Sound (d : StorageDevice) (test : Test) : Prop :=
  test.line d = lineWith d "FOUND" ↔
    .opened d.position none ∈ test.visit.events d.position ∧
    .claimed d.position d.storage.number none ∈ test.visit.events d.position ∧
    Identified test.calls

section

variable {δ : Type} [BulkLink δ]

/-- This becomes of a device in the state `a`, wherever it is on whatever bus. -/
structure Fits (d : StorageDevice) (a : AttachedDevice (Recorded δ)) (test : Test) : Prop where
  sound : ∀ position, test.Sound (d.placed position)
  ends : ∃ a' : AttachedDevice (Recorded δ),
    a'.link.calls.toList = a.link.calls.toList ++ test.calls ∧
    ∀ (position : Nat) (bus : Bus (Recorded δ)) (desk : Desk), bus.devices[position]? = some a →
      Ends (testDevice (d.placed position)).run
        (fun outcome x => outcome = .ok test.verdict.isFound ∧ x.2 = desk.print (test.line d) ∧
          bus.Worked position (test.visit.events position) a' x.1) (bus, desk)

/-- How a test ends in which this is said of the device. -/
def Concludes (d : StorageDevice) (desk : Desk) (verdict : Verdict)
    (outcome : Except Failure Bool) (desk' : Desk) : Prop :=
  outcome = .ok verdict.isFound ∧ desk' = desk.print (lineWith d verdict.text)

theorem holds_identified {talk : Dialogue (Except CommandError Identity × UInt32)}
    (held : ∀ session : Session (Recorded δ), Ends Engine.identify
      (fun result e => talk.hold session = ((result, e.tag), e.link)) { link := session })
    (d : StorageDevice) (desk : Desk) :
    Holds talk desk (fun identity => Concludes d desk (.ofIdentity identity.1)) (do
      match ← onDevice Engine.identify with
      | .ok _ =>
        say (lineWith d "FOUND")
        pure true
      | .error e =>
        LogM.debug s!"{idText d}: {e.message}"
        say (lineWith d "FAIL")
        pure false : ServiceM (Recorded δ) Bool) := by
  intro session
  refine Ends.bindExcept_step ((held session).onDevice desk) ?_
  rintro identity ⟨e, _⟩ ⟨same, rfl⟩
  rw [same]
  cases identity with
  | ok i => exact Ends.bindOnDesk (Ends.pure_iff.mpr ⟨rfl, rfl, rfl⟩)
  | error cause =>
    exact Ends.bindExcept_lift (Ends.bindOnDesk (Ends.pure_iff.mpr ⟨rfl, rfl, rfl⟩))

/-- What is said of a device that work on it got so far. -/
def verdictOf : Reached (Except CommandError Identity × UInt32) → Verdict
  | .unopened cause | .unclaimed cause => .unusable cause
  | .done identity => .ofIdentity identity.1

/-- A failure to open or to claim is told in the line and goes no further. -/
theorem ends_testDevice {d : StorageDevice} {position : Nat}
    {talk : Dialogue (Except CommandError Identity × UInt32)}
    (held : ∀ session : Session (Recorded δ), Ends Engine.identify
      (fun result e => talk.hold session = ((result, e.tag), e.link)) { link := session })
    {bus : Bus (Recorded δ)} {desk : Desk} {worked : Bus (Recorded δ) → Prop}
    {reached : Reached (Except CommandError Identity × UInt32)}
    (tested : ∀ work,
      Holds talk desk (fun identity => Concludes d desk (.ofIdentity identity.1)) work →
      Ends (withDevice (d.placed position) .storage .storage work).run
        (fun outcome x => worked x.1 ∧ reached.Ended .storage .storage desk
          (fun identity => Concludes d desk (.ofIdentity identity.1)) outcome x.2) (bus, desk)) :
    Ends (testDevice (d.placed position)).run (fun outcome x => worked x.1 ∧
      Concludes d desk (verdictOf reached) outcome x.2) (bus, desk) := by
  refine Ends.bindExcept_step (tested _ (holds_identified held d desk)) ?_
  rintro outcome ⟨b, desk'⟩ ⟨worked, ended⟩
  cases reached with
  | unopened cause =>
    obtain ⟨rfl, rfl⟩ := ended
    exact Ends.bindOnDesk (Ends.pure_iff.mpr ⟨worked, rfl, rfl⟩)
  | unclaimed cause =>
    obtain ⟨rfl, rfl⟩ := ended
    exact Ends.bindOnDesk (Ends.pure_iff.mpr ⟨worked, rfl, rfl⟩)
  | done identity =>
    obtain ⟨rfl, rfl⟩ := ended
    exact Ends.pure_iff.mpr ⟨worked, rfl, rfl⟩

/-- What a test says is true. -/
theorem exists_sound {talk : Dialogue (Except CommandError Identity × UInt32)}
    (identified : ∀ a : AttachedDevice (Recorded δ), ∃ calls,
      (talk.hold a).2.link.calls.toList = a.link.calls.toList ++ calls ∧
      ((∃ i, (talk.hold a).1.1 = .ok i) ↔ Identified calls))
    {d : StorageDevice} {a a' : AttachedDevice (Recorded δ)} {visit : Visit}
    {reached : Reached (Except CommandError Identity × UInt32)}
    (visited : Visited talk d.storage.number a visit reached a') :
    ∃ calls, a'.link.calls.toList = a.link.calls.toList ++ calls ∧
      ∀ position, Sound (d.placed position) ⟨verdictOf reached, visit, calls⟩ := by
  have silent : ¬ Identified [] := by
    rintro ⟨before, after, _, _, _, _, split, -⟩
    simp at split
  cases visited with
  | unopened same =>
    refine ⟨[], ?_, fun position => ?_⟩
    · rw [same.link, List.append_nil]
    · simp [Sound, line_eq_found, verdictOf, Verdict.isFound, silent]
  | unclaimed same =>
    refine ⟨[], ?_, fun position => ?_⟩
    · rw [same.link, List.append_nil]
    · simp [Sound, line_eq_found, verdictOf, Verdict.isFound, silent]
  | @done _ _ _ _ a₁ _ before after =>
    obtain ⟨calls, grown, found⟩ := identified a₁
    refine ⟨calls, ?_, fun position => ?_⟩
    · rw [after.link, grown, before.link]
    · rw [Sound, line_eq_found]
      show (Verdict.ofIdentity (talk.hold a₁).1.1).isFound ↔ _
      rw [Verdict.isFound_ofIdentity, found]
      simp [Visit.events, Past.openingEvents, Use.events, StorageDevice.placed]

theorem exists_fits (d : StorageDevice) (a : AttachedDevice (Recorded δ)) :
    ∃ test : Test, test.Fits d a := by
  obtain ⟨talk, held, identified⟩ := exists_identification (δ := δ)
  obtain ⟨visit, reached, a', visited, ends⟩ := exists_visited (α := Bool) d a talk
  obtain ⟨calls, grown, sound⟩ := exists_sound identified visited
  refine ⟨⟨verdictOf reached, visit, calls⟩, sound, a', grown, ?_⟩
  intro position bus desk there
  refine (ends_testDevice held fun work =>
    ends position bus .storage .storage work desk _ there).mono ?_
  exact fun _ x h => ⟨h.2.1, h.2.2, h.1⟩

end

end Test

/-! ### All tests -/

section

variable {δ : Type} {bus : Bus (Recorded δ)} {desk : Desk}

/-- From a bus and a desk on, the devices that were found were tested one after the other. -/
structure Tested (bus : Bus (Recorded δ)) (desk : Desk) (found : List StorageDevice)
    (test : StorageDevice → Test) (x : Bus (Recorded δ) × Desk) : Prop where
  shown : Desk.Shows (found.map fun d => (test d).line d) desk x.2
  trace : x.1.trace.toList =
    bus.trace.toList ++ found.flatMap fun d => (test d).visit.events d.position
  record : ∀ d ∈ found, x.1.record d.position = bus.record d.position ++ (test d).calls
  elsewhere : ∀ position, (∀ d ∈ found, d.position ≠ position) →
    x.1.devices[position]? = bus.devices[position]?

/-- One device was tested, and then those that are at places behind it. -/
theorem Tested.cons {d : StorageDevice} {rest : List StorageDevice} {test : StorageDevice → Test}
    {a a' : AttachedDevice (Recorded δ)} {b : Bus (Recorded δ)} {x : Bus (Recorded δ) × Desk}
    (there : bus.devices[d.position]? = some a)
    (worked : bus.Worked d.position ((test d).visit.events d.position) a' b)
    (grown : a'.link.calls.toList = a.link.calls.toList ++ (test d).calls)
    (behind : ∀ d' ∈ rest, d.position < d'.position)
    (tested : Tested b (desk.print ((test d).line d)) rest test x) :
    Tested bus desk (d :: rest) test x where
  shown := (Desk.Shows.print _ desk).trans tested.shown
  trace := by rw [tested.trace, worked.trace, List.flatMap_cons, List.append_assoc]
  record := by
    intro d' mem
    rcases List.mem_cons.mp mem with rfl | later
    · have left := tested.elsewhere d'.position fun d later => Nat.ne_of_gt (behind d later)
      rw [Bus.record_congr left, Bus.record_of_there worked.there, Bus.record_of_there there, grown]
    · have untouched := worked.elsewhere (Nat.ne_of_gt (behind d' later))
      rw [tested.record d' later, Bus.record_congr untouched]
  elsewhere := by
    intro position apart
    have other : position ≠ d.position := (apart d List.mem_cons_self).symm
    rw [tested.elsewhere position fun d' later => apart d' (List.mem_cons_of_mem _ later),
      worked.elsewhere other]

/-- How many lines say that a device was found. -/
def countFound (found : List StorageDevice) (test : StorageDevice → Test) : Nat :=
  found.countP fun d => (test d).line d = lineWith d "FOUND"

/-- The last line of an enumeration. -/
def summary (count : Nat) : String :=
  if count > 0 then s!"\nFound {count} compatible device(s)." else "\nNo compatible devices found."

/-- An enumeration showed one line for each device that was found, in their order, and how many of
them say that the device was found; and it did with each device what its test comes to, and nothing
else. -/
structure Enumerated (bus : Bus (Recorded δ)) (desk : Desk) (found : List StorageDevice)
    (test : StorageDevice → Test) (x : Bus (Recorded δ) × Desk) : Prop where
  shown : Desk.Shows (["\nChecking for Actions Semiconductor compatible devices...\n"] ++
    found.map (fun d => (test d).line d) ++ [summary (countFound found test)]) desk x.2
  sound : ∀ d ∈ found, (test d).Sound d
  trace : x.1.trace.toList =
    bus.trace.toList ++ found.flatMap fun d => (test d).visit.events d.position
  record : ∀ d ∈ found, x.1.record d.position = bus.record d.position ++ (test d).calls

variable [BulkLink δ]

/-- Tests of devices at different places do not concern each other. -/
theorem ends_testDevices {found : List StorageDevice} {test : StorageDevice → Test}
    (apart : found.Pairwise fun d d' => d.position < d'.position)
    (fits : ∀ d ∈ found, ∃ a, bus.devices[d.position]? = some a ∧ (test d).Fits d a) :
    Ends (testDevices found).run (fun outcome x => outcome = .ok (countFound found test) ∧
      Tested bus desk found test x) (bus, desk) := by
  induction found generalizing bus desk with
  | nil =>
    refine Ends.pure_iff.mpr ⟨rfl, .refl desk, ?_, ?_, fun _ _ => rfl⟩
    · exact (List.append_nil _).symm
    · intro d none
      cases none
  | cons d rest ih =>
    obtain ⟨behind, apart⟩ := List.pairwise_cons.mp apart
    obtain ⟨a, there, here⟩ := fits d List.mem_cons_self
    obtain ⟨a', grown, ends⟩ := here.ends
    refine Ends.bindExcept (ends d.position bus desk there) ?_ ?_
    · rintro compatible ⟨b, desk'⟩ ⟨same, rfl, worked⟩
      cases same
      -- The devices behind are on the bus as they were.
      have others : ∀ d' ∈ rest, ∃ a, b.devices[d'.position]? = some a ∧ (test d').Fits d' a := by
        intro d' later
        rw [worked.elsewhere (Nat.ne_of_gt (behind d' later))]
        exact fits d' (List.mem_cons_of_mem _ later)
      refine Ends.bindExcept (ih apart others) ?_ ?_
      · rintro count ⟨b', desk''⟩ ⟨same, tested⟩
        cases same
        refine Ends.pure_iff.mpr ⟨?_, tested.cons there worked grown behind⟩
        simp only [countFound, List.countP_cons, decide_eq_true_eq, Test.line_eq_found,
          Nat.add_comm]
      · rintro e _ ⟨failed, -⟩
        cases failed
    · rintro e _ ⟨failed, -⟩
      cases failed

/-! ### Enumerations -/

/-- What becomes of the device at a place, if there is one, that is looked at and then tested. -/
theorem exists_becomes (o : Option (AttachedDevice (Recorded δ))) : ∃ test : Test,
    ∀ a d, o = some a → a.asStorage d.position = some d → test.Fits d a.probe.2 := by
  by_cases stored : ∃ a d, o = some a ∧ a.asStorage 0 = some d
  · obtain ⟨a, d, rfl, shown⟩ := stored
    obtain ⟨test, fits⟩ := Test.exists_fits d a.probe.2
    refine ⟨test, fun _ d' same shown' => ?_⟩
    cases same
    have placed := AttachedDevice.asStorage_placed shown' 0
    rw [shown, Option.some.injEq] at placed
    rw [placed] at fits
    exact ⟨fits.sound, fits.ends⟩
  · refine ⟨⟨.failed, .refused .noDevice, []⟩, fun a d same shown => ?_⟩
    exact absurd ⟨a, _, same, AttachedDevice.asStorage_placed shown 0⟩ stored

/-- What becomes of a device in an enumeration is a function of the device. -/
theorem exists_ends_enumerate :
    ∃ becomes : Option (AttachedDevice (Recorded δ)) → Test,
      ∀ (bus listed : Bus (Recorded δ)) (found : List StorageDevice) (desk : Desk),
        Gives Storage.list bus (.ok found) listed →
        Ends enumerate.run (fun outcome x => outcome = .ok () ∧
          Enumerated bus desk found (fun d => becomes bus.devices[d.position]?) x) (bus, desk) := by
  choose becomes fits using exists_becomes (δ := δ)
  refine ⟨becomes, fun bus listed found desk lists => ?_⟩
  let test : StorageDevice → Test := fun d => becomes bus.devices[d.position]?
  have each : ∀ d ∈ found, ∃ a, listed.devices[d.position]? = some a ∧ (test d).Fits d a := by
    intro d mem
    obtain ⟨a, there, shown, after⟩ := Storage.exists_of_mem_found lists mem
    exact ⟨a.probe.2, after, fits _ a d there shown⟩
  have apart : found.Pairwise fun d d' => d.position < d'.position := by
    rw [(Storage.of_gives_list lists).1]
    exact Storage.pairwise_probeAll 0 bus.devices
  have viewed := lists.holds (Storage.ends_list bus)
  have trace : listed.trace = bus.trace := viewed.trace
  have record := Bus.record_eq viewed.untouched.links
  refine Ends.bindRequire lists ?_
  rintro _ _ ⟨rfl, rfl⟩
  refine ⟨found, rfl, Ends.bindOnDesk (Ends.bindExcept (ends_testDevices apart each) ?_ ?_)⟩
  · rintro count ⟨b, desk'⟩ ⟨same, tested⟩
    cases same
    have enumerated : Enumerated bus desk found test
        (b, desk'.print (summary (countFound found test))) := by
      constructor
      · exact ((Desk.Shows.print _ desk).trans tested.shown).trans (Desk.Shows.print _ desk')
      · intro d mem
        obtain ⟨a, -, here⟩ := each d mem
        exact here.sound d.position
      · rw [tested.trace, trace]
      · intro d mem
        rw [tested.record d mem, record]
    rw [summary] at enumerated
    split at enumerated
    next some =>
      rw [if_pos some]
      exact fun _ => ⟨rfl, enumerated⟩
    next none =>
      rw [if_neg none]
      exact fun _ => ⟨rfl, enumerated⟩
  · rintro e _ ⟨failed, -⟩
    cases failed

/-- Whatever each device does, an enumeration of devices that could be listed succeeds, shows for
each whether it is a compatible player, and how many are. And of two enumerations whatever the
devices around it are and do, each shows the same of a device that both find in the same state, and
does the same with it: the device sees the same calls. -/
theorem enumerate_independent {bus bus' listed listed' : Bus (Recorded δ)}
    {found found' : List StorageDevice} (lists : Gives Storage.list bus (.ok found) listed)
    (lists' : Gives Storage.list bus' (.ok found') listed') (desk desk' : Desk) :
    ∃ test test' : StorageDevice → Test,
      Ends enumerate.run (fun outcome x => outcome = .ok () ∧ Enumerated bus desk found test x)
        (bus, desk) ∧
      Ends enumerate.run (fun outcome x => outcome = .ok () ∧ Enumerated bus' desk' found' test' x)
        (bus', desk') ∧
      ∀ d ∈ found, ∀ d' ∈ found', bus.devices[d.position]? = bus'.devices[d'.position]? →
        test d = test' d' ∧ (test d).line d = (test' d').line d' := by
  obtain ⟨becomes, ends⟩ := exists_ends_enumerate (δ := δ)
  refine ⟨_, _, ends bus listed found desk lists, ends bus' listed' found' desk' lists', ?_⟩
  intro d mem d' mem' same
  obtain ⟨a, there, shown, -⟩ := Storage.exists_of_mem_found lists mem
  obtain ⟨a', there', shown', -⟩ := Storage.exists_of_mem_found lists' mem'
  have one : a' = a := by
    rw [there, there', Option.some.injEq] at same
    exact same.symm
  -- The ids in the line are those of the device as well.
  have alike : d.placed 0 = d'.placed 0 := by
    have placed := AttachedDevice.asStorage_placed shown 0
    rw [← one, AttachedDevice.asStorage_placed shown' 0, Option.some.injEq] at placed
    exact placed.symm
  have tests : becomes bus.devices[d.position]? = becomes bus'.devices[d'.position]? :=
    congrArg becomes same
  refine ⟨tests, ?_⟩
  show (becomes bus.devices[d.position]?).line (d.placed 0) =
    (becomes bus'.devices[d'.position]?).line (d'.placed 0)
  rw [tests, alike]

end

/-- A player. -/
def compatiblePlayer : AttachedDevice (Recorded Playback) := .plain ⟨0x10D6, 0x1101⟩
  { link := { reads := [.ok (Identity.compatibleName.toList ++ [0, 0]),
      .ok (StatusWrapper.make 1 0 0).toOctets] } }

/-- A device that cannot be opened. -/
def unopenable : AttachedDevice (Recorded Playback) :=
  { AttachedDevice.plain ⟨0x0781, 0x5567⟩ { link := {} } with
    faults := fun
      | .opening => [some .access]
      | _ => [] }

/-- The player alone, and behind a device that cannot be opened, is tested alike. -/
theorem enumerate_independent_player :
    let bus : Bus (Recorded Playback) := { devices := [compatiblePlayer] }
    let bus' : Bus (Recorded Playback) := { devices := [unopenable, compatiblePlayer] }
    let alone : StorageDevice := ⟨0, 0x10D6, 0x1101, 1, 1, .plain⟩
    let first : StorageDevice := ⟨0, 0x0781, 0x5567, 1, 1, .plain⟩
    let behind : StorageDevice := ⟨1, 0x10D6, 0x1101, 1, 1, .plain⟩
    ∃ test test' : StorageDevice → Test,
      Ends enumerate.run (fun outcome x => outcome = .ok () ∧ Enumerated bus {} [alone] test x)
        (bus, {}) ∧
      Ends enumerate.run (fun outcome x => outcome = .ok () ∧
        Enumerated bus' {} [first, behind] test' x) (bus', {}) ∧
      test alone = test' behind ∧ (test alone).line alone = (test' behind).line behind := by
  intro bus bus' alone first behind
  have lists : Gives Storage.list bus (.ok [alone]) bus := fun _ => ⟨rfl, rfl⟩
  have lists' : Gives Storage.list bus' (.ok [first, behind]) bus' := fun _ => ⟨rfl, rfl⟩
  obtain ⟨test, test', ends, ends', same⟩ := enumerate_independent lists lists' {} {}
  refine ⟨test, test', ends, ends', same alone ?_ behind ?_ rfl⟩
  · exact List.mem_cons_self
  · exact List.mem_cons_of_mem _ List.mem_cons_self

end PlayerLink
