import PlayerLink.Program.Firmware
import PlayerLink.Proofs.Container.Growth
import PlayerLink.Proofs.Files.Folder
import PlayerLink.Proofs.Program.Session

/-!
# Dumping a firmware to a container

Between two entries the container holds those packed so far and the player is ready for the next
read. An entry is packed if its sectors can be named, a slot is left and its data fit; if not, it
ends the dump. So a dump succeeds exactly if all of this holds of all used entries, and then the
container has them all, in order, with the data that stand in the image.
-/

namespace PlayerLink

open ContainerHeader

variable {δ α β : Type}

/-! ### Steps on a device and a container -/

/-- Steps of a packing end with an outcome, a container, and a device and a desk of which `post`
holds. -/
def Packs (step : PackingM δ α)
    (post : Except Failure α → ContainerWriter → Engine (Session δ) × Desk → Prop)
    (w : ContainerWriter) (t : Engine (Session δ) × Desk) : Prop :=
  Ends (step.run w) (fun r t' => post r.1 r.2 t') t

namespace Packs

variable {w : ContainerWriter} {t : Engine (Session δ) × Desk}
variable {post : Except Failure β → ContainerWriter → Engine (Session δ) × Desk → Prop}

theorem mono {step : PackingM δ β}
    {mid : Except Failure β → ContainerWriter → Engine (Session δ) × Desk → Prop}
    (h : Packs step mid w t) (weaken : ∀ r w' t', mid r w' t' → post r w' t') :
    Packs step post w t :=
  Ends.mono h fun r t' => weaken r.1 r.2 t'

theorem pure_iff {b : β} : Packs (pure b) post w t ↔ post (.ok b) w t := Ends.pure_iff

theorem bind {step : PackingM δ α} {next : α → PackingM δ β}
    {mid : Except Failure α → ContainerWriter → Engine (Session δ) × Desk → Prop}
    (first : Packs step mid w t)
    (ok : ∀ a w' t', mid (.ok a) w' t' → Packs (next a) post w' t')
    (error : ∀ e w' t', mid (.error e) w' t' → post (.error e) w' t') :
    Packs (step >>= next) post w t := by
  change Ends (step.run w >>= fun r => ExceptT.bindCont next r.1 r.2) _ t
  refine Ends.bind first ?_
  rintro ⟨outcome, w'⟩ t' h
  cases outcome with
  | ok a => exact ok a w' t' h
  | error e => exact Ends.pure_iff.mpr (error e w' t' h)

theorem apart {steps : ServiceM δ β} {mid : Except Failure β → Engine (Session δ) × Desk → Prop}
    (h : Ends steps.run mid t) :
    Packs (PlayerLink.apart steps) (fun r w' t' => w' = w ∧ mid r t') w t :=
  fun log => ⟨rfl, h log⟩

theorem packing {step : WriterM β} {mid : Except ContainerError β → ContainerWriter → Prop}
    (h : Ends step.run mid w) :
    Packs (PlayerLink.packing step)
      (fun r w' t' => t' = t ∧ ∃ r', r = r'.mapError .container ∧ mid r' w') w t :=
  fun log => ⟨rfl, _, rfl, h log⟩

end Packs

/-! ### One entry -/

/-- What goes into the container for an entry of the header at a sector. -/
def packed (image : Image) (start : UInt32) (e : DirectoryEntry) : Part :=
  (.unplaced e.filename e.kind 0,
    image.octets (start.toNat + e.offset.toNat) e.length.toNat)

/-- What is printed for an entry. -/
def packedLine (slot : Nat) (e : DirectoryEntry) (data : List UInt8) : String :=
  s!"{Text.Numeral.alignRight 3 (toString slot)} {Text.Numeral.alignLeft 12 e.name} " ++
    s!"{Text.Numeral.alignRight 8 (toString data.length)} bytes  " ++
    s!"checksum {verdict (decide (Checksum.sum32 data = e.checksum))}"

/-- Whether all sectors of an entry of the header at a sector can be named, and the first one even
if it is empty. -/
def Reaches (start : UInt32) (e : DirectoryEntry) : Prop :=
  ∀ i, i = 0 ∨ i < e.sectorCount → start.toNat + e.offset.toNat + i ≤ 0xFFFFFFFF

theorem reaches_iff {start : UInt32} {e : DirectoryEntry} :
    Reaches start e ↔ start.toNat + e.offset.toNat + (e.sectorCount - 1) ≤ 0xFFFFFFFF := by
  constructor
  · intro h
    exact h (e.sectorCount - 1) (by omega)
  · intro h i hi
    omega

variable [BulkLink δ] {lun : UInt8} {image : Image} {script left : List UInt32}
variable {fresh identified : Engine (Session δ) → Prop}
variable {ready : List UInt32 → Engine (Session δ) → Prop}
variable {vendorId productId : UInt16} {done : List Part} {w : ContainerWriter}
variable {t : Engine (Session δ) × Desk} {start : UInt32} {e : DirectoryEntry}

theorem length_packed : (packed image start e).2.length = e.length.toNat :=
  image.length_octets _ _

theorem packs_packEntry (h : Scripted lun image script fresh identified ready)
    (holds : ContainerWriter.Holds vendorId productId done w)
    (begin : ready (e.sectorsAt start ++ left) t.1) (used : e.IsUsed) (reaches : Reaches start e)
    (room : done.length < containerSlots)
    (fits : size + Part.total done + e.length.toNat ≤ lastPlace) :
    Packs (packEntry lun start e)
      (fun r w' t' => r = .ok () ∧
        ContainerWriter.Holds vendorId productId (done ++ [packed image start e]) w' ∧
        ready left t'.1 ∧
        Desk.Shows [packedLine done.length e (packed image start e).2] t.2 t'.2) w t := by
  obtain ⟨engine, desk⟩ := t
  have read := (h.ends_readEntry begin (reaches_iff.mp reaches)).require
    (fun cause => .during (.readEntry e.name) (.firmware cause)) desk
  refine Packs.bind (Packs.apart read) ?_ ?_
  · rintro data _ ⟨u, _⟩ ⟨rfl, r, outcome, ⟨rfl, next⟩, rfl⟩
    cases outcome
    have append := holds.append (p := packed image start e) used room
      (by rw [length_packed]; exact fits)
    refine Packs.bind (Packs.packing append) ?_ ?_
    · rintro slot w' _ ⟨rfl, r, outcome, rfl, held⟩
      cases outcome
      have verifies : e.Verifies (packed image start e).2 ↔
          Checksum.sum32 (packed image start e).2 = e.checksum := by
        rw [DirectoryEntry.Verifies, List.take_of_length_le (Nat.le_of_eq length_packed)]
      refine (Packs.apart (Ends.say _ u _)).mono ?_
      rintro _ _ _ ⟨rfl, rfl, rfl⟩
      refine ⟨rfl, held, next, ?_⟩
      rw [packedLine, ← decide_eq_decide.mpr verifies]
      exact .print _ _
    · rintro cause w' _ ⟨rfl, r, outcome, rfl, -⟩
      cases outcome
  · rintro cause _ ⟨u, _⟩ ⟨rfl, r, outcome, ⟨rfl, -⟩, rfl⟩
    cases outcome

/-- An entry that cannot be read ends the packing, and the container is as it was. -/
theorem packs_packEntry_unread
    (failed : Ends (Firmware.readEntry lun start e) (fun outcome _ => ∃ cause, outcome = .error cause)
      t.1) :
    Packs (packEntry lun start e)
      (fun r w' t' => w' = w ∧ t'.2 = t.2 ∧
        ∃ cause, r = .error (.during (.readEntry e.name) (.firmware cause))) w t := by
  obtain ⟨engine, desk⟩ := t
  have read := failed.require (fun cause => .during (.readEntry e.name) (.firmware cause)) desk
  refine Packs.bind (Packs.apart read) ?_ ?_
  · rintro data _ ⟨u, _⟩ ⟨-, r, outcome, ⟨cause, rfl⟩, -⟩
    cases outcome
  · rintro cause w' ⟨u, _⟩ ⟨same, r, outcome, ⟨cause, rfl⟩, rfl⟩
    cases outcome
    exact ⟨same, rfl, cause, rfl⟩

/-- An entry that is out of reach, finds no slot or does not fit ends the packing. -/
theorem packs_packEntry_refused (h : Scripted lun image script fresh identified ready)
    (holds : ContainerWriter.Holds vendorId productId done w)
    (begin : ready (e.sectorsAt start ++ left) t.1)
    (refused : ¬ Reaches start e ∨ containerSlots ≤ done.length ∨
      lastPlace < size + Part.total done + e.length.toNat) :
    Packs (packEntry lun start e) (fun r _ _ => ∃ failure, r = .error failure) w t := by
  by_cases reaches : Reaches start e
  · obtain ⟨engine, desk⟩ := t
    have read := (h.ends_readEntry begin (reaches_iff.mp reaches)).require
      (fun cause => .during (.readEntry e.name) (.firmware cause)) desk
    refine Packs.bind (Packs.apart read) ?_ fun f _ _ _ => ⟨f, rfl⟩
    rintro data _ ⟨u, _⟩ ⟨rfl, r, outcome, ⟨rfl, next⟩, rfl⟩
    cases outcome
    have append := holds.append_refused (packed image start e)
      (by rw [length_packed]; exact refused.resolve_left (not_not_intro reaches))
    refine Packs.bind (Packs.packing append) ?_ fun f _ _ _ => ⟨f, rfl⟩
    rintro slot w' _ ⟨-, r, outcome, cause, rfl⟩
    cases outcome
  · have past := Nat.not_le.mp (mt reaches_iff.mpr reaches)
    have refusal := Firmware.gives_readEntry_outOfRange lun past t.1
    refine (packs_packEntry_unread (refusal.ends ⟨_, rfl⟩)).mono ?_
    rintro _ _ _ ⟨-, -, cause, rfl⟩
    exact ⟨_, rfl⟩

/-! ### All entries -/

/-- Entries that can all be packed, from a slot and a place in the container on. -/
structure Packable (start : UInt32) (slot place : Nat) (entries : List DirectoryEntry) : Prop where
  slots : slot + entries.length ≤ containerSlots
  reaches : ∀ e ∈ entries, Reaches start e
  room : place + totalOf (fun e => e.length.toNat) entries ≤ lastPlace

theorem packable_cons {slot place : Nat} {rest : List DirectoryEntry} :
    Packable start slot place (e :: rest) ↔
      (Reaches start e ∧ slot < containerSlots ∧ place + e.length.toNat ≤ lastPlace) ∧
        Packable start (slot + 1) (place + e.length.toNat) rest := by
  constructor
  · rintro ⟨slots, reaches, room⟩
    rw [List.length_cons] at slots
    rw [totalOf] at room
    obtain ⟨first, others⟩ := List.forall_mem_cons.mp reaches
    exact ⟨⟨first, by omega, by omega⟩, by omega, others, by omega⟩
  · rintro ⟨⟨first, -, -⟩, slots, reaches, room⟩
    refine ⟨?_, List.forall_mem_cons.mpr ⟨first, reaches⟩, ?_⟩
    · rw [List.length_cons]
      omega
    · rw [totalOf]
      omega

/-- What is printed for entries that are packed from a slot on. -/
def packedLines (image : Image) (start : UInt32) (slot : Nat) (entries : List DirectoryEntry) :
    List String :=
  (entries.zipIdx slot).map fun (e, i) => packedLine i e (packed image start e).2

/-- The sectors that are read for entries of the header at a sector. -/
def sectorsOf (start : UInt32) (entries : List DirectoryEntry) : List UInt32 :=
  entries.flatMap fun e => e.sectorsAt start

/-- The run: entries are packed one after the other, all of them or up to the first that cannot
be. -/
theorem packs_forM (h : Scripted lun image script fresh identified ready)
    (rest : List DirectoryEntry) (holds : ContainerWriter.Holds vendorId productId done w)
    (begin : ready (sectorsOf start rest ++ left) t.1)
    (used : ∀ e ∈ rest, e.IsUsed) (slots : done.length ≤ containerSlots)
    (room : size + Part.total done ≤ lastPlace) :
    Packs (rest.forM (packEntry lun start))
      (fun r w' t' =>
        (r = .ok () ↔ Packable start done.length (size + Part.total done) rest) ∧
        (r = .ok () →
          ContainerWriter.Holds vendorId productId (done ++ rest.map (packed image start)) w' ∧
          ready left t'.1 ∧
          Desk.Shows (packedLines image start done.length rest) t.2 t'.2)) w t := by
  induction rest generalizing done w t with
  | nil =>
    refine Packs.pure_iff.mpr ⟨⟨fun _ => ⟨slots, by simp, room⟩, fun _ => rfl⟩, fun _ => ?_⟩
    exact ⟨by simpa using holds, begin, .refl t.2⟩
  | cons e rest ih =>
    obtain ⟨usedFirst, usedRest⟩ := List.forall_mem_cons.mp used
    rw [sectorsOf, List.flatMap_cons, List.append_assoc] at begin
    by_cases able : Reaches start e ∧ done.length < containerSlots ∧
        size + Part.total done + e.length.toNat ≤ lastPlace
    · obtain ⟨reaches, slot, fits⟩ := able
      refine Packs.bind (packs_packEntry h holds begin usedFirst reaches slot fits) ?_ ?_
      · rintro _ w' t' ⟨-, held, next, shown⟩
        have count : (done ++ [packed image start e]).length = done.length + 1 := by simp
        have total : Part.total (done ++ [packed image start e]) =
            Part.total done + e.length.toNat := by rw [Part.total_append, length_packed]
        refine (ih held next usedRest (by rw [count]; exact slot) (by rw [total]; omega)).mono ?_
        rintro r w'' t'' ⟨outcome, contents⟩
        rw [count, total] at outcome
        refine ⟨?_, fun ok => ?_⟩
        · rw [packable_cons, outcome, ← Nat.add_assoc]
          exact ⟨fun rest => ⟨⟨reaches, slot, fits⟩, rest⟩, fun all => all.2⟩
        obtain ⟨held', next', shown'⟩ := contents ok
        rw [List.append_assoc] at held'
        rw [count] at shown'
        exact ⟨held', next', shown.trans shown'⟩
      · rintro f w' t' ⟨failed, -⟩
        cases failed
    · have refused : ¬ Reaches start e ∨ containerSlots ≤ done.length ∨
          lastPlace < size + Part.total done + e.length.toNat := by
        by_cases reaches : Reaches start e
        · refine Or.inr ?_
          simp only [reaches, true_and] at able
          omega
        · exact Or.inl reaches
      refine Packs.bind (packs_packEntry_refused h holds begin refused) ?_ ?_
      · rintro _ w' t' ⟨f, failed⟩
        cases failed
      · rintro f w' t' -
        refine ⟨⟨(fun failed => by cases failed), fun all => ?_⟩, fun failed => by cases failed⟩
        exact absurd (packable_cons.mp all).1 able

/-- Closing a container on a steady medium succeeds. -/
theorem packs_packEntries (h : Scripted lun image script fresh identified ready)
    (entries : List DirectoryEntry) (holds : ContainerWriter.Holds vendorId productId [] w)
    (begin : ready (sectorsOf start entries) t.1) (used : ∀ e ∈ entries, e.IsUsed) :
    Packs (packEntries lun start entries)
      (fun r w' t' =>
        (r = .ok () ↔ Packable start 0 size entries) ∧
        (r = .ok () →
          ContainerWriter.Holds vendorId productId (entries.map (packed image start)) w' ∧
          Desk.Shows (packedLines image start 0 entries) t.2 t'.2)) w t := by
  rw [← List.append_nil (sectorsOf start entries)] at begin
  refine Packs.bind (packs_forM h entries holds begin used (by simp) (by decide)) ?_ ?_
  · rintro _ w' t' ⟨outcome, contents⟩
    obtain ⟨held, -, shown⟩ := contents rfl
    refine (Packs.packing held.finish).mono ?_
    rintro _ w'' _ ⟨rfl, _, rfl, rfl, held'⟩
    exact ⟨⟨fun _ => outcome.mp rfl, fun _ => rfl⟩, fun _ => ⟨held', shown⟩⟩
  · rintro f w' t' ⟨outcome, -⟩
    refine ⟨⟨(fun failed => by cases failed), fun all => ?_⟩, fun failed => by cases failed⟩
    cases outcome.mpr all

/-- An entry that cannot be read once the entries before it were packed ends the packing: the
container holds those and no more. -/
theorem packs_packEntries_stops (h : Scripted lun image script fresh identified ready)
    {before : List DirectoryEntry} (after : List DirectoryEntry)
    (holds : ContainerWriter.Holds vendorId productId [] w)
    (begin : ready (sectorsOf start before ++ left) t.1) (used : ∀ e ∈ before, e.IsUsed)
    (packable : Packable start 0 size before)
    (failed : ∀ u, ready left u → Ends (Firmware.readEntry lun start e)
      (fun outcome _ => ∃ cause, outcome = .error cause) u) :
    Packs (packEntries lun start (before ++ e :: after))
      (fun r w' t' => (∃ cause, r = .error (.during (.readEntry e.name) (.firmware cause))) ∧
        ContainerWriter.Holds vendorId productId (before.map (packed image start)) w' ∧
        Desk.Shows (packedLines image start 0 before) t.2 t'.2) w t := by
  have loop : Packs ((before ++ e :: after).forM (packEntry lun start))
      (fun r w' t' => (∃ cause, r = .error (.during (.readEntry e.name) (.firmware cause))) ∧
        ContainerWriter.Holds vendorId productId (before.map (packed image start)) w' ∧
        Desk.Shows (packedLines image start 0 before) t.2 t'.2) w t := by
    rw [List.forM_eq_forM, List.forM_append, List.forM_cons]
    refine Packs.bind (packs_forM h before holds begin used (by simp) (by decide)) ?_ ?_
    · rintro _ w' t' ⟨-, contents⟩
      obtain ⟨held, next, shown⟩ := contents rfl
      refine Packs.bind (packs_packEntry_unread (failed t'.1 next)) ?_ ?_
      · rintro _ _ _ ⟨-, -, cause, stopped⟩
        cases stopped
      · rintro _ w'' t'' ⟨rfl, same, cause, stopped⟩
        rw [same]
        exact ⟨⟨cause, stopped⟩, held, shown⟩
    · rintro f w' t' ⟨outcome, -⟩
      cases outcome.mpr packable
  refine Packs.bind loop ?_ fun _ _ _ stopped => stopped
  rintro _ w' t' ⟨⟨cause, stopped⟩, -⟩
  cases stopped

end PlayerLink
