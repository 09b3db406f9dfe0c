import PlayerLink.Proofs.Program.SectorRoundTrip
import PlayerLink.Proofs.Program.Visiting
import PlayerLink.Proofs.Usb.Presence

/-!
# Sectors that are written out

Writing is the one thing that cannot be undone, so it matters what is sent when it goes wrong. The
file is cut and all numbers are checked before the device is looked for. Then the sectors go out in
order, each behind one that the device confirmed, and the first that it does not confirm is the
last.

`Stored` is the record of sectors that were all confirmed. `Writeout` is what writing comes to on
whatever device: all sectors are stored, or some of them and a first one is not.
-/

namespace PlayerLink

open RunM StatusWrapper

/-- The wrapper in which a sector goes out. -/
def sectorWrapper (lun : UInt8) (tag sector : Nat) (data : List UInt8) : CommandWrapper :=
  (DataPhase.send data).wrapper (.ofNat tag) (Command.write lun (.ofNat sector)).block
    (Command.block_fits _)

/-- The record of a sector that a device took and confirmed with success. -/
def Confirmed (lun : UInt8) (tag sector : Nat) (data : List UInt8) (calls : List LinkCall) : Prop :=
  Completed (sectorWrapper lun tag sector data) (.send data) [] 0 calls

/-- The record of sectors that were stored one after the other, under the tags behind a tag. -/
inductive Stored (lun : UInt8) : Nat → Nat → List (List UInt8) → List LinkCall → Prop
  | nil {tag sector : Nat} : Stored lun tag sector [] []
  | cons {tag sector : Nat} {data : List UInt8} {rest : List (List UInt8)}
    {calls more : List LinkCall} (here : Confirmed lun (tag + 1) sector data calls)
    (later : Stored lun (tag + 1) (sector + 1) rest more) :
    Stored lun tag sector (data :: rest) (calls ++ more)

/-- Everything that is sent to store sectors. -/
def writePlan (lun : UInt8) : Nat → Nat → List (List UInt8) → List (List UInt8)
  | _, _, [] => []
  | tag, sector, data :: rest =>
    (sectorWrapper lun (tag + 1) sector data).toOctets :: data ::
      writePlan lun (tag + 1) (sector + 1) rest

/-- What writing sectors comes to: they are stored, or those in front of one that is not. What was
sent for this one is no more than is needed to store it, and nothing shows that the device confirmed
it. -/
inductive Writeout (lun : UInt8) (tag first : Nat) :
    List (List UInt8) → Except Failure Unit → List LinkCall → Prop
  | whole {parts : List (List UInt8)} {calls : List LinkCall}
    (stored : Stored lun tag first parts calls) : Writeout lun tag first parts (.ok ()) calls
  | failed {before after : List (List UInt8)} {data : List UInt8} {cause : CommandError}
    {front last : List LinkCall} (stored : Stored lun tag first before front)
    (sent : LinkCall.sends last <+:
      [(sectorWrapper lun (tag + before.length + 1) (first + before.length) data).toOctets, data])
    (missed : ∀ calls, calls <+: last →
      ¬ Confirmed lun (tag + before.length + 1) (first + before.length) data calls) :
    Writeout lun tag first (before ++ data :: after)
      (.error (.during (.writeSector (.ofNat (first + before.length))) (.command cause)))
      (front ++ last)

section

variable {lun : UInt8} {tag sector first : Nat} {data : List UInt8} {parts rest : List (List UInt8)}
variable {calls more : List LinkCall} {outcome : Except Failure Unit}

theorem Confirmed.sends_eq (confirmed : Confirmed lun tag sector data calls) (some : data ≠ []) :
    LinkCall.sends calls = [(sectorWrapper lun tag sector data).toOctets, data] := by
  obtain ⟨taken, moved, packet, rfl, stage, -⟩ := confirmed
  cases stage with
  | sentNothing => exact absurd rfl some
  | sent taken' => rfl

theorem Confirmed.length_eq (confirmed : Confirmed lun tag sector data calls) (some : data ≠ []) :
    calls.length = 3 := by
  obtain ⟨taken, moved, packet, rfl, stage, -⟩ := confirmed
  cases stage with
  | sentNothing => exact absurd rfl some
  | sent taken' => rfl

/-- One more sector is stored behind the others. -/
theorem Stored.concat (stored : Stored lun tag sector parts calls)
    (last : Confirmed lun (tag + parts.length + 1) (sector + parts.length) data more) :
    Stored lun tag sector (parts ++ [data]) (calls ++ more) := by
  induction stored with
  | nil =>
    rw [List.nil_append, List.nil_append, ← List.append_nil more]
    exact .cons last .nil
  | @cons tag sector data' rest calls' more' here later ih =>
    have place (n : Nat) : n + (data' :: rest).length = n + 1 + rest.length :=
      (Nat.succ_add_eq_add_succ n rest.length).symm
    rw [place, place] at last
    rw [List.cons_append, List.append_assoc]
    exact .cons here (ih last)

/-- If sectors are stored and one more behind them, the calls for this one confirm it. -/
theorem Stored.exists_confirmed {before after : List (List UInt8)} {front last : List LinkCall}
    (stored : Stored lun tag sector before front) (some : ∀ data ∈ before, data ≠ [])
    (all : Stored lun tag sector (before ++ data :: after) (front ++ last)) :
    ∃ calls, calls <+: last ∧
      Confirmed lun (tag + before.length + 1) (sector + before.length) data calls := by
  induction stored with
  | nil =>
    generalize made : [] ++ last = made at all
    cases all with
    | cons here later =>
      rw [List.nil_append] at made
      exact ⟨_, ⟨_, made.symm⟩, here⟩
  | @cons tag sector data' rest calls more here later ih =>
    generalize made : calls ++ more ++ last = made at all
    cases all with
    | @cons _ _ _ _ calls' more' here' later' =>
      have filled := some data' List.mem_cons_self
      have same : calls.length = calls'.length := by
        rw [here.length_eq filled, here'.length_eq filled]
      rw [List.append_assoc] at made
      obtain ⟨-, rfl⟩ := List.append_inj made same
      have place (n : Nat) : n + 1 + rest.length = n + (data' :: rest).length :=
        Nat.succ_add_eq_add_succ n rest.length
      have behind := ih (fun data among => some data (List.mem_cons_of_mem _ among)) later'
      rwa [place, place] at behind

theorem Stored.sends_eq (stored : Stored lun tag sector parts calls)
    (some : ∀ data ∈ parts, data ≠ []) :
    LinkCall.sends calls = writePlan lun tag sector parts := by
  induction stored with
  | nil => rfl
  | cons here later ih =>
    rw [LinkCall.sends_append, here.sends_eq (some _ List.mem_cons_self),
      ih fun data among => some data (List.mem_cons_of_mem _ among)]
    rfl

theorem writePlan_append (lun : UInt8) (tag sector : Nat) (a b : List (List UInt8)) :
    writePlan lun tag sector (a ++ b) =
      writePlan lun tag sector a ++ writePlan lun (tag + a.length) (sector + a.length) b := by
  induction a generalizing tag sector with
  | nil => rfl
  | cons data a ih =>
    rw [List.cons_append, writePlan, ih, writePlan, List.length_cons, Nat.succ_add_eq_add_succ,
      Nat.succ_add_eq_add_succ, List.cons_append, List.cons_append]

namespace Writeout

/-- Nothing is sent that was not planned, and nothing out of order. -/
theorem sends_prefix (h : Writeout lun tag first parts outcome calls)
    (some : ∀ data ∈ parts, data ≠ []) :
    LinkCall.sends calls <+: writePlan lun tag first parts := by
  cases h with
  | whole stored =>
    rw [stored.sends_eq some]
  | failed stored sent missed =>
    rw [LinkCall.sends_append, writePlan_append,
      stored.sends_eq fun data among => some data (List.mem_append_left _ among)]
    refine (List.prefix_append_right_inj _).mpr (sent.trans ?_)
    exact List.prefix_append _ _

/-- Writing succeeds if and only if every sector was confirmed. -/
theorem ok_iff (h : Writeout lun tag first parts outcome calls)
    (some : ∀ data ∈ parts, data ≠ []) :
    outcome = .ok () ↔ Stored lun tag first parts calls := by
  cases h with
  | whole stored => exact iff_of_true rfl stored
  | failed stored sent missed =>
    refine iff_of_false nofun ?_
    intro all
    obtain ⟨calls, among, confirmed⟩ :=
      stored.exists_confirmed (fun data among => some data (List.mem_append_left _ among)) all
    exact missed calls among confirmed

end Writeout

end

/-! ### On an open device -/

/-- A device whose record confirms a write took it. -/
theorem Played.takes {σ : Type} [BulkLink σ] {l l' : σ} {w : CommandWrapper} {data : List UInt8}
    {calls more : List LinkCall} (played : Played l (calls ++ more) l')
    (completed : Completed w (.send data) [] 0 calls) (some : data ≠ []) :
    ∃ l₁, Takes w data l l₁ := by
  obtain ⟨taken, moved, packet, rfl, stage, accepted⟩ := completed
  obtain ⟨residue, rfl⟩ := accepted.exists_residue
  cases stage with
  | sentNothing => exact absurd rfl some
  | sent moved =>
    cases played with
    | send told rest =>
      cases rest with
      | send told' rest =>
        cases rest with
        | receive told'' rest =>
          exact ⟨_, taken, moved, residue, _, _, Prod.ext told rfl, Prod.ext told' rfl,
            Prod.ext told'' rfl⟩

section

variable {δ : Type} [BulkLink δ] {lun : UInt8} {tag sector first : Nat} {data : List UInt8}
variable {e : Engine (Session (Recorded δ))}

/-- Writing a sector succeeds if and only if the device confirms it. -/
theorem Engine.ends_writeSector_confirmed (some : data ≠ []) (tagged : e.tag = .ofNat tag)
    (present : e.link.Present) :
    Ends (writeSector lun (.ofNat sector) data)
      (fun result e' => e'.tag = .ofNat (tag + 1) ∧ ∃ calls, Session.Made e.link calls e'.link ∧
        LinkCall.sends calls <+: [(sectorWrapper lun (tag + 1) sector data).toOctets, data] ∧
        (result = .ok () → Confirmed lun (tag + 1) sector data calls) ∧
        (∀ front, front <+: calls → Confirmed lun (tag + 1) sector data front →
          result = .ok ())) e := by
  have next : e.tag + 1 = .ofNat (tag + 1) := by rw [tagged, ofNat_succ]
  have recorded := Session.transcript.ends_perform (.write lun (.ofNat sector)) (.send data) e
  have played := (conducts_perform_sending (.write lun (.ofNat sector)) data).ends_played
    (x := e) present
  intro log
  obtain ⟨counted, new, grown, sent, completed⟩ := recorded log
  obtain ⟨calls, made, -, played⟩ := played log
  obtain rfl := grown.unique made.grown
  rw [next] at sent completed
  refine ⟨counted.trans next, new, made, sent, ?_, ?_⟩
  · intro ok
    obtain ⟨buffer, confirmed⟩ := completed ok
    have ⟨_, _, _, _, stage, _⟩ := confirmed
    cases stage with
    | sentNothing => exact confirmed
    | sent => exact confirmed
  · rintro front ⟨more, rfl⟩ confirmed
    obtain ⟨l, takes⟩ := played.takes confirmed some
    rw [sectorWrapper, ← next] at takes
    exact (gives_perform_of_takes takes (by simpa using some) log).1

/-- Sectors go out one behind the other, each behind one that was confirmed. -/
theorem ends_writeSectors_writeout (lun : UInt8) (parts : List (List UInt8)) (tag first : Nat)
    (some : ∀ data ∈ parts, data ≠ []) (tagged : e.tag = .ofNat tag) (present : e.link.Present)
    (desk : Desk) :
    Ends (writeSectors lun (.ofNat first) parts).run
      (fun outcome x => ∃ calls, Session.Made e.link calls x.1.link ∧
        Writeout lun tag first parts outcome calls) (e, desk) := by
  have still : Session.Made e.link [] e.link := ⟨Session.transcript.refl e.link, present⟩
  refine (ends_writeSectors
    (fun before u => u.tag = .ofNat (tag + before.length) ∧ ∃ calls,
      Session.Made e.link calls u.link ∧ Stored lun tag first before calls)
    (fun before data cause u => ∃ front last, Session.Made e.link (front ++ last) u.link ∧
      ∀ after, Writeout lun tag first (before ++ data :: after)
        (.error (.during (.writeSector (.ofNat (first + before.length))) (.command cause)))
        (front ++ last)) ?_ ⟨tagged, [], still, .nil⟩ desk).mono ?_
  · rintro before data after rfl u ⟨next, front, made, stored⟩
    refine (Engine.ends_writeSector_confirmed (some data List.mem_append_cons_self) next
      made.present).mono ?_
    rintro result v ⟨next', last, made', sent, confirmed, missed⟩
    constructor
    · intro ok
      rw [List.length_append]
      exact ⟨next', _, made.trans made', stored.concat (confirmed ok)⟩
    · rintro cause rfl
      refine ⟨front, last, made.trans made', fun after => .failed stored sent ?_⟩
      intro calls among confirmed
      cases missed calls among confirmed
  · rintro _ x (⟨rfl, -, calls, made, stored⟩ |
      ⟨before, data, after, cause, rfl, rfl, front, last, made, writeout⟩)
    · exact ⟨calls, made, .whole stored⟩
    · exact ⟨_, made, writeout after⟩

end

/-! ### On the device that a target names -/

section

variable {δ α : Type} {post : Except Failure α → List LinkCall → Prop} {bus : Bus (Recorded δ)}

/-- Work ended as `post` says, given the calls that it made on one device, or the device was not
there for it and nothing was called. -/
def Bus.Conducted (post : Except Failure α → List LinkCall → Prop) (bus : Bus (Recorded δ))
    (outcome : Except Failure α) (bus' : Bus (Recorded δ)) : Prop :=
  ∃ position calls, Bus.Grew position bus calls bus' ∧
    ((∃ task cause, outcome = .error (.during task (.storage cause)) ∧ calls = []) ∨
      post outcome calls)

theorem Bus.Conducted.of_links_eq {task : Task} {cause : StorageError} {bus' : Bus (Recorded δ)}
    (same : bus'.links = bus.links) :
    bus.Conducted post (.error (.during task (.storage cause))) bus' :=
  ⟨0, [], .of_links_eq same, .inl ⟨task, cause, rfl, rfl⟩⟩

theorem Bus.Conducted.congr {first bus' : Bus (Recorded δ)} {outcome : Except Failure α}
    (same : first.links = bus.links) (h : first.Conducted post outcome bus') :
    bus.Conducted post outcome bus' := by
  obtain ⟨position, calls, grown, ended⟩ := h
  have still : Bus.Grew position bus [] first := .of_links_eq same
  exact ⟨position, calls, still.trans grown, ended⟩

/-- Work on a device ends as it does on the open device, if it gets as far as that. -/
theorem ends_withDevice_conducted {device : StorageDevice} {opening claiming : Task}
    {work : ServiceM (Recorded δ) α} (desk : Desk)
    (done : ∀ session : Session (Recorded δ), session.Present → Ends work.run
      (fun outcome x => ∃ calls, Session.Made session calls x.1.link ∧ post outcome calls)
      ({ link := session }, desk)) :
    Ends (withDevice device (fun e => .during opening (.storage e))
        (fun e => .during claiming (.storage e)) work).run
      (fun outcome x => bus.Conducted post outcome x.1) (bus, desk) := by
  refine ends_withDevice_stages _ (fun _ s => bus.Untouched s.bus ∧ s.Present)
    (Storage.ends_openDevice device bus) ?_ ?_ ?_ ?_
  · rintro e b ⟨same, -⟩
    exact .of_links_eq same.links
  · rintro handle b ⟨same, there⟩
    obtain ⟨rfl, present⟩ := there handle rfl
    refine (Session.ends_claim ⟨b, handle⟩).mono ?_
    intro _ s idle
    refine ⟨same.trans idle.bus, ?_⟩
    rw [Session.Present, idle.device]
    exact present.of_links_eq idle.bus.links
  · rintro e s ⟨same, -⟩ log
    exact .of_links_eq (same.trans (Session.after_close s log)).links
  · rintro s ⟨same, present⟩
    refine (done s present).mono ?_
    rintro outcome x ⟨calls, made, ended⟩ log
    have closed := (Session.after_close x.1.link log).links
    refine .congr same.links ⟨s.handle.device.position, calls, ?_, .inr ended⟩
    have all := made.grown.bus.trans (.of_links_eq closed)
    rwa [List.append_nil] at all

theorem ends_withTarget_conducted {target : Target} {work : ServiceM (Recorded δ) α} (desk : Desk)
    (done : ∀ session : Session (Recorded δ), session.Present → Ends work.run
      (fun outcome x => ∃ calls, Session.Made session calls x.1.link ∧ post outcome calls)
      ({ link := session }, desk)) :
    Ends (withTarget target work).run (fun outcome x => bus.Conducted post outcome x.1)
      (bus, desk) := by
  refine Ends.bindExcept ((Storage.ends_find _ _ bus).require _ desk) ?_ ?_
  · rintro device ⟨b, _⟩ ⟨r, -, ⟨same, -⟩, rfl⟩
    refine (ends_withDevice_conducted _ fun session present =>
      Ends.bindExcept_lift (done session present)).mono ?_
    intro outcome x conducted
    exact conducted.congr same.links
  · rintro f ⟨b, _⟩ ⟨r, failed, ⟨same, -⟩, rfl⟩
    cases r with
    | ok device => cases failed
    | error e =>
      cases failed
      exact .of_links_eq same.links

end

/-! ### A file -/

/-- A sector of a file, counted from its start, the last one filled up with zeros. -/
def sectorAt (input : List UInt8) (i : Nat) : List UInt8 :=
  zeroPad sectorSize (input.drop (i * sectorSize))

theorem sectorAt_succ (input : List UInt8) (i : Nat) :
    sectorAt input (i + 1) = sectorAt (input.drop sectorSize) i := by
  rw [sectorAt, sectorAt, List.drop_drop, Nat.succ_mul, Nat.add_comm]

/-- What is sent for a file are the wrapper of each of its sectors and this sector. -/
theorem writePlan_cutSectors (lun : UInt8) (tag first count : Nat) (input : List UInt8) :
    writePlan lun tag first (cutSectors count input) = (List.range count).flatMap fun i =>
      [(sectorWrapper lun (tag + i + 1) (first + i) (sectorAt input i)).toOctets,
        sectorAt input i] := by
  induction count generalizing tag first input with
  | zero => rfl
  | succ count ih =>
    rw [cutSectors, writePlan, ih, List.range_succ_eq_map, List.flatMap_cons, List.flatMap_map]
    simp only [sectorAt_succ, Nat.succ_add_eq_add_succ]
    rfl

section

variable {δ : Type} [BulkLink δ] {target : Target} {bus : Bus (Recorded δ)} {desk : Desk}
variable {path : String} {place : Place} {input : List UInt8} {first : UInt32}

/-- What comes of writing a file, given the calls on the device. Each sector of it was sent as it
was planned or not at all, each behind one that was confirmed, and the run succeeds if and only if
all were confirmed. -/
structure FileWriteout (lun : UInt8) (first : Nat) (input : List UInt8)
    (outcome : Except Failure Unit) (calls : List LinkCall) : Prop where
  writeout : Writeout lun 0 first (cutSectors (sectorsNeeded input) input) outcome calls
  planned : LinkCall.sends calls <+: (List.range (sectorsNeeded input)).flatMap fun i =>
    [(sectorWrapper lun (i + 1) (first + i) (sectorAt input i)).toOctets, sectorAt input i]
  ok_iff : outcome = .ok () ↔
    Stored lun 0 first (cutSectors (sectorsNeeded input) input) calls

theorem cutSectors_ne_nil (count : Nat) (input : List UInt8) :
    ∀ data ∈ cutSectors count input, data ≠ [] := by
  rintro _ among rfl
  cases length_of_mem_cutSectors among

theorem Writeout.fileWriteout {lun : UInt8} {first : Nat} {outcome : Except Failure Unit}
    {calls : List LinkCall}
    (h : Writeout lun 0 first (cutSectors (sectorsNeeded input) input) outcome calls) :
    FileWriteout lun first input outcome calls := by
  have filled := cutSectors_ne_nil (sectorsNeeded input) input
  have planned := h.sends_prefix filled
  rw [writePlan_cutSectors] at planned
  simp only [Nat.zero_add] at planned
  exact ⟨h, planned, h.ok_iff filled⟩

/-- A file that cannot be cut into sectors. -/
theorem gives_writeMedium_of_error {f : Failure}
    (unusable : inputSectors desk.folder path = .error f) :
    Gives (writeMedium target first path).run (bus, desk) (.error f) (bus, desk) :=
  Ends.bindDesk (Ends.bindEnded_of_error unusable ⟨rfl, rfl⟩)

/-- A file the last sector of which would have no number. -/
theorem gives_writeMedium_past {count : UInt32}
    (known : inputSectors desk.folder path = .ok (input, count))
    (past : UInt32.size ≤ first.toNat + (count.toNat - 1)) :
    Gives (writeMedium target first path).run (bus, desk) (.error (.range ⟨first, count⟩))
      (bus, desk) := by
  refine Ends.bindDesk (Ends.bindEnded known ?_)
  exact Ends.bindEnded_of_error (congrArg _ (SectorRange.make_of_le past)) ⟨rfl, rfl⟩

theorem ends_writeMedium_conducted
    (known : inputSectors desk.folder path = .ok (input, .ofNat (sectorsNeeded input)))
    (few : sectorsNeeded input < UInt32.size)
    (inRange : first.toNat + (sectorsNeeded input - 1) < UInt32.size) :
    Ends (writeMedium target first path).run
      (fun outcome x => bus.Conducted (FileWriteout target.lun first.toNat input) outcome x.1)
      (bus, desk) := by
  have counted : (UInt32.ofNat (sectorsNeeded input)).toNat = sectorsNeeded input :=
    UInt32.toNat_ofNat_of_lt' few
  have addressable : first.toNat + ((UInt32.ofNat (sectorsNeeded input)).toNat - 1) <
      UInt32.size := by
    rw [counted]
    exact inRange
  refine Ends.bindDesk (Ends.bindEnded known ?_)
  refine Ends.bindEnded (congrArg _ (SectorRange.make_of_lt addressable)) ?_
  refine ends_withTarget_conducted desk ?_
  intro session present
  have written := ends_writeSectors_writeout target.lun (cutSectors (sectorsNeeded input) input) 0
    first.toNat (cutSectors_ne_nil _ _) (e := { link := session }) rfl present desk
  rw [UInt32.ofNat_toNat] at written
  refine Ends.bindExcept_lift ?_
  simp only [counted]
  refine Ends.bindExcept written ?_ ?_
  · rintro _ x ⟨calls, made, writeout⟩
    exact Ends.runLift ⟨calls, made, writeout.fileWriteout⟩
  · rintro f x ⟨calls, made, writeout⟩
    exact ⟨calls, made, writeout.fileWriteout⟩

/-- A file that is empty, that has more sectors than there are numbers, or that would run past the
last sector is not written: nothing is done on the bus. Of any other the sectors have numbers that
do not wrap around, and they are written in order up to the first that is not confirmed, if the
device is there for it. -/
theorem write_stops_at_first_failure (opened : desk.folder.openFile path = .ok place)
    (read : desk.folder.readAll place = .ok input) :
    (input = [] → Gives (Invocation.write target first path).run.run (bus, desk)
      (.error (.inputEmpty path)) (bus, desk)) ∧
    (UInt32.size ≤ sectorsNeeded input → Gives (Invocation.write target first path).run.run
      (bus, desk) (.error (.inputTooLarge path)) (bus, desk)) ∧
    (input ≠ [] → sectorsNeeded input < UInt32.size →
      (UInt32.size < first.toNat + sectorsNeeded input →
        Gives (Invocation.write target first path).run.run (bus, desk)
          (.error (.range ⟨first, .ofNat (sectorsNeeded input)⟩)) (bus, desk)) ∧
      (first.toNat + sectorsNeeded input ≤ UInt32.size →
        (∀ i < sectorsNeeded input, (UInt32.ofNat (first.toNat + i)).toNat = first.toNat + i) ∧
        Ends (Invocation.write target first path).run.run
          (fun outcome x =>
            bus.Conducted (FileWriteout target.lun first.toNat input) outcome x.1)
          (bus, desk))) := by
  refine ⟨?_, ?_, ?_⟩
  · intro empty
    exact gives_writeMedium_of_error (inputSectors_of_empty opened read empty)
  · intro large
    exact gives_writeMedium_of_error (inputSectors_of_large opened read large)
  · intro filled few
    have some := sectorsNeeded_pos filled
    have known := inputSectors_of_read opened read filled few
    constructor
    · intro past
      refine gives_writeMedium_past known ?_
      rw [UInt32.toNat_ofNat_of_lt' few]
      omega
    · intro within
      constructor
      · intro i below
        apply UInt32.toNat_ofNat_of_lt'
        omega
      · exact ends_writeMedium_conducted known few (by omega)

end

/-- A disk that confirms one sector and refuses the next. -/
def halfDisk : Bus (Recorded Playback) where
  devices := [.plain ⟨0x10D6, 0x1101⟩
    { link := { reads := [.ok (make 1 0 0).toOctets, .ok (make 2 512 1).toOctets] } }]

/-- A folder with a file of two sectors. -/
def twoSectors : Desk where
  folder := { files := [("in.bin", oneSectorMore)] }

theorem write_stops_at_first_failure_lastSectors :
    Ends (Invocation.write ⟨⟨0x10D6, 0x1101⟩, 0⟩ 0xFFFFFFFE "in.bin").run.run
      (fun outcome x => halfDisk.Conducted (FileWriteout 0 0xFFFFFFFE oneSectorMore) outcome x.1)
      (halfDisk, twoSectors) ∧
    Gives (Invocation.write ⟨⟨0x10D6, 0x1101⟩, 0⟩ 0xFFFFFFFF "in.bin").run.run
      (halfDisk, twoSectors) (.error (.range ⟨0xFFFFFFFF, 2⟩)) (halfDisk, twoSectors) := by
  have two : sectorsNeeded oneSectorMore = 2 := by decide +kernel
  have filled : oneSectorMore ≠ [] := by decide +kernel
  have few : sectorsNeeded oneSectorMore < UInt32.size := by rw [two]; decide
  have opened : twoSectors.folder.openFile "in.bin" = .ok (.file "in.bin") := rfl
  have read : twoSectors.folder.readAll (.file "in.bin") = .ok oneSectorMore := rfl
  constructor
  · have within : (0xFFFFFFFE : UInt32).toNat + sectorsNeeded oneSectorMore ≤ UInt32.size := by
      rw [two]; decide
    exact (((write_stops_at_first_failure opened read).2.2 filled few).2 within).2
  · have past : UInt32.size < (0xFFFFFFFF : UInt32).toNat + sectorsNeeded oneSectorMore := by
      rw [two]; decide
    have refused : Gives (Invocation.write ⟨⟨0x10D6, 0x1101⟩, 0⟩ 0xFFFFFFFF "in.bin").run.run
        (halfDisk, twoSectors) (.error (.range ⟨_, .ofNat (sectorsNeeded oneSectorMore)⟩)) _ :=
      ((write_stops_at_first_failure opened read).2.2 filled few).1 past
    rwa [two] at refused

end PlayerLink
