import Mathlib.Order.Bounds.Basic
import Mathlib.Order.Interval.Set.Defs
import PlayerLink.Proofs.Firmware.Readout

/-!
# Looking for the second copy of the header

A device may have lost some of its sectors. The search for the second copy of the header stops at
the first sector that is lost or that starts like a header, and it matters which of the two it is: a
copy behind a lost sector is not found. `stops` are all the sectors at which it would stop, and
`Search` tells how far it gets by the least of them.

The reporter hears of the number of sectors before the search, of each that was passed by, and of
the end unless a sector was lost.
-/

namespace PlayerLink

open StatusWrapper

/-! ### What a reporter hears -/

/-- One thing that a reporter is told. -/
inductive ProgressCall where
  | start (total : Nat)
  | advance (amount : Nat)
  | finish

namespace Progress

variable {π : Type} [Progress π]

/-- A reporter after it was told one thing. -/
def told (p : π) : ProgressCall → π
  | .start total => Progress.start total p
  | .advance amount => Progress.advance amount p
  | .finish => Progress.finish p

/-- A reporter after it was told one thing after the other. -/
def hear (calls : List ProgressCall) (p : π) : π := calls.foldl told p

theorem hear_cons (call : ProgressCall) (rest : List ProgressCall) (p : π) :
    hear (call :: rest) p = hear rest (told p call) := rfl

theorem hear_append (front back : List ProgressCall) (p : π) :
    hear (front ++ back) p = hear back (hear front p) := List.foldl_append

theorem hear_advance (amount n : Nat) (p : π) :
    hear (.replicate n (.advance amount)) p = (Progress.advance amount)^[n] p := by
  induction n generalizing p with
  | zero => rfl
  | succ n ih => exact ih (Progress.advance amount p)

end Progress

/-! ### Devices that have lost sectors -/

/-- An engine on the link itself. -/
def Engine.bare {σ : Type} (e : Engine (Recorded σ)) : Engine σ := ⟨e.link.link, e.tag⟩

/-- A link that has the sectors of an image but for those it has lost. `ready` is given the sector
that is read next. A read of a sector that it has is answered with the whole of it; what comes in
place of a lost one is not the data of an answer. -/
structure Patchy {σ : Type} [BulkLink σ] (lun : UInt8) (image : Image) (lost : Set UInt32)
    (ready : UInt32 → Engine σ → Prop) : Prop where
  whole : ∀ e sector, ready sector e → sector ∉ lost → ∃ l, ready (sector + 1) ⟨l, e.tag + 1⟩ ∧
    Answers ((firmwareSector lun sector).wrapper (e.tag + 1) sectorSize) sectorSize
      (image sector).toList e.link l
  fails : ∀ e sector, ready sector e → sector ∈ lost → ∀ packet l,
    Answers ((firmwareSector lun sector).wrapper (e.tag + 1) sectorSize) sectorSize packet
      e.link l → packet.length < sectorSize ∧ IsStatus packet

/-- A link answers in the same way while its calls are noted down. -/
theorem Answers.recorded {σ : Type} [BulkLink σ] {w : CommandWrapper} {room : Nat}
    {data : List UInt8} {r : Recorded σ} {l : σ} (h : Answers w room data r.link l) :
    ∃ r' : Recorded σ, r'.link = l ∧ Answers w room data r r' := by
  obtain ⟨taken, residue, l₁, l₂, sent, received, told⟩ := h
  have noted {α : Type} {step : StateM σ α} (note : α → LinkCall) {m m' : σ} {a : α}
      (calls : Array LinkCall) (same : step m = (a, m')) :
      Recorded.noting step note ⟨m, calls⟩ = (a, ⟨m', calls.push (note a)⟩) := by
    rw [Recorded.noting, same]
  exact ⟨_, rfl, taken, residue, _, _, noted _ _ sent, noted _ _ received, noted _ _ told⟩

section

variable {σ : Type} [BulkLink σ] {lun : UInt8} {image : Image} {lost : Set UInt32}
variable {ready : UInt32 → Engine σ → Prop}

namespace Patchy

variable {e : Engine (Recorded σ)} {sector : UInt32} {buffer : List UInt8}

/-- A sector that the device has is read, and nothing but it is asked for. -/
theorem ends_readFlash (patchy : Patchy lun image lost ready) (room : buffer.length = sectorSize)
    (begin : ready sector e.bare) (kept : sector ∉ lost) :
    Ends (Engine.readFlash lun sector .logical buffer)
      (fun filled e' => filled = ⟨.ok (), (image sector).toList⟩ ∧ ready (sector + 1) e'.bare ∧
        ∃ calls, Recorded.Grew e.link calls e'.link ∧
          LinkCall.requests calls = [some (firmwareSector lun sector)]) e := by
  obtain ⟨l, next, answers⟩ := patchy.whole e.bare sector begin kept
  obtain ⟨r, rfl, noted⟩ := answers.recorded (r := e.link)
  have some : buffer ≠ [] := by
    rintro rfl
    cases room
  have filled := Engine.gives_fill_of_whole (e := e) noted (by decide) room Vector.length_toList
  refine (filled.and (Engine.ends_fill_settled (firmwareSector lun sector) some e)).mono ?_
  rintro _ _ ⟨⟨rfl, rfl⟩, -, calls, grown, ⟨packet, -, delivered, -⟩ | ⟨cause, other, -⟩⟩
  · exact ⟨rfl, next, calls, grown, delivered.requests⟩
  · cases other

/-- A sector that is lost is not read. -/
theorem ends_readFlash_lost (patchy : Patchy lun image lost ready)
    (room : buffer.length = sectorSize) (begin : ready sector e.bare) (gone : sector ∈ lost) :
    Ends (Engine.readFlash lun sector .logical buffer)
      (fun filled e' => (∃ cause, filled.result = .error cause) ∧
        ∃ calls, Recorded.Grew e.link calls e'.link ∧
          LinkCall.requests calls = [some (firmwareSector lun sector)]) e := by
  have some : buffer ≠ [] := by
    rintro rfl
    cases room
  refine (Engine.ends_fill_settled (firmwareSector lun sector) some e).mono ?_
  rw [room]
  rintro filled e' ⟨-, calls, grown, outcome⟩
  obtain ⟨packet, -, delivered, answers⟩ | ⟨cause, told, failed⟩ := outcome
  · have ⟨_, _, _, noStatus, _⟩ := delivered
    obtain ⟨short, looks⟩ := patchy.fails e.bare sector begin gone packet _ answers
    exact absurd looks (noStatus short)
  · exact ⟨⟨cause, told⟩, calls, grown, failed.requests⟩

/-- The sectors are asked for one by one, and as far as they are read none of them is lost. -/
theorem readsNext (patchy : Patchy lun image lost ready) (e : Engine (Recorded σ)) (first : Nat)
    (buffer : List UInt8) (kept : List (List UInt8)) :
    ReadsNext (Engine.readFlash lun · .logical ·) first buffer
      (fun kept e' => kept = image.sectors first kept.length ∧
        (∀ s, first ≤ s → s < first + kept.length → .ofNat s ∉ lost) ∧
        ready (.ofNat (first + kept.length)) e'.bare ∧
        ∃ calls, Recorded.Grew e.link calls e'.link ∧ LinkCall.requests calls =
          (sectorsFrom first kept.length).map fun sector => some (firmwareSector lun sector))
      (fun kept _ e' => kept = image.sectors first kept.length ∧
        (∀ s, first ≤ s → s < first + kept.length → .ofNat s ∉ lost) ∧
        .ofNat (first + kept.length) ∈ lost ∧
        ∃ calls, Recorded.Grew e.link calls e'.link ∧ LinkCall.requests calls =
          (sectorsFrom first (kept.length + 1)).map fun sector => some (firmwareSector lun sector))
      kept := by
  rintro u room ⟨same, clear, begin, calls, grown, requests⟩
  have asked {last : List LinkCall} (one : LinkCall.requests last =
      [some (firmwareSector lun (.ofNat (first + kept.length)))]) :
      LinkCall.requests (calls ++ last) = (sectorsFrom first (kept.length + 1)).map
        fun sector => some (firmwareSector lun sector) := by
    rw [LinkCall.requests_append, requests, one, sectorsFrom_succ, List.map_append]
    rfl
  by_cases gone : .ofNat (first + kept.length) ∈ lost
  · refine (patchy.ends_readFlash_lost room begin gone).mono ?_
    rintro ⟨_, after⟩ v ⟨⟨cause, rfl⟩, last, grown', one⟩
    exact ⟨same, clear, gone, _, Recorded.transcript.trans grown grown', asked one⟩
  · refine (patchy.ends_readFlash room begin gone).mono ?_
    rintro _ v ⟨rfl, next, last, grown', one⟩
    refine ⟨Vector.length_toList, image.concat_eq_sectors.mpr ⟨same, rfl⟩, ?_⟩
    rw [List.length_append, List.length_singleton, ← Nat.add_assoc, ofNat_succ]
    refine ⟨?_, next, _, Recorded.transcript.trans grown grown', asked one⟩
    intro s low high
    obtain before | rfl := Nat.lt_succ_iff_lt_or_eq.mp high
    · exact clear s low before
    · exact gone

end Patchy

/-! ### The search -/

/-- The search stops at a sector that is lost, and at one that starts like a header. -/
def Stops (image : Image) (lost : Set UInt32) (sector : UInt32) : Prop :=
  sector ∈ lost ∨ image.Starts sector

/-- The numbers of a range at whose sectors the search would stop. -/
def stops (image : Image) (lost : Set UInt32) (first limit : Nat) : Set Nat :=
  {s | s ∈ Set.Ico first limit ∧ Stops image lost (.ofNat s)}

/-- How a search ends that passes by so many of the sectors of a range: at a sector that it finds,
at one that it cannot read, or behind the last one. -/
inductive Search (image : Image) (lost : Set UInt32) (first count : Nat) :
    Nat → Except FirmwareError (Option UInt32) → Prop
  | found {passed : Nat} (within : passed < count)
    (clear : ∀ s, first ≤ s → s < first + passed → ¬ Stops image lost (.ofNat s))
    (kept : .ofNat (first + passed) ∉ lost) (starts : image.Starts (.ofNat (first + passed))) :
    Search image lost first count passed (.ok (some (.ofNat (first + passed))))
  | failed {passed : Nat} {cause : CommandError} (within : passed < count)
    (clear : ∀ s, first ≤ s → s < first + passed → ¬ Stops image lost (.ofNat s))
    (gone : .ofNat (first + passed) ∈ lost) :
    Search image lost first count passed (.error (.readFailed (.ofNat (first + passed)) cause))
  | nowhere (clear : ∀ s, first ≤ s → s < first + count → ¬ Stops image lost (.ofNat s)) :
    Search image lost first count count (.ok none)

namespace Search

variable {first count passed : Nat} {outcome : Except FirmwareError (Option UInt32)}

theorem passed_le (h : Search image lost first count passed outcome) : passed ≤ count := by
  cases h with
  | found within => exact Nat.le_of_lt within
  | failed within => exact Nat.le_of_lt within
  | nowhere => exact Nat.le_refl count

/-- Where the search stops and did not stop before is the first sector to stop at. -/
theorem isLeast_stops (within : passed < count)
    (clear : ∀ s, first ≤ s → s < first + passed → ¬ Stops image lost (.ofNat s))
    (stop : Stops image lost (.ofNat (first + passed))) :
    IsLeast (stops image lost first (first + count)) (first + passed) := by
  constructor
  · exact ⟨⟨Nat.le_add_right first passed, Nat.add_lt_add_left within first⟩, stop⟩
  · rintro s ⟨⟨low, -⟩, other⟩
    apply Nat.le_of_not_lt
    intro before
    exact clear s low before other

/-- A search gets as far as to the first sector to stop at, and tells which kind it is of. -/
theorem eq_of_isLeast {f : Nat} (h : Search image lost first count passed outcome)
    (least : IsLeast (stops image lost first (first + count)) f) :
    first + passed = f ∧ passed < count ∧
      (.ofNat f ∉ lost → outcome = .ok (some (.ofNat f))) ∧
      (.ofNat f ∈ lost → ∃ cause, outcome = .error (.readFailed (.ofNat f) cause)) := by
  cases h with
  | found within clear kept starts =>
    obtain rfl := (isLeast_stops within clear (.inr starts)).unique least
    exact ⟨rfl, within, fun _ => rfl, fun gone => absurd gone kept⟩
  | failed within clear gone =>
    obtain rfl := (isLeast_stops within clear (.inl gone)).unique least
    exact ⟨rfl, within, fun kept => absurd gone kept, fun _ => ⟨_, rfl⟩⟩
  | nowhere clear =>
    obtain ⟨⟨low, high⟩, stop⟩ := least.1
    exact absurd stop (clear f low high)

/-- Nothing is found if and only if there is no sector to stop at. -/
theorem eq_none_iff (h : Search image lost first count passed outcome) :
    outcome = .ok none ↔ stops image lost first (first + count) = ∅ := by
  rw [Set.eq_empty_iff_forall_notMem]
  cases h with
  | found within clear kept starts =>
    refine iff_of_false nofun ?_
    intro empty
    exact empty _ (isLeast_stops within clear (.inr starts)).1
  | failed within clear gone =>
    refine iff_of_false nofun ?_
    intro empty
    exact empty _ (isLeast_stops within clear (.inl gone)).1
  | nowhere clear =>
    refine iff_of_true rfl ?_
    rintro s ⟨⟨low, high⟩, stop⟩
    exact clear s low high stop

/-- A search that stops nowhere passes by all sectors. -/
theorem passed_eq (h : Search image lost first count passed outcome)
    (missed : outcome = .ok none) : passed = count := by
  cases h with
  | found => cases missed
  | failed => cases missed
  | nowhere => rfl

end Search

variable {π : Type} [Progress π]

/-- A sector is asked for, and it ends the search or is passed by. -/
theorem Patchy.ends_search (patchy : Patchy lun image lost ready) (count first : Nat)
    {buffer : List UInt8} {e : Engine (Recorded σ)} (p : π) (room : buffer.length = sectorSize)
    (begin : ready (.ofNat first) e.bare) :
    Ends (Firmware.search lun count (.ofNat first) buffer)
      (fun outcome t => ∃ passed calls, Recorded.Grew e.link calls t.1.link ∧
        Search image lost first count passed outcome ∧
        LinkCall.requests calls = (sectorsFrom first (min (passed + 1) count)).map
          (fun sector => some (firmwareSector lun sector)) ∧
        t.2 = Progress.hear (.replicate passed (.advance 1)) p) (e, p) := by
  have outside (s : Nat) (low : first ≤ s) (high : s < first + 0) : .ofNat s ∉ lost :=
    absurd low (Nat.not_le.mpr high)
  refine (Firmware.ends_search count (fun kept _ _ => patchy.readsNext e first buffer kept) room
    ⟨rfl, outside, begin, [], Recorded.transcript.refl e.link, rfl⟩ p).mono ?_
  rintro outcome ⟨u, _⟩ ⟨passed, unmarked, rfl, ended⟩
  have clear (same : passed = image.sectors first passed.length)
      (kept : ∀ s, first ≤ s → s < first + passed.length → .ofNat s ∉ lost) :
      ∀ s, first ≤ s → s < first + passed.length → ¬ Stops image lost (.ofNat s) := by
    rw [same, Image.unmarked_iff] at unmarked
    exact fun s low high => not_or.mpr ⟨kept s low high, unmarked s low high⟩
  rw [← Progress.hear_advance]
  cases ended with
  | found within marked holds =>
    obtain ⟨all, kept, -, calls, grown, requests⟩ := holds
    obtain ⟨same, rfl⟩ := image.concat_eq_sectors.mp all
    rw [List.length_append, List.length_singleton] at kept requests
    refine ⟨passed.length, calls, grown, ?_, by rw [Nat.min_eq_left within, requests], rfl⟩
    exact .found within (clear same fun s low high => kept s low (Nat.lt_succ_of_lt high))
      (kept _ (Nat.le_add_right first _) (Nat.lt_succ_self _)) (Image.starts_iff.mpr marked)
  | failed within holds =>
    obtain ⟨same, kept, gone, calls, grown, requests⟩ := holds
    exact ⟨passed.length, calls, grown, .failed within (clear same kept) gone,
      by rw [Nat.min_eq_left within, requests], rfl⟩
  | nowhere all holds =>
    obtain ⟨same, kept, -, calls, grown, requests⟩ := holds
    obtain rfl := all
    exact ⟨passed.length, calls, grown, .nowhere (clear same kept),
      by rw [Nat.min_eq_right (Nat.le_succ _), requests], rfl⟩

/-- Below the start there is nothing to look at. -/
theorem stops_add_sub (first limit : Nat) :
    stops image lost first (first + (limit - first)) = stops image lost first limit := by
  ext s
  simp only [stops, Set.mem_ofPred_eq, Set.mem_Ico]
  exact and_congr_left fun _ => by omega

/-- What comes of a search among the sectors from 8 on and below a limit, with the number of sectors
that were passed by and the calls of the search. -/
structure Sought (lun : UInt8) (image : Image) (lost : Set UInt32) (limit passed : Nat)
    (outcome : Except FirmwareError (Option UInt32)) (calls : List LinkCall) : Prop where
  /-- The first sector to stop at is the last that is asked for. It is found, unless it is lost. -/
  first : ∀ f, IsLeast (stops image lost 8 limit) f →
    LinkCall.requests calls =
      (sectorsFrom 8 (f + 1 - 8)).map (fun sector => some (firmwareSector lun sector)) ∧
    passed = f - 8 ∧
    (.ofNat f ∉ lost → outcome = .ok (some (.ofNat f))) ∧
    (.ofNat f ∈ lost → ∃ cause, outcome = .error (.readFailed (.ofNat f) cause))
  /-- If there is none all sectors are asked for. -/
  all : stops image lost 8 limit = ∅ →
    LinkCall.requests calls =
      (sectorsFrom 8 (limit - 8)).map (fun sector => some (firmwareSector lun sector)) ∧
    passed = limit - 8
  none_iff : outcome = .ok none ↔ stops image lost 8 limit = ∅
  passed_le : passed ≤ limit - 8

theorem Search.sought {limit passed : Nat} {outcome : Except FirmwareError (Option UInt32)}
    {calls : List LinkCall} (search : Search image lost 8 (limit - 8) passed outcome)
    (requests : LinkCall.requests calls = (sectorsFrom 8 (min (passed + 1) (limit - 8))).map
      (fun sector => some (firmwareSector lun sector))) :
    Sought lun image lost limit passed outcome calls := by
  have none_iff := search.eq_none_iff
  rw [stops_add_sub] at none_iff
  constructor
  · intro f least
    rw [← stops_add_sub] at least
    obtain ⟨rfl, within, kept, gone⟩ := search.eq_of_isLeast least
    refine ⟨?_, (Nat.add_sub_cancel_left 8 passed).symm, kept, gone⟩
    rw [requests, Nat.min_eq_left within, Nat.add_assoc, Nat.add_sub_cancel_left]
  · intro empty
    have all := search.passed_eq (none_iff.mpr empty)
    refine ⟨?_, all⟩
    rw [requests, all, Nat.min_eq_right (Nat.le_succ _)]
  · exact none_iff
  · exact search.passed_le

/-- The search for the second copy of the header reads the sectors from 8 on, up to the first below
the limit that is lost or starts like a header, and no others. It finds this sector, or fails for it
if it is lost; it finds nothing if and only if there is no such sector. The reporter is told how
many sectors there are, of each that was passed by, and, unless a read failed, of the end. -/
theorem Firmware.locateAlternate_finds_first {e : Engine (Recorded σ)}
    (patchy : Patchy lun image lost ready) (begin : ready searchStart e.bare) (limit : UInt32)
    (p : π) :
    Ends (locateAlternate lun limit)
      (fun outcome t => ∃ passed calls, Recorded.Grew e.link calls t.1.link ∧
        Sought lun image lost limit.toNat passed outcome calls ∧
        t.2 = Progress.hear (.start (limit.toNat - 8) :: (.replicate passed (.advance 1) ++
          if outcome.isOk then [.finish] else [])) p) (e, p) := by
  refine Ends.bind (Ends.onSide _ e p) ?_
  rintro _ _ rfl
  refine Ends.bind (patchy.ends_search (limit.toNat - 8) 8 _ length_blankSector begin) ?_
  rintro outcome ⟨u, q⟩ ⟨passed, calls, grown, search, requests, rfl⟩
  have sought := search.sought requests
  have heard (last : List ProgressCall) :
      Progress.hear (.start (limit.toNat - 8) :: (.replicate passed (.advance 1) ++ last)) p =
        Progress.hear last (Progress.hear (.replicate passed (.advance 1))
          (Progress.start (limit.toNat - 8) p)) := by
    rw [Progress.hear_cons, Progress.hear_append]
    rfl
  cases outcome with
  | error cause => exact Ends.pure_iff.mpr ⟨passed, calls, grown, sought, (heard []).symm⟩
  | ok located =>
    cases located with
    | none =>
      refine Ends.bind (Ends.onSide _ u _) ?_
      rintro _ _ rfl
      exact Ends.bind_lift
        (Ends.pure_iff.mpr ⟨passed, calls, grown, sought, (heard [.finish]).symm⟩)
    | some sector =>
      refine Ends.bind (Ends.onSide _ u _) ?_
      rintro _ _ rfl
      exact Ends.bind_lift
        (Ends.pure_iff.mpr ⟨passed, calls, grown, sought, (heard [.finish]).symm⟩)

end

/-- A player that cannot read one of its sectors has lost it. -/
theorem SimulatedPlayer.patchy_damaged (lun : UInt8) (bad : UInt32) (base : Nat)
    (octets : Array UInt8) (fill : UInt8) :
    Patchy lun (.ofRun base octets fill) {bad}
      (fun _ e => e.link = idle (RuleBook.damaged bad base octets fill)) where
  whole := by
    rintro ⟨_, tag⟩ sector rfl other
    exact ⟨_, rfl, answers_damaged lun (tag + 1) base octets fill fun same => other same.symm⟩
  fails := by
    rintro ⟨_, tag⟩ sector rfl rfl packet l answers
    have looks := answers.isStatus (declines_damaged lun sector (tag + 1) base octets fill)
    refine ⟨?_, looks⟩
    rw [looks.1]
    decide

/-- A player with the mark in sector 10 that cannot read sector 12. -/
def copiedPlayer : Recorded (SimulatedPlayer RuleBook) where
  link := .idle (.damaged 12 10 onlyMark 0)

theorem Firmware.locateAlternate_finds_first_copied :
    Ends (locateAlternate 0 65535)
      (fun outcome t => outcome = .ok (some 10) ∧
        t.2 = { total := some 65527, advanced := 2, finished := 1 } ∧
        ∃ calls, Recorded.Grew copiedPlayer calls t.1.link ∧
          LinkCall.requests calls = [some (firmwareSector 0 8), some (firmwareSector 0 9),
            some (firmwareSector 0 10)])
      ({ link := copiedPlayer }, ({} : Tally)) := by
  have patchy := SimulatedPlayer.patchy_damaged 0 12 10 onlyMark 0
  have copy : IsLeast (stops (.ofRun 10 onlyMark 0) {12} 8 (65535 : UInt32).toNat) 10 := by
    have starts : Image.Starts (.ofRun 10 onlyMark 0) 10 := by
      rw [Image.Starts, Image.toList_ofRun]
      decide
    have other (s : Nat) (low : 8 ≤ s) (high : s < 10) :
        ¬ Stops (.ofRun 10 onlyMark 0) {12} (.ofNat s) := by
      obtain rfl | rfl : s = 8 ∨ s = 9 := by omega
      all_goals
        rw [Stops, Image.Starts, Image.toList_ofRun]
        decide
    show IsLeast (stops _ _ 8 (8 + 65527)) (8 + 2)
    exact Search.isLeast_stops (by decide) other (.inr starts)
  have begin : copiedPlayer.link = .idle (.damaged 12 10 onlyMark 0) := rfl
  have search := locateAlternate_finds_first (e := { link := copiedPlayer }) patchy begin 65535
    ({} : Tally)
  refine search.mono ?_
  rintro outcome t ⟨passed, calls, grown, sought, heard⟩
  obtain ⟨requests, rfl, found, -⟩ := sought.first 10 copy
  obtain rfl := found (by decide)
  exact ⟨rfl, heard, calls, grown, requests⟩

end PlayerLink
