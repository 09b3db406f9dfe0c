import PlayerLink.Proofs.Container.Preservation
import PlayerLink.Proofs.Files.Stopping

/-!
# Calls that may fail, one after the other

A writer is opened and asked to append or to record entries, and is asked again after a call that
failed. `trials` keeps of every call what was asked, what it answered, and the writer before and
after it.

Such a call comes out in one of two ways, which `Tried` names. It is *spared* if it fails before the
directory is touched: the directory and everything in front of the data stay as they are. It
*turns* to the header once the entry has its slot, and then it puts down a first part of the new
header, the whole of it if the call succeeds.
-/

namespace PlayerLink

namespace ContainerWriter

open ContainerHeader Medium

/-- An entry that is to be filed, with its data or for data that are in place. -/
inductive Filing where
  | append (entry : ContainerEntry) (data : List UInt8)
  | record (entry : ContainerEntry)
  deriving DecidableEq, Repr

namespace Filing

/-- The entry as it is asked for, without its place. -/
def entry : Filing → ContainerEntry
  | append entry data =>
    { entry with
      length := UInt32.ofNat data.length
      checksum := Checksum.sum32 data }
  | record entry => entry

/-- Files the entry and gives its slot. -/
def perform : Filing → WriterM Nat
  | append entry data => ContainerWriter.append entry data
  | record entry => ContainerWriter.record entry

/-- The entry where the next data of a container go. -/
def placedIn (h : ContainerHeader) (filing : Filing) : ContainerEntry :=
  { filing.entry with offset := UInt32.ofNat h.nextOffset }

end Filing

/-- One call: what was asked and answered, and the writer on both sides of it. -/
structure Trial where
  filing : Filing
  before : ContainerWriter
  outcome : Except ContainerError Nat
  after : ContainerWriter

namespace Trial

/-- What was done to the medium. -/
def calls (t : Trial) : List MediumCall :=
  t.after.medium.calls.toList.drop t.before.medium.calls.size

/-- Whether the call set out to write the header. -/
def Turned (t : Trial) : Prop := .seek 0 ∈ t.calls

instance (t : Trial) : Decidable t.Turned := inferInstanceAs (Decidable (_ ∈ _))

/-- How many octets were put in front of the data. -/
def inFront (t : Trial) : Nat := octetsBefore size t.calls

/-- The entry with the place it was to get. -/
def filed (t : Trial) : ContainerEntry := t.filing.placedIn t.before.header

end Trial

/-- Files entries one after the other, whether they fail or not. -/
def trials : List Filing → StateT ContainerWriter LogM (List Trial)
  | [] => pure []
  | filing :: rest => do
    let before ← get
    let outcome ← filing.perform.run
    let after ← get
    let others ← trials rest
    pure ({ filing, before, outcome, after } :: others)

/-- Opens a container and files entries in it. There is no writer if it cannot be opened. -/
def tryAll (filings : List Filing) :
    StateT ContainerWriter LogM (Except ContainerError Unit × List Trial) := do
  match ← writeHeader.run with
  | .error e => pure (.error e, [])
  | .ok () => do
    let calls ← trials filings
    pure (.ok (), calls)

/-! ### What is done in front of the data -/

/-- Nothing is done in front of the data. -/
structure Spares (m m' : Medium) : Prop where
  limit : m'.limit = m.limit
  keeps : ∀ p < size, Keeps p m.content m'.content
  calls : ∃ new, m'.calls.toList = m.calls.toList ++ new ∧ .seek 0 ∉ new ∧
    octetsBefore size new = 0

/-- The first `k` octets of a header are put in front of the data, and nothing else is done
there. -/
structure Turns (h : ContainerHeader) (k : Nat) (m m' : Medium) : Prop where
  le : k ≤ size
  limit : m'.limit = m.limit
  front : m.limit = none → ∀ p < k, m'.content[p]? = h.toOctets[p]?
  keeps : m.limit = none → ∀ p, k ≤ p → p < size → Keeps p m.content m'.content
  calls : ∃ new, m'.calls.toList = m.calls.toList ++ new ∧ .seek 0 ∈ new ∧
    octetsBefore size new = k

variable {h : ContainerHeader} {k : Nat} {m m' m'' : Medium}

namespace Spares

theorem refl (m : Medium) : Spares m m where
  limit := rfl
  keeps p _ := .refl p m.content
  calls := ⟨[], by simp, by simp, rfl⟩

theorem trans (first : Spares m m') (second : Spares m' m'') : Spares m m'' where
  limit := second.limit.trans first.limit
  keeps p lt := (first.keeps p lt).trans (second.keeps p lt)
  calls := by
    obtain ⟨c, hc, stillC, noneC⟩ := first.calls
    obtain ⟨d, hd, stillD, noneD⟩ := second.calls
    refine ⟨c ++ d, by rw [hd, hc, List.append_assoc], ?_, ?_⟩
    · intro sought
      rcases List.mem_append.mp sought with sought | sought
      · exact stillC sought
      · exact stillD sought
    · rw [octetsBefore_append, noneC, noneD]

theorem turns (first : Spares m m') (second : Turns h k m' m'') : Turns h k m m'' where
  le := second.le
  limit := second.limit.trans first.limit
  front kept := second.front (first.limit.trans kept)
  keeps kept p le lt :=
    (first.keeps p lt).trans (second.keeps (first.limit.trans kept) p le lt)
  calls := by
    obtain ⟨c, hc, -, noneC⟩ := first.calls
    obtain ⟨d, hd, sought, count⟩ := second.calls
    refine ⟨c ++ d, by rw [hd, hc, List.append_assoc], List.mem_append_right c sought, ?_⟩
    rw [octetsBefore_append, noneC, count, Nat.zero_add]

theorem of_seek (m : Medium) {position : Nat} (behind : position ≠ 0) :
    Spares m (seek position m).2 where
  limit := by
    rw [seek]
    split <;> rfl
  keeps p _ := (puts_seek size [] position m).keeps p (by simp; omega)
  calls := by
    refine ⟨[.seek position], ?_, ?_, rfl⟩
    · rw [seek]
      split <;> simp
    · simpa using Ne.symm behind

theorem of_flush (m : Medium) : Spares m (flush m).2 where
  limit := by
    rw [flush]
    split <;> rfl
  keeps p _ := (puts_flush size [] m).keeps p (by simp; omega)
  calls := by
    refine ⟨[.flush], ?_, by simp, rfl⟩
    rw [flush]
    split <;> simp

/-- Data that go behind the header. -/
theorem of_writeAll (bs : List UInt8) (m : Medium) (behind : size ≤ m.position) :
    Spares m (writeAll bs m).2 := by
  obtain ⟨k, stops, -⟩ := exists_stops_writeAll bs m
  obtain ⟨new, hnew, at'⟩ := stops.calls
  refine ⟨stops.limit, fun p lt => ?_, new, hnew, at'.still 0, at'.behind size behind⟩
  exact (puts_writeAll bs m).keeps p (Or.inl (Nat.lt_of_lt_of_le lt behind))

theorem take_size (spares : Spares m m') (long : size ≤ m.content.length) :
    m'.content.take size = m.content.take size :=
  take_eq_of_keeps [] (Nat.zero_le size) long (fun p lt => absurd lt (Nat.not_lt_zero p))
    fun p _ lt => spares.keeps p lt

end Spares

namespace Turns

theorem spares (first : Turns h k m m') (second : Spares m' m'') : Turns h k m m'' where
  le := first.le
  limit := second.limit.trans first.limit
  front kept p lt := by
    have there := first.front kept p lt
    have le := first.le
    rcases second.keeps p (by omega) with same | ⟨none, -⟩
    · exact same.trans there
    · rw [there, List.getElem?_eq_none_iff, length_toOctets] at none
      omega
  keeps kept p le lt := (first.keeps kept p le lt).trans (second.keeps p lt)
  calls := by
    obtain ⟨c, hc, sought, count⟩ := first.calls
    obtain ⟨d, hd, -, noneD⟩ := second.calls
    refine ⟨c ++ d, by rw [hd, hc, List.append_assoc], List.mem_append_left d sought, ?_⟩
    rw [octetsBefore_append, count, noneD, Nat.add_zero]

theorem of_seek (h : ContainerHeader) (m : Medium) : Turns h 0 m (seek 0 m).2 where
  le := Nat.zero_le _
  limit := by
    rw [seek]
    split <;> rfl
  front _ p lt := absurd lt (Nat.not_lt_zero p)
  keeps _ p _ _ := (puts_seek size [] 0 m).keeps p (by simp; omega)
  calls := by
    refine ⟨[.seek 0], ?_, by simp, rfl⟩
    rw [seek]
    split <;> simp

/-- The header is written where the file starts. -/
theorem stops (first : Turns h 0 m m') (start : m'.position = 0)
    (second : Stops h.toOctets k m' m'') : Turns h k m m'' := by
  have le : k ≤ size := by
    have := second.le
    rwa [length_toOctets] at this
  have part : (h.toOctets.take k).length = k := by
    rw [List.length_take, length_toOctets, Nat.min_eq_left le]
  refine
    { le := le
      limit := second.limit.trans first.limit
      front := ?_
      keeps := ?_
      calls := ?_ }
  · intro kept p lt
    rw [second.content (first.limit.trans kept), start, putAt_zero,
      List.getElem?_append_left (by omega), List.getElem?_take_of_lt lt]
  · intro kept p from' lt
    refine (first.keeps kept p (Nat.zero_le p) lt).trans ?_
    rw [second.content (first.limit.trans kept), start]
    exact keeps_putAt (Or.inr (by omega))
  · obtain ⟨c, hc, sought, none⟩ := first.calls
    obtain ⟨d, hd, stopsAt⟩ := second.calls
    refine ⟨c ++ d, by rw [hd, hc, List.append_assoc], List.mem_append_left d sought, ?_⟩
    rw [octetsBefore_append, none, Nat.zero_add]
    exact stopsAt.front size (Nat.le_of_eq (by rw [start, length_toOctets, Nat.zero_add]))

/-- The front of a file that reaches behind the header: a part of the new header, and what is left
of what was there. -/
theorem take_size (turns : Turns h k m m') (kept : m.limit = none)
    (long : size ≤ m.content.length) :
    m'.content.take size = h.toOctets.take k ++ (m.content.take size).drop k := by
  have part : (h.toOctets.take k).length = k := by
    rw [List.length_take, length_toOctets, Nat.min_eq_left turns.le]
  have front : ∀ p < k, m'.content[p]? = (h.toOctets.take k)[p]? := by
    intro p lt
    rw [turns.front kept p lt, List.getElem?_take_of_lt lt]
  have joined : m'.content.take size =
      h.toOctets.take k ++ (m.content.take size).drop (h.toOctets.take k).length := by
    apply take_eq_of_keeps _ (by rw [part]; exact turns.le) long
    · rwa [part]
    · rw [part]
      exact turns.keeps kept
  rwa [part] at joined

end Turns

/-! ### One call -/

/-- The outcome of a call on the medium, as the container tells it. -/
theorem mapError_file_cases (x : Except FileError Unit) :
    x.mapError ContainerError.file = .ok () ∨
      ∃ cause, x.mapError ContainerError.file = .error (.file cause) := by
  cases x with
  | ok _ => exact Or.inl rfl
  | error cause => exact Or.inr ⟨cause, rfl⟩

theorem file_of_mapError {x : Except FileError Unit} {e : ContainerError}
    (failed : .error e = x.mapError ContainerError.file) : ∃ cause, e = .file cause := by
  cases x with
  | ok _ => cases failed
  | error cause =>
    cases failed
    exact ⟨cause, rfl⟩

/-- Writing the header puts down a first part of it, and all of it if it succeeds. -/
theorem ends_writeHeader_turns (w : ContainerWriter) :
    Ends writeHeader.run
      (fun r w' => w'.header = w.header ∧ ∃ k, Turns w.header k w.medium w'.medium ∧
        (r = .ok () ∧ k = size ∨ ∃ cause, r = .error (.file cause))) w := by
  have sought := Turns.of_seek w.header w.medium
  rw [writeHeader]
  refine Ends.bindExcept (gives_onMedium (Medium.seek 0) w) ?_ ?_
  · rintro _ u ⟨ok, rfl⟩
    have start := seek_position (mapError_eq_ok ok.symm)
    obtain ⟨k, stops, whole⟩ :=
      exists_stops_writeAll w.header.toOctets (Medium.seek 0 w.medium).2
    have wrote := sought.stops start stops
    refine Ends.bindExcept_get (Ends.bindExcept (gives_onMedium (Medium.writeAll _) _) ?_ ?_)
    · rintro _ v ⟨ok', rfl⟩
      refine (gives_onMedium Medium.flush _).ends ⟨rfl, k, wrote.spares (.of_flush _), ?_⟩
      have all : k = size := by rw [whole (mapError_eq_ok ok'.symm), length_toOctets]
      exact (mapError_file_cases _).imp (fun ok => ⟨ok, all⟩) id
    · rintro e v ⟨failed, rfl⟩
      obtain ⟨cause, rfl⟩ := file_of_mapError failed
      exact ⟨rfl, k, wrote, Or.inr ⟨cause, rfl⟩⟩
  · rintro e u ⟨failed, rfl⟩
    obtain ⟨cause, rfl⟩ := file_of_mapError failed
    exact ⟨rfl, 0, sought, Or.inr ⟨cause, rfl⟩⟩

/-- What a call to file an entry may do. -/
inductive Tried (filing : Filing) (w : ContainerWriter) :
    Except ContainerError Nat → ContainerWriter → Prop
  /-- It failed before the directory was touched. -/
  | spared {w' : ContainerWriter} (e : ContainerError) (header : w'.header = w.header)
      (spares : Spares w.medium w'.medium) : Tried filing w (.error e) w'
  /-- The entry has its slot, and the header was to be written. -/
  | turned {w' : ContainerWriter} {r : Except ContainerError Nat} (slot k : Nat)
      (free : w.header.freeSlot = some slot)
      (fits : w.header.nextOffset + filing.entry.length.toNat ≤ lastPlace)
      (header : w'.header = w.header.place slot (filing.placedIn w.header))
      (turns : Turns w'.header k w.medium w'.medium)
      (outcome : r = .ok slot ∧ k = size ∨ ∃ cause, r = .error (.file cause)) :
      Tried filing w r w'

namespace Tried

variable {filing : Filing} {w w' w'' : ContainerWriter} {r : Except ContainerError Nat}

theorem advance (tried : Tried filing w r w') : Advance w.header w'.header := by
  cases tried with
  | spared e header spares => exact header ▸ .stay
  | turned slot k free fits header turns outcome => exact header ▸ .place slot _ free rfl fits

/-- Nothing was done in front of the data before. -/
theorem after {filing' : Filing} (tried : Tried filing' w' r w'')
    (entry : filing'.entry = filing.entry) (header : w'.header = w.header)
    (spares : Spares w.medium w'.medium) : Tried filing w r w'' := by
  cases tried with
  | spared e header' spares' => exact .spared e (header'.trans header) (spares.trans spares')
  | turned slot k free fits header' turns outcome =>
    rw [header] at free
    rw [header, entry] at fits
    have same : filing'.placedIn w'.header = filing.placedIn w.header := by
      rw [Filing.placedIn, Filing.placedIn, entry, header]
    rw [same, header] at header'
    exact .turned slot k free fits header' (spares.turns turns) outcome

end Tried

theorem ends_record_tried (entry : ContainerEntry) (w : ContainerWriter) :
    Ends (record entry).run (Tried (.record entry) w) w := by
  have refused (e : ContainerError) :
      Ends (throw e : WriterM Nat).run (Tried (.record entry) w) w :=
    Ends.pure_iff.mpr (.spared e rfl (.refl w.medium))
  rw [record]
  refine Ends.bindExcept_get ?_
  cases free : w.header.freeSlot with
  | none => exact refused _
  | some slot =>
    by_cases large : w.header.nextOffset + entry.length.toNat > 0xFFFFFFFF
    · simp only [if_pos large]
      exact refused _
    · simp only [if_neg large]
      have fits : w.header.nextOffset + entry.length.toNat ≤ lastPlace := Nat.le_of_not_lt large
      refine Ends.bindExcept_set (Ends.bindExcept (ends_writeHeader_turns _) ?_ ?_)
      · rintro _ u ⟨header, k, turns, outcome⟩
        refine Ends.bindExcept_lift (Ends.pure_iff.mpr ?_)
        refine .turned slot k free fits header (header ▸ turns) ?_
        rcases outcome with ⟨-, whole⟩ | ⟨cause, failed⟩
        · exact Or.inl ⟨rfl, whole⟩
        · cases failed
      · rintro e u ⟨header, k, turns, outcome⟩
        refine .turned slot k free fits header (header ▸ turns) (Or.inr ?_)
        rcases outcome with ⟨ok, -⟩ | ⟨cause, failed⟩
        · cases ok
        · cases failed
          exact ⟨cause, rfl⟩

/-- The data go behind the header, so whatever becomes of them leaves the front as it is. -/
theorem ends_append_tried (entry : ContainerEntry) (data : List UInt8) (w : ContainerWriter)
    (placed : w.header.Placed) :
    Ends (append entry data).run (Tried (.append entry data) w) w := by
  have behind := placed.size_le_nextOffset
  have refused (e : ContainerError) :
      Ends (throw e : WriterM Nat).run (Tried (.append entry data) w) w :=
    Ends.pure_iff.mpr (.spared e rfl (.refl w.medium))
  rw [append]
  by_cases large : data.length > 0xFFFFFFFF
  · rw [if_pos large]
    exact refused _
  rw [if_neg large]
  refine Ends.bindExcept_get ?_
  by_cases full : w.header.freeSlot.isNone
  · rw [if_pos full]
    exact refused _
  rw [if_neg full]
  have sought : Spares w.medium (Medium.seek w.header.nextOffset w.medium).2 :=
    .of_seek w.medium (by rw [size] at behind; omega)
  refine Ends.bindExcept (Ends.bindExcept_get (gives_onMedium (Medium.seek _) w)) ?_ ?_
  · rintro _ u ⟨ok, rfl⟩
    have start := seek_position (mapError_eq_ok ok.symm)
    have wrote := sought.trans (.of_writeAll data _ (by rw [start]; exact behind))
    refine Ends.bindExcept (gives_onMedium (Medium.writeAll data) _) ?_ ?_
    · rintro _ v ⟨-, rfl⟩
      exact (ends_record_tried _ _).mono fun r w' tried => tried.after rfl rfl wrote
    · rintro e v ⟨-, rfl⟩
      exact .spared e rfl wrote
  · rintro e u ⟨-, rfl⟩
    exact .spared e rfl sought

theorem ends_perform (filing : Filing) (w : ContainerWriter) (placed : w.header.Placed) :
    Ends filing.perform.run (Tried filing w) w := by
  cases filing with
  | append entry data => exact ends_append_tried entry data w placed
  | record entry => exact ends_record_tried entry w

namespace Trial

variable {t : Trial} {k : Nat} {h : ContainerHeader}

theorem calls_eq {new : List MediumCall}
    (more : t.after.medium.calls.toList = t.before.medium.calls.toList ++ new) :
    t.calls = new := by
  rw [calls, more, List.drop_left' (by simp)]

/-- How a call came out can be told from what it did to the medium. -/
theorem of_spares (spares : Spares t.before.medium t.after.medium) :
    ¬ t.Turned ∧ t.inFront = 0 := by
  obtain ⟨new, more, still, none⟩ := spares.calls
  rw [Turned, inFront, calls_eq more]
  exact ⟨still, none⟩

theorem of_turns (turns : Turns h k t.before.medium t.after.medium) :
    t.Turned ∧ t.inFront = k := by
  obtain ⟨new, more, sought, count⟩ := turns.calls
  rw [Turned, inFront, calls_eq more]
  exact ⟨sought, count⟩

end Trial

/-- The two ways, as they are told apart in the record of a call. -/
theorem Tried.cases {t : Trial} (tried : Tried t.filing t.before t.outcome t.after) :
    (t.after.header = t.before.header ∧ (∃ e, t.outcome = .error e) ∧ ¬ t.Turned ∧
        Spares t.before.medium t.after.medium) ∨
      ∃ slot, t.before.header.freeSlot = some slot ∧
        t.after.header = t.before.header.place slot t.filed ∧ t.Turned ∧
        Turns t.after.header t.inFront t.before.medium t.after.medium ∧
        (t.outcome = .ok slot ∧ t.inFront = size ∨ ∃ cause, t.outcome = .error (.file cause)) := by
  generalize result : t.outcome = r at tried
  cases tried with
  | spared e header spares =>
    exact Or.inl ⟨header, ⟨e, rfl⟩, (Trial.of_spares spares).1, spares⟩
  | turned slot k free fits header turns outcome =>
    obtain ⟨turned, count⟩ := Trial.of_turns turns
    rw [count]
    exact Or.inr ⟨slot, free, header, turned, turns, outcome⟩

theorem Tried.inFront_le {t : Trial} (tried : Tried t.filing t.before t.outcome t.after) :
    t.inFront ≤ size := by
  rcases tried.cases with ⟨-, -, -, spares⟩ | ⟨slot, -, -, -, turns, -⟩
  · rw [(Trial.of_spares spares).2]
    exact Nat.zero_le size
  · exact turns.le

theorem Tried.limit {t : Trial} (tried : Tried t.filing t.before t.outcome t.after) :
    t.after.medium.limit = t.before.medium.limit := by
  rcases tried.cases with ⟨-, -, -, spares⟩ | ⟨slot, -, -, -, turns, -⟩
  · exact spares.limit
  · exact turns.limit

/-! ### Every call -/

/-- What holds of the calls so far and of the writer after them holds all along, if each call keeps
it. -/
theorem ends_trials {Asked : Filing → Prop} {Inv : List Trial → ContainerWriter → Prop}
    (step : ∀ (done : List Trial) (t : Trial), Asked t.filing → t.before.header.Placed →
      Inv done t.before → Tried t.filing t.before t.outcome t.after → Inv (done ++ [t]) t.after)
    (filings : List Filing) (asked : ∀ f ∈ filings, Asked f) (done : List Trial)
    (w : ContainerWriter) (placed : w.header.Placed) (holds : Inv done w) :
    Ends (trials filings)
      (fun ts _ => ts.map Trial.filing = filings ∧ ∀ (i : Nat) t, ts[i]? = some t →
        Asked t.filing ∧ Tried t.filing t.before t.outcome t.after ∧
        Inv (done ++ ts.take i) t.before ∧ Inv (done ++ ts.take (i + 1)) t.after) w := by
  induction filings generalizing done w with
  | nil => exact Ends.pure_iff.mpr ⟨rfl, by simp⟩
  | cons filing rest ih =>
    refine Ends.bind_get (Ends.bind (ends_perform filing w placed) ?_)
    intro outcome w' tried
    refine Ends.bind_get ?_
    have holds' := step done ⟨filing, w, outcome, w'⟩ (asked filing List.mem_cons_self) placed
      holds tried
    refine Ends.bind (ih (fun f hf => asked f (List.mem_cons_of_mem filing hf)) _ w'
      (tried.advance.placed placed) holds') ?_
    rintro others _ ⟨filed, later⟩
    refine Ends.pure_iff.mpr ⟨by rw [List.map_cons, filed], ?_⟩
    intro i t there
    cases i with
    | zero =>
      cases there
      exact ⟨asked filing List.mem_cons_self, tried, by simpa using holds, by simpa using holds'⟩
    | succ i =>
      obtain ⟨asked', tried', before, after⟩ := later i t there
      rw [List.append_assoc, List.singleton_append] at before after
      exact ⟨asked', tried', before, after⟩

/-- The same for a container that is opened first. -/
theorem ends_tryAll {Asked : Filing → Prop} {Inv : List Trial → ContainerWriter → Prop}
    {medium : Medium} {vendorId productId : UInt16}
    (step : ∀ (done : List Trial) (t : Trial), Asked t.filing → t.before.header.Placed →
      Inv done t.before → Tried t.filing t.before t.outcome t.after → Inv (done ++ [t]) t.after)
    (opened : ∀ w : ContainerWriter, w.header = .empty vendorId productId →
      Turns w.header size medium w.medium → Inv [] w)
    (filings : List Filing) (asked : ∀ f ∈ filings, Asked f) :
    Ends (tryAll filings)
      (fun run _ => (run.1 = .ok () → run.2.map Trial.filing = filings) ∧
        ∀ (i : Nat) t, run.2[i]? = some t →
          Asked t.filing ∧ Tried t.filing t.before t.outcome t.after ∧
          Inv (run.2.take i) t.before ∧ Inv (run.2.take (i + 1)) t.after)
      (on medium vendorId productId) := by
  refine Ends.bind (ends_writeHeader_turns _) ?_
  rintro outcome w ⟨header, k, turns, how⟩
  rcases how with ⟨rfl, rfl⟩ | ⟨cause, rfl⟩
  · have placed : w.header.Placed := by
      rw [header]
      exact placed_empty vendorId productId
    refine Ends.bind (ends_trials step filings asked [] w placed (opened w header ?_)) ?_
    · rw [header]
      exact turns
    · rintro ts _ ⟨filed, each⟩
      exact Ends.pure_iff.mpr ⟨fun _ => filed, each⟩
  · exact Ends.pure_iff.mpr ⟨nofun, by simp⟩

/-- What holds of a call in any state of the writer holds of every call of a run. -/
theorem ends_trials_each {holds : Trial → Prop}
    (call : ∀ filing w, Ends filing.perform.run (fun r w' => holds ⟨filing, w, r, w'⟩) w)
    (filings : List Filing) (w : ContainerWriter) :
    Ends (trials filings)
      (fun ts _ => ts.map Trial.filing = filings ∧ ∀ t ∈ ts, holds t) w := by
  induction filings generalizing w with
  | nil => exact Ends.pure_iff.mpr ⟨rfl, List.forall_mem_nil holds⟩
  | cons filing rest ih =>
    refine Ends.bind_get (Ends.bind (call filing w) ?_)
    intro outcome w' here
    refine Ends.bind_get (Ends.bind (ih w') ?_)
    rintro others _ ⟨filed, later⟩
    exact Ends.pure_iff.mpr
      ⟨congrArg (filing :: ·) filed, List.forall_mem_cons.mpr ⟨here, later⟩⟩

theorem ends_tryAll_each {holds : Trial → Prop}
    (call : ∀ filing w, Ends filing.perform.run (fun r w' => holds ⟨filing, w, r, w'⟩) w)
    (filings : List Filing) (w : ContainerWriter) :
    Ends (tryAll filings)
      (fun run _ => (run.1 = .ok () → run.2.map Trial.filing = filings) ∧
        ∀ t ∈ run.2, holds t) w := by
  refine Ends.bind (Ends.trivial writeHeader.run w) ?_
  rintro outcome u -
  cases outcome with
  | error e => exact Ends.pure_iff.mpr ⟨nofun, List.forall_mem_nil holds⟩
  | ok _ =>
    refine Ends.bind (ends_trials_each call filings u) ?_
    rintro ts _ ⟨filed, each⟩
    exact Ends.pure_iff.mpr ⟨fun _ => filed, each⟩

end ContainerWriter

end PlayerLink
