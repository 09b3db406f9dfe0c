import PlayerLink.Proofs.Container.Operations

/-!
# How a container grows

On a steady medium a writer that is opened on an empty file and appends parts one after the other
keeps the file complete: after every call it is the header followed by the data so far, and the
header lists the parts in the order in which they came.

`Holds` is the invariant between two calls. It says where the next data go and which slots are
blank, so it also tells which slot the next part gets.
-/

namespace PlayerLink

/-- An entry and its data. -/
abbrev Part := ContainerEntry × List UInt8

namespace Part

/-- The entry as it is recorded for data at a place. -/
def placedAt (offset : Nat) (p : Part) : ContainerEntry :=
  { p.1 with
    offset := UInt32.ofNat offset
    length := UInt32.ofNat p.2.length
    checksum := Checksum.sum32 p.2 }

/-- How many octets of data parts have. -/
def total (parts : List Part) : Nat := totalOf (fun p => p.2.length) parts

/-- The data of parts, one behind the other. -/
def payload (parts : List Part) : List UInt8 := (parts.map Prod.snd).flatten

/-- The entries of parts whose data stand one behind the other from a place on. -/
def filed (offset : Nat) : List Part → List ContainerEntry
  | [] => []
  | p :: rest => p.placedAt offset :: filed (offset + p.2.length) rest

@[simp] theorem length_filed (offset : Nat) (parts : List Part) :
    (filed offset parts).length = parts.length := by
  induction parts generalizing offset with
  | nil => rfl
  | cons p rest ih => simp [filed, ih]

theorem length_payload (parts : List Part) : (payload parts).length = total parts := by
  induction parts with
  | nil => rfl
  | cons p rest ih => simpa [payload, total, totalOf] using ih

@[simp] theorem total_append (parts : List Part) (p : Part) :
    total (parts ++ [p]) = total parts + p.2.length :=
  totalOf_append _ parts [p]

@[simp] theorem payload_append (parts : List Part) (p : Part) :
    payload (parts ++ [p]) = payload parts ++ p.2 := by
  simp [payload]

theorem filed_append (offset : Nat) (parts : List Part) (p : Part) :
    filed offset (parts ++ [p]) = filed offset parts ++ [p.placedAt (offset + total parts)] := by
  induction parts generalizing offset with
  | nil => rfl
  | cons q rest ih =>
    have shift : offset + q.2.length + total rest = offset + total (q :: rest) := by
      simp [total, totalOf, Nat.add_assoc]
    rw [List.cons_append, filed, ih, shift]
    rfl

/-- Each entry starts where the data of the earlier ones end. -/
theorem getElem?_filed (offset : Nat) (parts : List Part) (j : Nat) :
    (filed offset parts)[j]? =
      (parts[j]?).map fun p => p.placedAt (offset + total (parts.take j)) := by
  induction parts generalizing offset j with
  | nil => rfl
  | cons q rest ih =>
    cases j with
    | zero => rfl
    | succ j =>
      have shift : offset + q.2.length + total (rest.take j) =
          offset + total ((q :: rest).take (j + 1)) := by
        simp [total, totalOf, Nat.add_assoc]
      rw [filed, List.getElem?_cons_succ, List.getElem?_cons_succ, ih, shift]

theorem total_take_le (parts : List Part) (j : Nat) {p : Part} (there : parts[j]? = some p) :
    total (parts.take j) + p.2.length ≤ total parts := by
  induction parts generalizing j with
  | nil => cases there
  | cons q rest ih =>
    cases j with
    | zero =>
      cases there
      simp [total, totalOf]
    | succ j =>
      have := ih j there
      simp only [total, List.take_succ_cons, totalOf] at this ⊢
      omega

/-- The data of a part among those of all parts. -/
theorem payload_eq {parts : List Part} {j : Nat} {p : Part} (there : parts[j]? = some p) :
    payload parts = payload (parts.take j) ++ (p.2 ++ payload (parts.drop (j + 1))) := by
  obtain ⟨lt, rfl⟩ := List.getElem?_eq_some_iff.mp there
  have split : parts = parts.take j ++ (parts[j] :: parts.drop (j + 1)) := by
    rw [List.getElem_cons_drop, List.take_append_drop]
  refine (congrArg payload split).trans ?_
  simp only [payload, List.map_append, List.map_cons, List.flatten_append, List.flatten_cons]

theorem isUsed_filed {offset : Nat} {parts : List Part} (used : ∀ p ∈ parts, p.1.IsUsed) :
    ∀ e ∈ filed offset parts, e.IsUsed := by
  intro e he
  obtain ⟨j, hj⟩ := List.mem_iff_getElem?.mp he
  rw [getElem?_filed] at hj
  obtain ⟨p, hp, rfl⟩ := Option.map_eq_some_iff.mp hj
  exact used p (List.mem_of_getElem? hp)

end Part

namespace ContainerWriter

open ContainerHeader Medium PlayerLink.Part

/-- A container that holds exactly the given parts, and a medium on which it goes well. -/
structure Holds (vendorId productId : UInt16) (parts : List Part) (w : ContainerWriter) : Prop where
  steady : w.medium.Steady
  content : w.medium.content = w.header.toOctets ++ payload parts
  magic : w.header.magic = .ofList 4 mark
  vendor : w.header.vendorId = vendorId
  product : w.header.productId = productId
  sum : w.header.SumOk
  used : ∀ p ∈ parts, p.1.IsUsed
  entries : w.header.entries.toList =
    filed size parts ++ .replicate (containerSlots - parts.length) .blank
  next : w.header.nextOffset = size + total parts

variable {vendorId productId : UInt16} {parts : List Part} {w : ContainerWriter}

namespace Holds

/-- The next part gets the slot behind those of the parts so far. -/
theorem freeSlot (h : Holds vendorId productId parts w) (room : parts.length < containerSlots) :
    w.header.freeSlot = some parts.length := by
  have blanks : List.replicate (containerSlots - parts.length) ContainerEntry.blank ≠ [] := by
    rw [ne_eq, List.replicate_eq_nil_iff]
    omega
  rw [freeSlot_eq_of_filled h.entries (isUsed_filed h.used) (unused_blanks _), if_neg blanks,
    length_filed]

theorem freeSlot_eq_none (h : Holds vendorId productId parts w)
    (full : containerSlots ≤ parts.length) : w.header.freeSlot = none := by
  rw [freeSlot_eq_of_filled h.entries (isUsed_filed h.used) (unused_blanks _),
    Nat.sub_eq_zero_of_le full, List.replicate_zero, if_pos rfl]

theorem used_eq (h : Holds vendorId productId parts w) : w.header.used = filed size parts :=
  used_eq_of_filled h.entries (isUsed_filed h.used) (unused_blanks _)

theorem length_content (h : Holds vendorId productId parts w) :
    w.medium.content.length = w.header.nextOffset := by
  rw [h.content, List.length_append, length_toOctets, length_payload, h.next]

/-- What stands in the file is the container in memory. -/
theorem ofOctets (h : Holds vendorId productId parts w) :
    ContainerHeader.ofOctets w.medium.content = .ok w.header := by
  rw [h.content]
  refine ofOctets_append ?_ (payload parts)
  rw [h.magic]
  rfl

end Holds

/-! ### Writing on a steady medium -/

theorem gives_writeHeader (h : w.medium.Steady) :
    ∃ m, Gives writeHeader.run w (.ok ()) { w with medium := m } ∧ m.Steady ∧
      m.content = putAt 0 w.header.toOctets w.medium.content := by
  obtain ⟨m₁, sought, steady₁, content₁, position₁⟩ := seek_of_steady h 0
  obtain ⟨m₂, wrote, took⟩ := writeAll_of_steady steady₁ w.header.toOctets
  obtain ⟨m₃, flushed, steady₃, content₃, -⟩ := flush_of_steady took.steady
  refine ⟨m₃, ?_, steady₃, by rw [content₃, took.content, position₁, content₁]⟩
  have first := gives_onMedium (Medium.seek 0) w
  rw [sought] at first
  have second := gives_onMedium (Medium.writeAll w.header.toOctets) { w with medium := m₁ }
  rw [wrote] at second
  have third := gives_onMedium Medium.flush { w with medium := m₂ }
  rw [flushed] at third
  exact Gives.bindOk first (Ends.bindExcept_get (Gives.bindOk second third))

/-- Writing data where the next ones go. -/
theorem gives_putData (h : w.medium.Steady) (data : List UInt8) :
    ∃ m₁ m₂, Gives seekData.run w (.ok ()) { w with medium := m₁ } ∧
      Gives (writeData data).run { w with medium := m₁ } (.ok ()) { w with medium := m₂ } ∧
      m₂.Steady ∧ m₂.content = putAt w.header.nextOffset data w.medium.content := by
  obtain ⟨m₁, sought, steady₁, content₁, position₁⟩ := seek_of_steady h w.header.nextOffset
  obtain ⟨m₂, wrote, took⟩ := writeAll_of_steady steady₁ data
  refine ⟨m₁, m₂, ?_, ?_, took.steady, by rw [took.content, position₁, content₁]⟩
  · have first := gives_onMedium (Medium.seek w.header.nextOffset) w
    rw [sought] at first
    exact Ends.bindExcept_get first
  · have second := gives_onMedium (Medium.writeAll data) { w with medium := m₁ }
    rw [wrote] at second
    exact second

theorem gives_record (h : w.medium.Steady) (entry : ContainerEntry) {slot : Nat}
    (free : w.header.freeSlot = some slot)
    (fits : w.header.nextOffset + entry.length.toNat ≤ lastPlace) :
    ∃ w', Gives (record entry).run w (.ok slot) w' ∧
      w'.header = w.header.place slot
        { entry with offset := UInt32.ofNat w.header.nextOffset } ∧
      w'.medium.Steady ∧
      w'.medium.content = putAt 0 w'.header.toOctets w.medium.content := by
  obtain ⟨m, wrote, steady, content⟩ :=
    gives_writeHeader (w := ⟨w.medium, w.header.place slot
      { entry with offset := UInt32.ofNat w.header.nextOffset }⟩) h
  refine ⟨⟨m, _⟩, ?_, rfl, steady, content⟩
  have small : ¬ w.header.nextOffset + entry.length.toNat > 0xFFFFFFFF := Nat.not_lt.mpr fits
  rw [record]
  refine Ends.bindExcept_get ?_
  simp only [free, if_neg small]
  refine Ends.bindExcept_set (Gives.bindOk wrote (Ends.bindExcept_lift ?_))
  exact Gives.pure _ _

/-! ### Appending -/

/-- A part was appended in a slot: its data are where the next ones go, and the header in front of
them lists it. -/
structure Appended (slot : Nat) (p : Part) (w w' : ContainerWriter) : Prop where
  header : w'.header = w.header.place slot (p.placedAt w.header.nextOffset)
  steady : w'.medium.Steady
  content : w'.medium.content =
    putAt 0 w'.header.toOctets (putAt w.header.nextOffset p.2 w.medium.content)

theorem toNat_length_of_fits {place length : Nat} (fits : place + length ≤ lastPlace) :
    (UInt32.ofNat length).toNat = length := by
  rw [UInt32.toNat_ofNat', Nat.mod_eq_of_lt]
  rw [lastPlace] at fits
  omega

/-- Once the data are in place, their record completes the part. -/
theorem gives_record_part {mid : ContainerWriter} {p : Part} {slot : Nat}
    (header : mid.header = w.header) (steady : mid.medium.Steady)
    (content : mid.medium.content = putAt w.header.nextOffset p.2 w.medium.content)
    (free : w.header.freeSlot = some slot)
    (fits : w.header.nextOffset + p.2.length ≤ lastPlace) :
    ∃ w', Gives (record { p.1 with
          length := UInt32.ofNat p.2.length
          checksum := Checksum.sum32 p.2 }).run mid (.ok slot) w' ∧ Appended slot p w w' := by
  rw [← header] at free
  obtain ⟨w', recorded, header', steady', content'⟩ := gives_record steady
    { p.1 with length := UInt32.ofNat p.2.length, checksum := Checksum.sum32 p.2 } free
    (by rw [header, toNat_length_of_fits fits]; exact fits)
  rw [header] at header'
  exact ⟨w', recorded, header', steady', by rw [content', content]⟩

theorem gives_append (h : w.medium.Steady) (p : Part) {slot : Nat}
    (free : w.header.freeSlot = some slot)
    (fits : w.header.nextOffset + p.2.length ≤ lastPlace) :
    ∃ w', Gives (append p.1 p.2).run w (.ok slot) w' ∧ Appended slot p w w' := by
  have small : ¬ p.2.length > 0xFFFFFFFF := by
    rw [lastPlace] at fits
    omega
  obtain ⟨m₁, m₂, sought, wrote, steady, content⟩ := gives_putData h p.2
  obtain ⟨w', recorded, appended⟩ :=
    @gives_record_part w { w with medium := m₂ } p slot rfl steady content free fits
  refine ⟨w', ?_, appended⟩
  rw [ContainerWriter.append, if_neg small]
  refine Ends.bindExcept_get ?_
  simp only [free, Option.isNone_some, Bool.false_eq_true, if_false]
  exact Gives.bindOk sought (Gives.bindOk wrote recorded)

/-- The step: a part that finds a slot and fits is held with the others. -/
theorem Holds.append (h : Holds vendorId productId parts w) {p : Part} (used : p.1.IsUsed)
    (room : parts.length < containerSlots) (fits : size + total parts + p.2.length ≤ lastPlace) :
    Ends (append p.1 p.2).run
      (fun outcome w' => outcome = .ok parts.length ∧ Holds vendorId productId (parts ++ [p]) w')
      w := by
  have free := h.freeSlot room
  obtain ⟨w', appended, header, steady, content⟩ := gives_append h.steady p free
    (by rw [h.next]; exact fits)
  rw [h.next] at header
  refine appended.ends ⟨rfl, ?_⟩
  have length : (UInt32.ofNat p.2.length).toNat = p.2.length := toNat_length_of_fits fits
  have offset : (p.placedAt (size + total parts)).offset.toNat = size + total parts := by
    rw [placedAt, UInt32.toNat_ofNat', Nat.mod_eq_of_lt]
    rw [lastPlace] at fits
    omega
  have usedAt : (p.placedAt (size + total parts)).IsUsed := used
  have finish : (p.placedAt (size + total parts)).endOffset = size + total (parts ++ [p]) := by
    rw [ContainerEntry.endOffset, offset, total_append, ← Nat.add_assoc]
    exact congrArg _ length
  refine
    { steady := steady
      content := ?_
      magic := header ▸ h.magic
      vendor := header ▸ h.vendor
      product := header ▸ h.product
      sum := header ▸ sumOk_place
      used := ?_
      entries := ?_
      next := ?_ }
  · -- The data go to the end of the file, and the header takes the place of the one before.
    rw [content, ← h.length_content, putAt_length, putAt_zero, length_toOctets, h.content,
      List.append_assoc, List.drop_left' (length_toOctets _), payload_append]
  · intro q hq
    rcases List.mem_append.mp hq with hq | hq
    · exact h.used q hq
    · rw [List.mem_singleton.mp hq]
      exact used
  · obtain ⟨n, hn⟩ : ∃ n, containerSlots - parts.length = n + 1 :=
      ⟨containerSlots - parts.length - 1, by omega⟩
    have rest : containerSlots - (parts ++ [p]).length = n := by simp; omega
    rw [header, toList_place, h.entries, hn, rest, List.set_append_right _ _ (by simp),
      length_filed,
      Nat.sub_self, List.replicate_succ, List.set_cons_zero, filed_append, List.append_assoc]
    rfl
  · rw [header]
    refine (nextOffset_place free usedAt ?_).trans finish
    rw [finish, h.next, total_append]
    omega

/-- The writer right after it was opened. -/
theorem holds_opened {medium : Medium} (empty : medium.content = []) (steady : medium.Steady) :
    Ends writeHeader.run (fun outcome w => outcome = .ok () ∧ Holds vendorId productId [] w)
      (on medium vendorId productId) := by
  obtain ⟨m, wrote, steady', content⟩ :=
    gives_writeHeader (w := on medium vendorId productId) steady
  refine wrote.ends ⟨rfl, ?_⟩
  have next := nextOffset_of_used_eq_nil (used_empty vendorId productId)
  refine
    { steady := steady'
      content := ?_
      magic := rfl
      vendor := rfl
      product := rfl
      sum := sumOk_empty vendorId productId
      used := by simp
      entries := by simp [on, ContainerHeader.empty, repaired, filed]
      next := next }
  rw [content]
  change putAt 0 _ medium.content = _
  rw [empty, putAt_zero]
  simp [payload, on]

/-- A part that finds no slot or does not fit is refused. -/
theorem Holds.append_refused (h : Holds vendorId productId parts w) (p : Part)
    (refused : containerSlots ≤ parts.length ∨ lastPlace < size + total parts + p.2.length) :
    Ends (ContainerWriter.append p.1 p.2).run (fun outcome _ => ∃ e, outcome = .error e) w := by
  rw [ContainerWriter.append]
  by_cases large : p.2.length > 0xFFFFFFFF
  · rw [if_pos large]
    exact Ends.pure_iff.mpr ⟨_, rfl⟩
  rw [if_neg large]
  refine Ends.bindExcept_get ?_
  by_cases full : containerSlots ≤ parts.length
  · simp only [h.freeSlot_eq_none full, Option.isNone_none, if_true]
    exact Ends.pure_iff.mpr ⟨_, rfl⟩
  have free := h.freeSlot (Nat.not_le.mp full)
  obtain ⟨m₁, m₂, sought, wrote, -, -⟩ := gives_putData h.steady p.2
  simp only [free, Option.isNone_some, Bool.false_eq_true, if_false]
  refine Gives.bindOk sought (Gives.bindOk wrote ?_)
  have length : (UInt32.ofNat p.2.length).toNat = p.2.length := by
    rw [UInt32.toNat_ofNat', Nat.mod_eq_of_lt (by omega)]
  have past : w.header.nextOffset + (UInt32.ofNat p.2.length).toNat > 0xFFFFFFFF := by
    have behind := refused.resolve_left full
    rw [length, h.next]
    exact behind
  rw [record]
  refine Ends.bindExcept_get ?_
  simp only [free, if_pos past]
  exact Ends.pure_iff.mpr ⟨_, rfl⟩

theorem Holds.finish (h : Holds vendorId productId parts w) :
    Ends finish.run (fun outcome w' => outcome = .ok () ∧ Holds vendorId productId parts w') w := by
  obtain ⟨m, flushed, steady, content, -⟩ := flush_of_steady h.steady
  have call := gives_onMedium Medium.flush w
  rw [flushed] at call
  refine call.ends ⟨rfl, ?_⟩
  exact
    { h with
      steady := steady
      content := content.trans h.content }

/-! ### Every call of a run -/

/-- Appends parts one after the other. The outcome of every call is kept, and what the writer was
after it. -/
def history : List Part → StateT ContainerWriter LogM
    (List (Except ContainerError Nat × ContainerWriter))
  | [] => pure []
  | p :: rest => do
    let outcome ← (append p.1 p.2).run
    let after ← get
    let others ← history rest
    pure ((outcome, after) :: others)

/-- Opens a container and appends parts to it. -/
def fill (parts : List Part) : StateT ContainerWriter LogM
    (Except ContainerError Unit × List (Except ContainerError Nat × ContainerWriter)) := do
  let opened ← writeHeader.run
  let calls ← history parts
  pure (opened, calls)

/-- A file that is the container in memory, and a container that holds the given parts. -/
structure Stores (vendorId productId : UInt16) (parts : List Part) (w : ContainerWriter) :
    Prop where
  content : w.medium.content = w.header.toOctets ++ (parts.map Prod.snd).flatten
  parsed : ContainerHeader.ofOctets w.medium.content = .ok w.header
  sum : w.header.SumOk
  vendor : w.header.vendorId = vendorId
  product : w.header.productId = productId
  slot : ∀ (j : Nat) (entry : ContainerEntry) (data : List UInt8), parts[j]? = some (entry, data) →
    ∃ f, w.header.entries[j]? = some f ∧
      f.filename = entry.filename ∧ f.kind = entry.kind ∧ f.address = entry.address ∧
      f.offset.toNat = size + total (parts.take j) ∧
      f.length.toNat = data.length ∧ f.checksum = Checksum.sum32 data
  unused : ∀ j, parts.length ≤ j → j < containerSlots → ∃ f, w.header.entries[j]? = some f ∧
    ¬ f.IsUsed ∧ ContainerEntry.layout.encode f = List.replicate ContainerEntry.layout.size 0

theorem Holds.stores (h : Holds vendorId productId parts w)
    (fits : size + total parts ≤ lastPlace) : Stores vendorId productId parts w where
  content := h.content
  parsed := h.ofOctets
  sum := h.sum
  vendor := h.vendor
  product := h.product
  slot j entry data there := by
    have reach := total_take_le parts j there
    have start : (UInt32.ofNat (size + total (parts.take j))).toNat =
        size + total (parts.take j) := by
      rw [UInt32.toNat_ofNat', Nat.mod_eq_of_lt]
      rw [lastPlace] at fits
      omega
    have length : (UInt32.ofNat data.length).toNat = data.length := by
      rw [UInt32.toNat_ofNat', Nat.mod_eq_of_lt]
      rw [lastPlace] at fits
      simp only at reach
      omega
    refine ⟨placedAt (size + total (parts.take j)) (entry, data), ?_, rfl, rfl, rfl, start, length,
      rfl⟩
    have lt : j < (filed size parts).length := by
      rw [length_filed]
      exact (List.getElem?_eq_some_iff.mp there).1
    rw [← Vector.getElem?_toList, h.entries, List.getElem?_append_left lt, getElem?_filed, there]
    rfl
  unused j behind lt := by
    refine ⟨.blank, ?_, not_isUsed_blank, by decide⟩
    rw [← Vector.getElem?_toList, h.entries, List.getElem?_append_right (by simpa using behind),
      length_filed, List.getElem?_replicate, if_pos (by omega)]

/-- The run: what holds before it holds after each of its calls, with the parts so far. -/
theorem Holds.history {done : List Part} (rest : List Part) (h : Holds vendorId productId done w)
    (used : ∀ p ∈ rest, p.1.IsUsed) (room : done.length + rest.length ≤ containerSlots)
    (fits : size + total done + total rest ≤ lastPlace) :
    Ends (history rest)
      (fun calls _ => calls.length = rest.length ∧ ∀ (i : Nat) outcome w',
        calls[i]? = some (outcome, w') → outcome = .ok (done.length + i) ∧
          Holds vendorId productId (done ++ rest.take (i + 1)) w') w := by
  induction rest generalizing done w with
  | nil => exact Ends.pure_iff.mpr ⟨rfl, by simp⟩
  | cons p rest ih =>
    have split : total (p :: rest) = p.2.length + total rest := rfl
    rw [List.length_cons] at room
    refine Ends.bind (h.append (used p List.mem_cons_self) (by omega) (by omega)) ?_
    rintro outcome u ⟨ok, held⟩
    refine Ends.bind_get (Ends.bind (ih held (fun q hq => used q (List.mem_cons_of_mem p hq))
      (by simp; omega) (by rw [total_append]; omega)) ?_)
    rintro others v ⟨count, later⟩
    refine Ends.pure_iff.mpr ⟨by simp [count], fun i outcome' w' hi => ?_⟩
    cases i with
    | zero =>
      cases hi
      exact ⟨ok, held⟩
    | succ i =>
      obtain ⟨ok', held'⟩ := later i outcome' w' hi
      refine ⟨by rw [ok', List.length_append]; congr 1; simp; omega, ?_⟩
      rwa [List.append_assoc] at held'

/-- A run in which every part got the slot of its number, and after each call of which the file
stores the parts so far. -/
structure Complete (vendorId productId : UInt16) (parts : List Part)
    (run : Except ContainerError Unit × List (Except ContainerError Nat × ContainerWriter)) :
    Prop where
  opened : run.1 = .ok ()
  count : run.2.length = parts.length
  each : ∀ (i : Nat) outcome w, run.2[i]? = some (outcome, w) →
    outcome = .ok i ∧ Stores vendorId productId (parts.take (i + 1)) w

/-- On an empty file, with a medium on which nothing fails for good: opening succeeds, every part
gets the slot of its number, and after each call the file is the header followed by the data so
far, a container that can be read back and lists the parts so far and nothing else. -/
theorem fill_complete (medium : Medium) (vendorId productId : UInt16) (parts : List Part)
    (empty : medium.content = []) (steady : medium.Steady)
    (room : parts.length ≤ containerSlots) (used : ∀ p ∈ parts, p.1.IsUsed)
    (fits : size + total parts ≤ lastPlace) :
    Ends (fill parts) (fun run _ => Complete vendorId productId parts run)
      (on medium vendorId productId) := by
  refine Ends.bind (holds_opened empty steady) ?_
  rintro opened u ⟨ok, held⟩
  have none : total [] = 0 := rfl
  refine Ends.bind (held.history parts used (by simpa using room) (by rw [none]; exact fits)) ?_
  rintro calls v ⟨count, each⟩
  refine Ends.pure_iff.mpr ⟨ok, count, fun i outcome w hi => ?_⟩
  obtain ⟨ok', held'⟩ := each i outcome w hi
  refine ⟨by simpa using ok', held'.stores ?_⟩
  have lt : i < parts.length := count ▸ (List.getElem?_eq_some_iff.mp hi).1
  have part := total_take_le parts i (List.getElem?_eq_getElem lt)
  rw [List.nil_append, ← List.take_append_getElem lt, total_append]
  exact Nat.le_trans (Nat.add_le_add_left part size) fits

/-- Two parts, on a medium that is interrupted and takes little at a time. -/
theorem fill_complete_short_writes :
    Ends
      (fill [(.unplaced (.ofList 11 [0x46, 0x57]) 0x49 0x8000, [1, 2, 3, 4, 5]),
        (.unplaced (.ofList 11 [0x55]) 0x53 0, [])])
      (fun run _ => Complete 0x10D6 0x1100
        [(.unplaced (.ofList 11 [0x46, 0x57]) 0x49 0x8000, [1, 2, 3, 4, 5]),
          (.unplaced (.ofList 11 [0x55]) 0x53 0, [])] run)
      (on { writes := [.fail .interrupted, .upTo 7, .all, .upTo 1, .fail .interrupted, .upTo 2] }
        0x10D6 0x1100) :=
  fill_complete _ _ _ _ rfl ⟨by simp, by simp [WriteStep.IsSteady], by simp, rfl⟩ (by decide)
    (by decide) (by simp [total, totalOf, size, lastPlace])

end ContainerWriter

end PlayerLink
