import PlayerLink.Proofs.Container.Trials

/-!
# What a given slot is worth

A call that gives a slot has filed its entry there: the directory lists it behind the entries before
it, its data are where the next ones were to go, and the next ones go right behind them. Whatever is
asked later, the slot is given to no other entry, and no data are placed in the range of these.

All of this is said of entries that count as used. Whether a slot is taken is told from the name in
it, so an entry whose name starts with a zero is given a slot and leaves it free: nothing is listed,
and the next entry gets the same slot and puts its data over the data of this one.
-/

namespace PlayerLink

namespace ContainerWriter

open ContainerHeader Medium

/-- Files one entry and keeps what was asked and answered. -/
def attempt (filing : Filing) : StateT ContainerWriter LogM Trial := do
  let before ← get
  let outcome ← filing.perform.run
  let after ← get
  pure { filing, before, outcome, after }

namespace Trial

/-- The entry stands in its slot and is listed, at the place of the next data, and the next data go
right behind its own. -/
structure Entered (slot : Nat) (t : Trial) : Prop where
  there : t.after.header.entries.toList[slot]? = some t.filed
  listed : t.after.header.used = t.before.header.used ++ [t.filed]
  start : t.filed.offset.toNat = t.before.header.nextOffset
  next : t.after.header.nextOffset = t.filed.endOffset

/-- The entry is not listed, and the next one gets its slot and its place. -/
structure LeftOut (slot : Nat) (t : Trial) : Prop where
  listed : t.after.header.used = t.before.header.used
  free : t.after.header.freeSlot = some slot
  next : t.after.header.nextOffset = t.before.header.nextOffset

/-- A later call leaves the slot and the range of the entry alone. -/
structure Respected (slot : Nat) (t later : Trial) : Prop where
  slot : later.outcome ≠ .ok slot
  range : t.filed.endOffset ≤ later.filed.offset.toNat

end Trial

variable {t u : Trial} {slot : Nat}

/-! ### One call -/

/-- A call gives the first free slot, and its entry is placed there. -/
theorem Tried.of_ok (tried : Tried t.filing t.before t.outcome t.after) (ok : t.outcome = .ok slot) :
    t.before.header.freeSlot = some slot ∧
      t.before.header.nextOffset + t.filing.entry.length.toNat ≤ lastPlace ∧
      t.after.header = t.before.header.place slot t.filed := by
  generalize t.outcome = r at tried ok
  cases tried with
  | spared e header spares => cases ok
  | turned given k free fits header turns outcome =>
    rcases outcome with ⟨rfl, -⟩ | ⟨cause, rfl⟩
    · cases ok
      exact ⟨free, fits, header⟩
    · cases ok

/-- Entries are placed where the next data go. -/
theorem Trial.toNat_offset_filed (placed : t.before.header.Placed) :
    t.filed.offset.toNat = t.before.header.nextOffset :=
  placed.toNat_nextOffset

theorem Tried.entered (tried : Tried t.filing t.before t.outcome t.after)
    (placed : t.before.header.Placed) (compact : t.before.header.Compact)
    (ok : t.outcome = .ok slot) (used : t.filing.entry.IsUsed) : t.Entered slot := by
  obtain ⟨free, -, header⟩ := tried.of_ok ok
  have start := Trial.toNat_offset_filed placed
  have usedThere : t.filed.IsUsed := used
  refine
    { there := by rw [header, getElem?_place free, if_pos rfl]
      listed := by rw [header, (compact.place free usedThere).1]
      start
      next := ?_ }
  rw [header, nextOffset_place free usedThere]
  rw [ContainerEntry.endOffset, start]
  exact Nat.le_add_right _ _

theorem Tried.leftOut (tried : Tried t.filing t.before t.outcome t.after)
    (compact : t.before.header.Compact) (ok : t.outcome = .ok slot)
    (unused : ¬ t.filing.entry.IsUsed) : t.LeftOut slot := by
  obtain ⟨free, -, header⟩ := tried.of_ok ok
  have unusedThere : ¬ t.filed.IsUsed := unused
  obtain ⟨listed, still, -⟩ := compact.place_unused free unusedThere
  refine ⟨by rw [header, listed], by rw [header, still], ?_⟩
  rw [header, nextOffset, nextOffset, listed]

/-- The slot of a used entry is not given again, and its data lie in front of all that follow. -/
theorem Trial.Entered.respected (entered : t.Entered slot) (used : t.filing.entry.IsUsed)
    (survives : Survives t.after u.before) (placed : u.before.header.Placed)
    (tried : Tried u.filing u.before u.outcome u.after) : t.Respected slot u := by
  have usedThere : t.filed.IsUsed := used
  have still := survives.slot slot t.filed entered.there usedThere
  constructor
  · intro ok
    obtain ⟨f, there, unused⟩ := freeSlot_eq_some (tried.of_ok ok).1
    rw [still, Option.some.injEq] at there
    exact unused (there ▸ usedThere)
  · rw [Trial.toNat_offset_filed placed]
    exact endOffset_le_nextOffset (mem_used.mpr ⟨slot, still, usedThere⟩)

theorem ends_attempt (filing : Filing) (w : ContainerWriter) (placed : w.header.Placed) :
    Ends (attempt filing)
      (fun t w' => t.filing = filing ∧ t.before = w ∧ t.after = w' ∧
        Tried t.filing t.before t.outcome t.after) w := by
  refine Ends.bind_get (Ends.bind (ends_perform filing w placed) ?_)
  intro outcome w' tried
  exact Ends.bind_get (Ends.pure_iff.mpr ⟨rfl, rfl, rfl, tried⟩)

/-! ### Every run -/

/-- Used slots stay in front of those that are free, whatever is filed. -/
theorem Advance.compact {h h' : ContainerHeader} (advance : Advance h h') (compact : h.Compact) :
    h'.Compact := by
  cases advance with
  | stay => exact compact
  | place slot e free here fits =>
    by_cases used : e.IsUsed
    · exact (compact.place free used).2
    · exact (compact.place_unused free used).2.2

theorem ends_serveAll_compact (requests : List Request) (w : ContainerWriter)
    (compact : w.header.Compact) :
    Ends (serveAll requests) (fun _ w' => w'.header.Compact) w := by
  induction requests generalizing w with
  | nil => exact Ends.pure_iff.mpr compact
  | cons r rest ih =>
    exact Ends.bind (ends_serve r w) fun _ u served => ih u (served.advance.compact compact)

/-- Whatever is asked before and later, and whatever fails: if an entry is given a slot and counts as
used, it stands there and is listed with the others, and no later call gets the slot or places data
in front of its end. If it does not count as used, it is not listed, and the next entry gets its slot
and its place. -/
theorem given_slot_kept (medium : Medium) (vendorId productId : UInt16)
    (before later : List Request) (filing next : Filing) :
    Ends (do
        let _ ← writeHeader.run
        serveAll before
        let t ← attempt filing
        serveAll later
        let u ← attempt next
        pure (t, u))
      (fun (t, u) _ => t.filing = filing ∧ u.filing = next ∧
        ∀ slot, t.outcome = .ok slot →
          (filing.entry.IsUsed → t.Entered slot ∧ t.Respected slot u) ∧
          (¬ filing.entry.IsUsed → t.LeftOut slot))
      (on medium vendorId productId) := by
  refine Ends.bind (ends_writeHeader_on medium vendorId productId) fun _ w₀ opened => ?_
  have placed₀ : w₀.header.Placed := opened ▸ placed_empty vendorId productId
  have compact₀ : w₀.header.Compact := opened ▸ compact_empty vendorId productId
  refine Ends.bind ((ends_serveAll before w₀ placed₀).and
    (ends_serveAll_compact before w₀ compact₀)) ?_
  rintro _ w ⟨⟨placed, -⟩, compact⟩
  refine Ends.bind (ends_attempt filing w placed) ?_
  rintro t w' ⟨rfl, rfl, rfl, tried⟩
  refine Ends.bind (ends_serveAll later t.after (tried.advance.placed placed)) ?_
  rintro _ v ⟨placed', survives⟩
  refine Ends.bind (ends_attempt next v placed') ?_
  rintro u _ ⟨rfl, rfl, -, tried'⟩
  refine Ends.pure_iff.mpr ⟨rfl, rfl, fun slot ok => ⟨fun used => ?_, fun unused => ?_⟩⟩
  · have entered := tried.entered placed compact ok used
    exact ⟨entered, entered.respected used survives placed' tried'⟩
  · exact tried.leftOut compact ok unused

/-- An entry whose name starts with a zero is given the first slot, and it is not listed: not every
entry that is given a slot is there afterwards. -/
theorem given_slot_left_free :
    ¬ Ends
      (tryAll
        [.append (.unplaced (.ofList 11 [0x00, 0x57]) 0x10 0) [1, 2, 3, 4, 5],
        .append (.unplaced (.ofList 11 [0x46, 0x57]) 0x10 0) [6, 7, 8]])
      (fun run _ => ∀ (i : Nat) t, run.2[i]? = some t → ∀ slot, t.outcome = .ok slot →
        t.filed ∈ t.after.header.used ∧
        t.after.header.used.length = t.before.header.used.length + 1 ∧
        t.after.header.nextOffset = t.filed.endOffset ∧
        ∀ (j : Nat) u, i < j → run.2[j]? = some u → t.Respected slot u)
      (on {} 0x10D6 0x1101) := by
  intro all
  have first : ((tryAll
      [.append (.unplaced (.ofList 11 [0x00, 0x57]) 0x10 0) [1, 2, 3, 4, 5],
        .append (.unplaced (.ofList 11 [0x46, 0x57]) 0x10 0) [6, 7, 8]]
      (on {} 0x10D6 0x1101) {}).1.1.2[0]?).any
        (fun t => t.outcome.isOk ∧ t.after.header.used = []) := by
    decide +kernel
  obtain ⟨t, there, found⟩ := (Option.any_eq_true _ _).mp first
  obtain ⟨ok, none⟩ := of_decide_eq_true found
  cases outcome : t.outcome with
  | error e =>
    rw [outcome] at ok
    cases ok
  | ok slot =>
    have listed := (all {} 0 t there slot outcome).1
    rw [none] at listed
    cases listed

end ContainerWriter

end PlayerLink
