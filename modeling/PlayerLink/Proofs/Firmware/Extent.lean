import Mathlib.Algebra.Order.Floor.Div
import Mathlib.Data.List.Pairwise
import Mathlib.Order.Bounds.Basic
import PlayerLink.Firmware.Header

/-!
# How far a firmware reaches

A header counts the sectors up to the end of the entry placed last, and of several that start in the
same sector the one in the first slot is meant. Only where entries start is looked at. But if no two
entries share a sector and none is empty, no entry ends behind that one, so what is counted is just
what holds all entries, in whatever slots they are.
-/

namespace PlayerLink

namespace DirectoryEntry

/-- Whether an entry has a part in a sector, counted from the header on. -/
def Occupies (e : DirectoryEntry) (sector : Nat) : Prop :=
  e.offset.toNat ≤ sector ∧ sector < e.offset.toNat + e.sectorCount

/-- Two entries without a sector in common. -/
def Apart (e e' : DirectoryEntry) : Prop := ∀ sector, ¬ (e.Occupies sector ∧ e'.Occupies sector)

instance : Std.Symm Apart where
  symm _ _ h sector both := h sector both.symm

theorem sectorCount_pos {e : DirectoryEntry} (some : e.length ≠ 0) : 0 < e.sectorCount := by
  have pos : 0 < e.length.toNat := by
    rw [Nat.pos_iff_ne_zero]
    intro zero
    exact some (UInt32.toNat_inj.mp zero)
  rw [sectorCount, sectorSize]
  omega

/-- The sectors of an entry are its octets by the sector, rounded up. -/
theorem sectorCount_eq (e : DirectoryEntry) : e.sectorCount = e.length.toNat ⌈/⌉ sectorSize := by
  rw [sectorCount, Nat.ceilDiv_eq_add_pred_div]
  rfl

/-- The content of an entry ends within its last sector. -/
theorem length_le (e : DirectoryEntry) : e.length.toNat ≤ e.sectorCount * sectorSize := by
  rw [sectorCount, sectorSize]
  omega

/-- Of two entries apart the one placed first ends where the other one starts, or before. -/
theorem Apart.finish_le {e e' : DirectoryEntry} (apart : Apart e e') (some : e'.length ≠ 0)
    (le : e.offset ≤ e'.offset) : e.offset.toNat + e.sectorCount ≤ e'.offset.toNat := by
  apply Nat.le_of_not_lt
  intro past
  have pos := sectorCount_pos some
  have start := UInt32.le_iff_toNat_le.mp le
  exact apart e'.offset.toNat ⟨⟨start, by omega⟩, ⟨Nat.le_refl _, by omega⟩⟩

end DirectoryEntry

namespace FirmwareHeader

/-- Looking through entries for the later one never goes back, and it stays with the first of those
that start in the same sector. -/
theorem foldl_laterEntry (entries : List DirectoryEntry) (first : DirectoryEntry) :
    ∃ before last after, first :: entries = before ++ last :: after ∧
      entries.foldl laterEntry (some first) = some last ∧
      (∀ e ∈ before, e.offset < last.offset) ∧ ∀ e ∈ after, e.offset ≤ last.offset := by
  induction entries generalizing first with
  | nil => exact ⟨[], first, [], rfl, rfl, nofun, nofun⟩
  | cons next rest ih =>
    by_cases later : first.offset < next.offset
    · obtain ⟨before, last, after, split, found, ahead, behind⟩ := ih next
      have le : next.offset ≤ last.offset := by
        have there : next ∈ before ++ last :: after := split ▸ List.mem_cons_self
        rcases List.mem_append.mp there with there | there
        · exact UInt32.le_of_lt (ahead next there)
        · rcases List.mem_cons.mp there with rfl | there
          · exact UInt32.le_refl _
          · exact behind next there
      refine ⟨first :: before, last, after, by rw [split, List.cons_append], ?_, ?_, behind⟩
      · rw [List.foldl_cons, laterEntry, if_pos later, found]
      · intro e listed
        rcases List.mem_cons.mp listed with rfl | listed
        · exact UInt32.lt_of_lt_of_le later le
        · exact ahead e listed
    · have passed : (next :: rest).foldl laterEntry (some first) =
          rest.foldl laterEntry (some first) := by
        rw [List.foldl_cons, laterEntry, if_neg later]
      have le : next.offset ≤ first.offset := UInt32.not_lt.mp later
      obtain ⟨before, last, after, split, found, ahead, behind⟩ := ih first
      cases before with
      | nil =>
        obtain ⟨rfl, rfl⟩ := List.cons.inj split
        refine ⟨[], first, next :: rest, rfl, passed.trans found, nofun, ?_⟩
        intro e listed
        rcases List.mem_cons.mp listed with rfl | listed
        · exact le
        · exact behind e listed
      | cons _ before =>
        obtain ⟨rfl, rfl⟩ := List.cons.inj split
        refine ⟨first :: next :: before, last, after, rfl, passed.trans found, ?_, behind⟩
        have here := ahead first List.mem_cons_self
        intro e listed
        rcases List.mem_cons.mp listed with rfl | listed
        · exact here
        · rcases List.mem_cons.mp listed with rfl | listed
          · exact UInt32.lt_of_le_of_lt le here
          · exact ahead e (List.mem_cons_of_mem _ listed)

/-- The used entry that starts last, and of several that start there the one in the first slot. -/
def PlacedLast (h : FirmwareHeader) (e : DirectoryEntry) : Prop :=
  ∃ before after, h.directory.toList = before ++ e :: after ∧ e.IsUsed ∧
    (∀ f ∈ before, f.IsUsed → f.offset < e.offset) ∧ ∀ f ∈ after, f.IsUsed → f.offset ≤ e.offset

variable {h h' : FirmwareHeader} {e : DirectoryEntry}

theorem mem_entries : e ∈ h.entries ↔ e ∈ h.directory.toList ∧ e.IsUsed := by
  rw [entries, List.mem_filter, decide_eq_true_eq]

theorem PlacedLast.mem (last : h.PlacedLast e) : e ∈ h.entries := by
  obtain ⟨before, after, slots, used, -, -⟩ := last
  refine mem_entries.mpr ⟨?_, used⟩
  rw [slots]
  exact List.mem_append_right _ List.mem_cons_self

theorem PlacedLast.le (last : h.PlacedLast e) {f : DirectoryEntry} (listed : f ∈ h.entries) :
    f.offset ≤ e.offset := by
  obtain ⟨before, after, slots, -, ahead, behind⟩ := last
  obtain ⟨there, used⟩ := mem_entries.mp listed
  rw [slots, List.mem_append, List.mem_cons] at there
  rcases there with there | rfl | there
  · exact UInt32.le_of_lt (ahead f there used)
  · exact UInt32.le_refl _
  · exact behind f there used

/-- Either no slot is used, or the entry that is found is the one placed last. -/
theorem lastEntry_cases (h : FirmwareHeader) :
    h.entries = [] ∧ h.lastEntry = none ∨ ∃ e, h.PlacedLast e ∧ h.lastEntry = some e := by
  rw [lastEntry]
  cases listed : h.entries with
  | nil => exact .inl ⟨rfl, rfl⟩
  | cons first rest =>
    obtain ⟨before, last, after, split, found, ahead, behind⟩ := foldl_laterEntry rest first
    refine .inr ⟨last, ?_, found⟩
    -- What stands in unused slots is passed over, in front of the entry as well as behind it.
    obtain ⟨front, back, slots, rfl, kept⟩ := List.filter_eq_append_iff.mp (listed.trans split)
    obtain ⟨unused, after', rfl, none, used, rfl⟩ := List.filter_eq_cons_iff.mp kept
    refine ⟨front ++ unused, after', by rw [slots, List.append_assoc], by simpa using used, ?_, ?_⟩
    · intro f there inUse
      rcases List.mem_append.mp there with there | there
      · exact ahead f (List.mem_filter.mpr ⟨there, by simpa using inUse⟩)
      · exact absurd (by simpa using inUse) (none f there)
    · intro f there inUse
      exact behind f (List.mem_filter.mpr ⟨there, by simpa using inUse⟩)

/-- The number of sectors is told by the entry placed last alone. -/
theorem imageSectors_cases (h : FirmwareHeader) :
    h.entries = [] ∧ h.imageSectors = 0 ∨
      ∃ e, h.PlacedLast e ∧
        h.imageSectors.toNat = min 0xFFFFFFFF (e.offset.toNat + e.sectorCount) := by
  rw [imageSectors]
  rcases h.lastEntry_cases with ⟨none, found⟩ | ⟨e, last, found⟩
  · rw [found]
    exact .inl ⟨none, rfl⟩
  · rw [found]
    refine .inr ⟨e, last, ?_⟩
    rw [Nat.min_comm]
    exact UInt32.toNat_ofNat_of_lt' (Nat.lt_succ_of_le (Nat.min_le_right _ _))

/-- The sectors that a header counts include those of all entries. -/
theorem finish_le_imageSectors (some : ∀ e ∈ h.entries, e.length ≠ 0)
    (apart : h.entries.Pairwise DirectoryEntry.Apart)
    (bounded : ∀ e ∈ h.entries, e.offset.toNat + e.sectorCount ≤ 0xFFFFFFFF)
    (listed : e ∈ h.entries) : e.offset.toNat + e.sectorCount ≤ h.imageSectors.toNat := by
  rcases h.imageSectors_cases with ⟨none, -⟩ | ⟨last, placed, count⟩
  · rw [none] at listed
    cases listed
  rw [count, Nat.min_eq_right (bounded last placed.mem)]
  by_cases same : e = last
  · exact Nat.le_of_eq (by rw [same])
  · have between := apart.forall listed placed.mem same
    exact Nat.le_add_right_of_le (between.finish_le (some last placed.mem) (placed.le listed))

/-- No used entry is empty, no two have a sector in common, and all end where sectors can still be
counted. -/
structure Spread (h : FirmwareHeader) : Prop where
  filled : ∀ e ∈ h.entries, e.length ≠ 0
  apart : h.entries.Pairwise DirectoryEntry.Apart
  bounded : ∀ e ∈ h.entries, e.offset.toNat + e.sectorCount ≤ 0xFFFFFFFF

/-- Sectors below which all entries lie. -/
def Holds (h : FirmwareHeader) (sectors : Nat) : Prop :=
  ∀ e ∈ h.entries, ∀ s, e.Occupies s → s < sectors

theorem Spread.isLeast (spread : h.Spread) : IsLeast {n | h.Holds n} h.imageSectors.toNat := by
  constructor
  · intro e listed s occupied
    exact Nat.lt_of_lt_of_le occupied.2
      (finish_le_imageSectors spread.filled spread.apart spread.bounded listed)
  · intro n holds
    rcases h.imageSectors_cases with ⟨-, count⟩ | ⟨e, last, count⟩
    · rw [count]
      exact Nat.zero_le n
    · -- The last sector of the entry placed last is one of those that have to be held.
      have pos := DirectoryEntry.sectorCount_pos (spread.filled e last.mem)
      have final := holds e last.mem (e.offset.toNat + e.sectorCount - 1) ⟨by omega, by omega⟩
      rw [count, Nat.min_eq_right (spread.bounded e last.mem)]
      omega

theorem Spread.of_perm (spread : h.Spread) (same : h'.entries.Perm h.entries) : h'.Spread where
  filled e listed := spread.filled e (same.mem_iff.mp listed)
  apart := (same.pairwise_iff fun apart => Std.Symm.symm _ _ apart).mpr spread.apart
  bounded e listed := spread.bounded e (same.mem_iff.mp listed)

/-- A header counts no sectors if no slot is used, and otherwise those up to the end of the entry
placed last, at most the greatest number there is. If no used entry is empty, no two share a sector
and all end where sectors can be counted, this is the least number below which the sectors of all
of them lie, and any other header with the same entries, whatever slots they are in, counts the same
sectors. -/
theorem imageSectors_extent (h : FirmwareHeader) :
    (h.entries = [] ∧ h.imageSectors = 0 ∨ ∃ e, h.PlacedLast e ∧ h.imageSectors.toNat =
      min 0xFFFFFFFF (e.offset.toNat + e.length.toNat ⌈/⌉ sectorSize)) ∧
    (h.Spread → IsLeast {n | h.Holds n} h.imageSectors.toNat ∧
      ∀ h' : FirmwareHeader, h'.entries.Perm h.entries → h'.imageSectors = h.imageSectors) := by
  constructor
  · simp only [← DirectoryEntry.sectorCount_eq]
    exact h.imageSectors_cases
  · intro spread
    refine ⟨spread.isLeast, ?_⟩
    intro h' same
    have holds : h'.Holds = h.Holds := by
      funext n
      simp only [Holds, same.mem_iff]
    have least := (spread.of_perm same).isLeast
    rw [holds] at least
    exact UInt32.toNat_inj.mp (least.unique spread.isLeast)

/-- An entry of one octet and one that takes two sectors behind it. -/
def scatteredParts : DirectoryEntry × DirectoryEntry :=
  let part := DirectoryEntry.layout.decode [0x57]
  ({ part with offset := 16, length := 1 }, { part with offset := 17, length := 513 })

/-- A header with the two entries in its last slots, the one that starts later in front. -/
def scattered : FirmwareHeader :=
  let unused := DirectoryEntry.layout.decode []
  { layout.decode [] with
    directory := ((Vector.replicate directorySlots unused).set 237 scatteredParts.2).set 239
      scatteredParts.1 }

theorem imageSectors_extent_scattered :
    scattered.Spread ∧ IsLeast {n | scattered.Holds n} scattered.imageSectors.toNat ∧
      scattered.imageSectors = 19 := by
  have listed : scattered.entries = [scatteredParts.2, scatteredParts.1] := by decide +kernel
  have apart : DirectoryEntry.Apart scatteredParts.2 scatteredParts.1 := by
    rintro sector ⟨⟨later, _⟩, _, earlier⟩
    have start : scatteredParts.2.offset.toNat = 17 := rfl
    have finish : scatteredParts.1.offset.toNat + scatteredParts.1.sectorCount = 17 := rfl
    omega
  have spread : scattered.Spread := by
    constructor
    · rw [listed]
      decide
    · rw [listed]
      exact List.pairwise_pair.mpr apart
    · rw [listed]
      decide
  exact ⟨spread, ((imageSectors_extent scattered).2 spread).1, by decide +kernel⟩

end FirmwareHeader

end PlayerLink
