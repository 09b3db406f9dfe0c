import PlayerLink.Container.Header

/-!
# The directory of a container

A header is its octets: they are 4096, they end in the sum, and reading them gives the header
back. `place` is the one way in which a directory changes. It fills the first slot that is not
used and leaves the others as they are.

`Placed` is what placing keeps of the directory: every used entry lies behind the header, ends at
a place that a word can hold, and shares no octet with another. A directory that is filled by
placing alone is `Compact`, so its used entries stand in the order in which they were placed.
-/

namespace PlayerLink

namespace ContainerHeader

variable {h : ContainerHeader} {slot : Nat} {e : ContainerEntry}

/-! ### Octets -/

@[simp] theorem length_toOctets (h : ContainerHeader) : h.toOctets.length = size :=
  layout.length_encode h

/-- The octets in front of the sum do not depend on it. -/
theorem toOctets_eq (h : ContainerHeader) :
    ∃ body, body.length = summed ∧
      ∀ sum, { h with checksum := sum }.toOctets = body ++ Word.le32 sum := by
  have split : ∃ body, ∀ sum, { h with checksum := sum }.toOctets = body ++ Word.le32 sum := by
    refine ⟨h.magic.toList ++ (Word.le16 h.vendorId ++ (Word.le16 h.productId ++
      (h.reserved₁.toList ++ (h.entries.toList.flatMap ContainerEntry.layout.encode ++
        h.reserved₂.toList)))), fun sum => ?_⟩
    simp only [List.append_assoc]
    rfl
  obtain ⟨body, hbody⟩ := split
  refine ⟨body, ?_, hbody⟩
  have hl := congrArg List.length (hbody 0)
  rw [length_toOctets, List.length_append, Word.length_le32] at hl
  rw [summed]
  omega

theorem computedChecksum_repaired (h : ContainerHeader) :
    h.repaired.computedChecksum = h.computedChecksum := by
  obtain ⟨body, hl, hb⟩ := toOctets_eq h
  have whatever (sum : UInt32) : ({ h with checksum := sum }.toOctets).take summed = body := by
    rw [hb sum, ← hl, List.take_left]
  rw [computedChecksum, computedChecksum, repaired, whatever, ← whatever h.checksum]

theorem sumOk_repaired (h : ContainerHeader) : h.repaired.SumOk :=
  computedChecksum_repaired h

/-- A header that starts with the mark is read back from a file that starts with it. -/
theorem ofOctets_append (hm : h.magic.toList.take mark.length = mark) (rest : List UInt8) :
    ofOctets (h.toOctets ++ rest) = .ok h := by
  have start : (h.toOctets ++ rest).take mark.length = mark := by
    obtain ⟨tail, ht⟩ : ∃ tail, h.toOctets = h.magic.toList ++ tail := ⟨_, rfl⟩
    rw [ht, List.append_assoc, List.take_append_of_le_length (by simp [mark]), hm]
  have long : size ≤ (h.toOctets ++ rest).length := by simp
  rw [ofOctets, if_pos ⟨start, long⟩]
  exact congrArg Except.ok (layout.decode_encode_append h rest)

/-! ### Placing -/

@[simp] theorem toList_place :
    (h.place slot e).entries.toList = h.entries.toList.set slot e := by
  simp [place, repaired]

theorem sumOk_place : (h.place slot e).SumOk := sumOk_repaired _

theorem sumOk_empty (vendorId productId : UInt16) : (empty vendorId productId).SumOk :=
  sumOk_repaired _

/-- The slot found for an entry is one of the directory and not used. -/
theorem freeSlot_eq_some (free : h.freeSlot = some slot) :
    ∃ f, h.entries.toList[slot]? = some f ∧ ¬ f.IsUsed := by
  obtain ⟨lt, unused, -⟩ := List.findIdx?_eq_some_iff_getElem.mp free
  exact ⟨_, List.getElem?_eq_getElem lt, by simpa using unused⟩

theorem mem_used {f : ContainerEntry} :
    f ∈ h.used ↔ ∃ i : Nat, h.entries.toList[i]? = some f ∧ f.IsUsed := by
  rw [used, List.mem_filter, decide_eq_true_eq, List.mem_iff_getElem?]
  constructor
  · rintro ⟨⟨i, hi⟩, hu⟩
    exact ⟨i, hi, hu⟩
  · rintro ⟨i, hi, hu⟩
    exact ⟨⟨i, hi⟩, hu⟩

/-- Placing fills its slot and no other. -/
theorem getElem?_place (free : h.freeSlot = some slot) (i : Nat) :
    (h.place slot e).entries.toList[i]? =
      if i = slot then some e else h.entries.toList[i]? := by
  obtain ⟨f, hf, -⟩ := freeSlot_eq_some free
  have lt : slot < h.entries.toList.length := (List.getElem?_eq_some_iff.mp hf).1
  rw [toList_place, List.getElem?_set]
  by_cases hi : i = slot
  · rw [if_pos hi, if_pos hi.symm, if_pos lt]
  · rw [if_neg hi, if_neg (Ne.symm hi)]

/-- Used slots stay when another entry is placed. -/
theorem getElem?_place_of_used (free : h.freeSlot = some slot) {i : Nat} {f : ContainerEntry}
    (there : h.entries.toList[i]? = some f) (used : f.IsUsed) :
    (h.place slot e).entries.toList[i]? = some f := by
  obtain ⟨g, hg, unused⟩ := freeSlot_eq_some free
  have other : i ≠ slot := by
    rintro rfl
    rw [there, Option.some.injEq] at hg
    exact unused (hg ▸ used)
  rw [getElem?_place free, if_neg other, there]

theorem mem_used_place (free : h.freeSlot = some slot) {f : ContainerEntry} :
    f ∈ (h.place slot e).used ↔ (f = e ∧ e.IsUsed) ∨ f ∈ h.used := by
  constructor
  · intro hf
    obtain ⟨i, hi, hu⟩ := mem_used.mp hf
    rw [getElem?_place free] at hi
    by_cases here : i = slot
    · rw [if_pos here, Option.some.injEq] at hi
      subst hi
      exact Or.inl ⟨rfl, hu⟩
    · rw [if_neg here] at hi
      exact Or.inr (mem_used.mpr ⟨i, hi, hu⟩)
  · rintro (⟨rfl, hu⟩ | hf)
    · exact mem_used.mpr ⟨slot, by rw [getElem?_place free, if_pos rfl], hu⟩
    · obtain ⟨i, hi, hu⟩ := mem_used.mp hf
      exact mem_used.mpr ⟨i, getElem?_place_of_used free hi hu, hu⟩

/-! ### Where the next data go -/

theorem nextOffset_of_used_eq_nil (none : h.used = []) : h.nextOffset = size := by
  rw [nextOffset, none]
  rfl

/-- The data placed last are the ones that end last. -/
theorem nextOffset_eq {n : Nat} (bound : ∀ f ∈ h.used, f.endOffset ≤ n)
    (last : ∃ f ∈ h.used, f.endOffset = n) : h.nextOffset = n := by
  have hmax : (h.used.map ContainerEntry.endOffset).max? = some n := by
    rw [List.max?_eq_some_iff]
    refine ⟨List.mem_map.mpr last, ?_⟩
    rintro _ hb
    obtain ⟨f, hf, rfl⟩ := List.mem_map.mp hb
    exact bound f hf
  rw [nextOffset, hmax, Option.getD_some]

/-- Either nothing is placed yet, or some data end right where the next ones go. -/
theorem nextOffset_cases (h : ContainerHeader) :
    (h.used = [] ∧ h.nextOffset = size) ∨ ∃ f ∈ h.used, f.endOffset = h.nextOffset := by
  by_cases none : h.used = []
  · exact Or.inl ⟨none, nextOffset_of_used_eq_nil none⟩
  · obtain ⟨n, hn⟩ : ∃ n, (h.used.map ContainerEntry.endOffset).max? = some n :=
      Option.isSome_iff_exists.mp (List.isSome_max?_of_ne_nil (by simpa using none))
    obtain ⟨f, hf, hend⟩ := List.mem_map.mp (List.max?_mem hn)
    refine Or.inr ⟨f, hf, ?_⟩
    rw [nextOffset, hn, Option.getD_some, hend]

theorem endOffset_le_nextOffset {f : ContainerEntry} (hf : f ∈ h.used) :
    f.endOffset ≤ h.nextOffset := by
  obtain ⟨n, hn⟩ : ∃ n, (h.used.map ContainerEntry.endOffset).max? = some n :=
    Option.isSome_iff_exists.mp (List.isSome_max?_of_mem (List.mem_map_of_mem hf))
  rw [nextOffset, hn, Option.getD_some]
  exact (List.max?_eq_some_iff.mp hn).2 _ (List.mem_map_of_mem hf)

/-- The next data go behind an entry that was placed behind all others. -/
theorem nextOffset_place (free : h.freeSlot = some slot) (used : e.IsUsed)
    (behind : h.nextOffset ≤ e.endOffset) : (h.place slot e).nextOffset = e.endOffset := by
  refine nextOffset_eq ?_ ⟨e, (mem_used_place free).mpr (Or.inl ⟨rfl, used⟩), rfl⟩
  intro f hf
  rcases (mem_used_place free).mp hf with ⟨rfl, -⟩ | hf
  · exact Nat.le_refl _
  · exact Nat.le_trans (endOffset_le_nextOffset hf) behind

/-! ### Entries in their places -/

/-- The largest place in a container that a word can hold. -/
def lastPlace : Nat := 0xFFFFFFFF

/-- Every used entry lies behind the header and within reach, apart from every other. -/
structure Placed (h : ContainerHeader) : Prop where
  bounds : ∀ f ∈ h.used, size ≤ f.offset.toNat ∧ f.endOffset ≤ lastPlace
  apart : ∀ (i j : Nat) (f g : ContainerEntry), i ≠ j →
    h.entries.toList[i]? = some f → h.entries.toList[j]? = some g →
    f.IsUsed → g.IsUsed → f.endOffset ≤ g.offset.toNat ∨ g.endOffset ≤ f.offset.toNat

namespace Placed

theorem size_le_nextOffset (placed : h.Placed) : size ≤ h.nextOffset := by
  rcases nextOffset_cases h with ⟨-, hn⟩ | ⟨f, hf, hend⟩
  · exact Nat.le_of_eq hn.symm
  · have := (placed.bounds f hf).1
    rw [← hend, ContainerEntry.endOffset]
    omega

theorem nextOffset_le (placed : h.Placed) : h.nextOffset ≤ lastPlace := by
  rcases nextOffset_cases h with ⟨-, hn⟩ | ⟨f, hf, hend⟩
  · rw [hn]
    decide
  · rw [← hend]
    exact (placed.bounds f hf).2

/-- The place of the next data fits a word, so nothing is lost when it is stored. -/
theorem toNat_nextOffset (placed : h.Placed) :
    (UInt32.ofNat h.nextOffset).toNat = h.nextOffset := by
  have := placed.nextOffset_le
  rw [UInt32.toNat_ofNat', Nat.mod_eq_of_lt]
  rw [lastPlace] at this
  omega

theorem of_used_eq_nil (none : h.used = []) : h.Placed where
  bounds f hf := by
    rw [none] at hf
    cases hf
  apart i j f g _ hi _ hf _ := by
    have : f ∈ h.used := mem_used.mpr ⟨i, hi, hf⟩
    rw [none] at this
    cases this

/-- An entry at the next place keeps to it, whether its slot counts as used or not. -/
theorem place (placed : h.Placed) (free : h.freeSlot = some slot)
    (here : e.offset.toNat = h.nextOffset) (fits : e.endOffset ≤ lastPlace) :
    (h.place slot e).Placed where
  bounds f hf := by
    rcases (mem_used_place free).mp hf with ⟨rfl, -⟩ | hf
    · exact ⟨here ▸ placed.size_le_nextOffset, fits⟩
    · exact placed.bounds f hf
  apart i j f g hij hi hj hf hg := by
    rw [getElem?_place free] at hi hj
    by_cases hi' : i = slot
    · rw [if_pos hi', Option.some.injEq] at hi
      rw [if_neg (by omega)] at hj
      subst hi
      exact Or.inr (here ▸ endOffset_le_nextOffset (mem_used.mpr ⟨j, hj, hg⟩))
    · rw [if_neg hi'] at hi
      by_cases hj' : j = slot
      · rw [if_pos hj', Option.some.injEq] at hj
        subst hj
        exact Or.inl (here ▸ endOffset_le_nextOffset (mem_used.mpr ⟨i, hi, hf⟩))
      · rw [if_neg hj'] at hj
        exact placed.apart i j f g hij hi hj hf hg

end Placed

theorem not_isUsed_blank : ¬ ContainerEntry.blank.IsUsed := by decide

theorem unused_blanks (n : Nat) : ∀ f ∈ List.replicate n ContainerEntry.blank, ¬ f.IsUsed := by
  intro f hf
  rw [List.eq_of_mem_replicate hf]
  exact not_isUsed_blank

theorem unused_empty (vendorId productId : UInt16) :
    ∀ f ∈ (empty vendorId productId).entries.toList, ¬ f.IsUsed := by
  have blanks : (empty vendorId productId).entries.toList = .replicate containerSlots .blank := by
    simp [empty, repaired]
  rw [blanks]
  exact unused_blanks containerSlots

theorem used_empty (vendorId productId : UInt16) : (empty vendorId productId).used = [] := by
  rw [used, List.filter_eq_nil_iff]
  intro f hf
  simpa using unused_empty vendorId productId f hf

theorem placed_empty (vendorId productId : UInt16) : (empty vendorId productId).Placed :=
  .of_used_eq_nil (used_empty vendorId productId)

/-! ### Slots that fill up from the front -/

section Filled

variable {es rest : List ContainerEntry}

theorem used_eq_of_filled (slots : h.entries.toList = es ++ rest) (used : ∀ f ∈ es, f.IsUsed)
    (unused : ∀ f ∈ rest, ¬ f.IsUsed) : h.used = es := by
  have front : es.filter (fun f => f.IsUsed) = es := by
    rw [List.filter_eq_self]
    intro f hf
    simpa using used f hf
  have back : rest.filter (fun f => f.IsUsed) = [] := by
    rw [List.filter_eq_nil_iff]
    intro f hf
    simpa using unused f hf
  rw [ContainerHeader.used, slots, List.filter_append, front, back, List.append_nil]

/-- The first slot that is not used is the one behind those that are. -/
theorem freeSlot_eq_of_filled (slots : h.entries.toList = es ++ rest) (used : ∀ f ∈ es, f.IsUsed)
    (unused : ∀ f ∈ rest, ¬ f.IsUsed) :
    h.freeSlot = if rest = [] then none else some es.length := by
  have front : es.findIdx? (fun f => ¬ f.IsUsed) = none := by
    rw [List.findIdx?_eq_none_iff]
    intro f hf
    simpa using used f hf
  rw [freeSlot, slots, List.findIdx?_append, front, Option.none_or]
  cases rest with
  | nil => rfl
  | cons f rest =>
    have first : ¬ f.IsUsed := unused f List.mem_cons_self
    simp [List.findIdx?_cons, first]

end Filled

/-- No used slot stands behind one that is not used. -/
def Compact (h : ContainerHeader) : Prop :=
  ∃ rest, h.entries.toList = h.used ++ rest ∧ ∀ f ∈ rest, ¬ f.IsUsed

theorem isUsed_of_mem_used : ∀ f ∈ h.used, f.IsUsed := by
  intro f hf
  obtain ⟨-, -, used⟩ := mem_used.mp hf
  exact used

namespace Compact

theorem freeSlot_eq (compact : h.Compact) (free : h.freeSlot = some slot) :
    slot = h.used.length := by
  obtain ⟨rest, slots, unused⟩ := compact
  rw [freeSlot_eq_of_filled slots isUsed_of_mem_used unused] at free
  split at free
  · cases free
  · exact (Option.some.inj free).symm

/-- An entry is listed behind those that were placed before it. -/
theorem place (compact : h.Compact) (free : h.freeSlot = some slot) (used : e.IsUsed) :
    (h.place slot e).used = h.used ++ [e] ∧ (h.place slot e).Compact := by
  have here := compact.freeSlot_eq free
  obtain ⟨rest, slots, unused⟩ := compact
  cases rest with
  | nil =>
    rw [freeSlot_eq_of_filled slots isUsed_of_mem_used unused] at free
    cases free
  | cons f rest =>
    have placed : (h.place slot e).entries.toList = (h.used ++ [e]) ++ rest := by
      rw [toList_place, slots, here, List.set_append_right _ _ (Nat.le_refl _), Nat.sub_self,
        List.set_cons_zero, List.append_assoc, List.singleton_append]
    have front : ∀ g ∈ h.used ++ [e], g.IsUsed := by
      intro g hg
      rcases List.mem_append.mp hg with hg | hg
      · exact isUsed_of_mem_used g hg
      · rw [List.mem_singleton.mp hg]
        exact used
    have back : ∀ g ∈ rest, ¬ g.IsUsed := fun g hg => unused g (List.mem_cons_of_mem f hg)
    have listed := used_eq_of_filled placed front back
    exact ⟨listed, rest, by rw [placed, listed], back⟩

/-- An entry that does not count as used leaves its slot to the next one. -/
theorem place_unused (compact : h.Compact) (free : h.freeSlot = some slot)
    (unused : ¬ e.IsUsed) :
    (h.place slot e).used = h.used ∧ (h.place slot e).freeSlot = some slot ∧
      (h.place slot e).Compact := by
  have here := compact.freeSlot_eq free
  obtain ⟨rest, slots, blank⟩ := compact
  cases rest with
  | nil =>
    rw [freeSlot_eq_of_filled slots isUsed_of_mem_used blank] at free
    cases free
  | cons f rest =>
    have placed : (h.place slot e).entries.toList = h.used ++ (e :: rest) := by
      rw [toList_place, slots, here, List.set_append_right _ _ (Nat.le_refl _), Nat.sub_self,
        List.set_cons_zero]
    have back : ∀ g ∈ e :: rest, ¬ g.IsUsed := by
      intro g hg
      rcases List.mem_cons.mp hg with rfl | hg
      · exact unused
      · exact blank g (List.mem_cons_of_mem f hg)
    have listed := used_eq_of_filled placed isUsed_of_mem_used back
    refine ⟨listed, ?_, e :: rest, by rw [placed, listed], back⟩
    rw [freeSlot_eq_of_filled placed isUsed_of_mem_used back, if_neg (List.cons_ne_nil e rest),
      here]

end Compact

theorem compact_empty (vendorId productId : UInt16) : (empty vendorId productId).Compact :=
  ⟨_, by rw [used_empty, List.nil_append], unused_empty vendorId productId⟩

end ContainerHeader

end PlayerLink
