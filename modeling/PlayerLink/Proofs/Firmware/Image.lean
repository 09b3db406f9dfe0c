import PlayerLink.Command
import PlayerLink.Layout

/-!
# Images of sectors

An image gives each sector its octets. Counted in octets it is one run from sector 0 on, and
`octets` is a part of that run which starts with a sector but may end anywhere.
-/

namespace PlayerLink

/-- What a flash memory or a disk holds. -/
abbrev Image := UInt32 → Field sectorSize

/-- The numbers of as many sectors as told. -/
def sectorsFrom : Nat → Nat → List UInt32
  | _, 0 => []
  | first, count + 1 => UInt32.ofNat first :: sectorsFrom (first + 1) count

/-- Sectors are counted as numbers are. -/
theorem ofNat_succ (first : Nat) : UInt32.ofNat (first + 1) = UInt32.ofNat first + 1 :=
  UInt32.ofNat_add first 1

/-- One sector more is the one behind the others. -/
theorem sectorsFrom_succ (first count : Nat) :
    sectorsFrom first (count + 1) = sectorsFrom first count ++ [.ofNat (first + count)] := by
  induction count generalizing first with
  | zero => rfl
  | succ count ih =>
    rw [sectorsFrom, ih, sectorsFrom, List.cons_append, Nat.succ_add_eq_add_succ]

namespace Image

variable (image : Image)

/-- The octet at a place, counted from the start of sector 0. -/
def octetAt (n : Nat) : UInt8 :=
  (image (UInt32.ofNat (n / sectorSize))).get ⟨n % sectorSize, Nat.mod_lt n (by decide)⟩

/-- As many octets as told, from the start of a sector on. -/
def octets (first count : Nat) : List UInt8 :=
  (List.range count).map fun j => image.octetAt (first * sectorSize + j)

/-- As many whole sectors as told. -/
def sectors : Nat → Nat → List (List UInt8)
  | _, 0 => []
  | first, count + 1 => (image (UInt32.ofNat first)).toList :: sectors (first + 1) count

theorem toList_ne_nil (sector : UInt32) : (image sector).toList ≠ [] := by
  intro none
  have length : (image sector).toList.length = sectorSize := Vector.length_toList
  rw [none] at length
  cases length

@[simp] theorem length_octets (first count : Nat) : (image.octets first count).length = count := by
  simp [octets]

theorem take_octets {first count n : Nat} (le : n ≤ count) :
    (image.octets first count).take n = image.octets first n := by
  rw [octets, octets, ← List.map_take, List.take_range, Nat.min_eq_left le]

/-- What lies in a run behind some of its sectors. -/
theorem take_drop_octets {first count sectors n : Nat} (le : sectors * sectorSize + n ≤ count) :
    ((image.octets first count).drop (sectors * sectorSize)).take n =
      image.octets (first + sectors) n := by
  apply List.ext_getElem
  · simp
    omega
  intro j _ hj
  rw [length_octets] at hj
  simp only [octets, List.getElem_take, List.getElem_drop, List.getElem_map, List.getElem_range,
    Nat.add_mul, Nat.add_assoc]

/-- Within a sector the octets are those of the sector. -/
theorem octets_sectorSize (first : Nat) :
    image.octets first sectorSize = (image (UInt32.ofNat first)).toList := by
  apply List.ext_getElem
  · simp
  intro j hj _
  rw [length_octets] at hj
  have sector : (first * sectorSize + j) / sectorSize = first := by
    rw [sectorSize] at hj ⊢
    omega
  have place : (first * sectorSize + j) % sectorSize = j := by
    rw [sectorSize] at hj ⊢
    omega
  simp only [octets, List.getElem_map, List.getElem_range, octetAt, sector, place,
    Vector.getElem_toList]
  rfl

/-- Behind the first sector of a run the next one starts. -/
theorem octets_add (first count : Nat) :
    image.octets first (sectorSize + count) =
      (image (UInt32.ofNat first)).toList ++ image.octets (first + 1) count := by
  rw [← octets_sectorSize, octets, List.range_add, List.map_append, List.map_map]
  refine (List.append_right_inj _).mpr (List.map_congr_left fun j _ => ?_)
  rw [Function.comp_apply, Nat.add_mul, Nat.one_mul, Nat.add_assoc]

/-- One sector more is the one behind the others. -/
theorem sectors_succ (first count : Nat) :
    image.sectors first (count + 1) =
      image.sectors first count ++ [(image (UInt32.ofNat (first + count))).toList] := by
  induction count generalizing first with
  | zero => rfl
  | succ count ih =>
    rw [sectors, ih, sectors, List.cons_append, Nat.succ_add_eq_add_succ]

theorem mem_sectors {first count : Nat} {octets : List UInt8} :
    octets ∈ image.sectors first count ↔
      ∃ i < count, octets = (image (UInt32.ofNat (first + i))).toList := by
  induction count with
  | zero => exact iff_of_false nofun (by rintro ⟨i, below, -⟩; cases below)
  | succ count ih =>
    rw [sectors_succ, List.mem_append, ih, List.mem_singleton]
    constructor
    · rintro (⟨i, below, rfl⟩ | rfl)
      · exact ⟨i, Nat.lt_succ_of_lt below, rfl⟩
      · exact ⟨count, count.lt_succ_self, rfl⟩
    · rintro ⟨i, below, rfl⟩
      obtain before | rfl := Nat.lt_succ_iff_lt_or_eq.mp below
      · exact .inl ⟨i, before, rfl⟩
      · exact .inr rfl

/-- Octets behind sectors of an image are its next sector if all of them are sectors of it. -/
theorem concat_eq_sectors {first : Nat} {kept : List (List UInt8)} {octets : List UInt8} :
    kept ++ [octets] = image.sectors first (kept ++ [octets]).length ↔
      kept = image.sectors first kept.length ∧
        octets = (image (UInt32.ofNat (first + kept.length))).toList := by
  rw [List.length_append, List.length_singleton, sectors_succ]
  constructor
  · intro same
    obtain ⟨front, last⟩ := List.append_inj' same rfl
    exact ⟨front, List.singleton_inj.mp last⟩
  · rintro ⟨front, rfl⟩
    rw [← front]

theorem flatten_sectors (first count : Nat) :
    (image.sectors first count).flatten = image.octets first (count * sectorSize) := by
  induction count generalizing first with
  | zero => simp [sectors, octets]
  | succ count ih =>
    rw [sectors, List.flatten_cons, ih, Nat.add_mul, Nat.one_mul,
      Nat.add_comm (count * sectorSize), octets_add]

end Image

end PlayerLink
