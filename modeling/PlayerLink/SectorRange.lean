import PlayerLink.Text.Numeral

/-!
# Runs of sectors

A run of sectors that are all addressable: a first sector and how many there are. A run that
would go past the last sector is refused, not shortened; an empty run may start anywhere.
-/

namespace PlayerLink

open Text

/-- The sectors `first`, `first + 1`, … of which there are `count`. -/
structure SectorRange where
  first : UInt32
  count : UInt32
  inRange : first.toNat + (count.toNat - 1) < UInt32.size
  deriving DecidableEq, Repr

/-- A run that goes past the last sector. -/
structure SectorRangeError where
  first : UInt32
  count : UInt32
  deriving DecidableEq, Repr

/-- The text of the complaint. -/
def SectorRangeError.message (e : SectorRangeError) : String :=
  s!"{e.count} sectors from {Numeral.marked 8 e.first.toNat} run past sector " ++
    Numeral.marked 8 (UInt32.size - 1)

namespace SectorRange

/-- The run with the given first sector and length, if it is addressable. -/
def make (first count : UInt32) : Except SectorRangeError SectorRange :=
  if h : first.toNat + (count.toNat - 1) < UInt32.size then .ok ⟨first, count, h⟩
  else .error ⟨first, count⟩

/-- No more than `n` sectors from the start of a run. -/
def firstSectors (n : Nat) (r : SectorRange) : List UInt32 :=
  (List.range (min n r.count.toNat)).map fun (i : Nat) => r.first + UInt32.ofNat i

/-- The sectors of a run are numbered one behind the other, and none wraps around. -/
theorem toNat_firstSectors (n : Nat) (r : SectorRange) :
    (r.firstSectors n).map UInt32.toNat = List.range' r.first.toNat (min n r.count.toNat) := by
  rw [firstSectors, List.map_map, List.range'_eq_map_range]
  apply List.map_congr_left
  intro i among
  have within : i < r.count.toNat :=
    Nat.lt_of_lt_of_le (List.mem_range.mp among) (Nat.min_le_right n _)
  have addressable : r.first.toNat + i < UInt32.size := by
    have := r.inRange
    omega
  rw [Function.comp_apply, UInt32.toNat_add, UInt32.toNat_ofNat_of_lt' (by omega),
    Nat.mod_eq_of_lt addressable]

end SectorRange

end PlayerLink
