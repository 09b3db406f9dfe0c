import Mathlib.Data.List.DropRight
import PlayerLink.Firmware.Header
import PlayerLink.Proofs.Text.Utf16

/-!
# The USB string of a header

A header keeps the name that a player gives itself on the bus as a USB string descriptor: an octet
with the length of all of it, and room for 23 units. Nothing in a header vouches for the length, so
as many units are read as it counts and as there is room for. A text that fits is read back whatever
stands behind it, and whatever stands in a header is read as the units that are counted.
-/

namespace PlayerLink

namespace Text

/-! ### The end of a text -/

theorem dropEndWhile_eq (p : Char → Bool) (cs : List Char) :
    dropEndWhile p cs = cs.rdropWhile p := rfl

/-- A text that does not end with such a character stays as it is. -/
theorem dropEndWhile_of_getLast? {p : Char → Bool} {cs : List Char}
    (last : ∀ c ∈ cs.getLast?, ¬ p c) : dropEndWhile p cs = cs := by
  rw [dropEndWhile_eq, List.rdropWhile_eq_self_iff]
  intro some
  exact last _ (List.getLast?_eq_some_getLast some)

theorem exists_dropEndWhile_append (d : Char) (cs : List Char) :
    ∃ n, cs = dropEndWhile (· = d) cs ++ List.replicate n d := by
  have split : dropEndWhile (· = d) cs ++ cs.rtakeWhile (· = d) = cs :=
    List.rdropWhile_append_rtakeWhile
  have same : cs.rtakeWhile (· = d) = List.replicate (cs.rtakeWhile (· = d)).length d :=
    List.eq_replicate_iff.mpr ⟨rfl, fun c hc => by simpa using List.mem_rtakeWhile_imp hc⟩
  rw [same] at split
  exact ⟨_, split.symm⟩

theorem getLast?_dropEndWhile_ne (d : Char) (cs : List Char) :
    (dropEndWhile (· = d) cs).getLast? ≠ some d := by
  intro last
  obtain ⟨some, ends⟩ := List.mem_getLast?_eq_getLast last
  exact List.rdropWhile_last_not (· = d) cs some (decide_eq_true ends.symm)

end Text

namespace FirmwareHeader

open Text

/-- The header with octets put at the start of its USB string and counted by its length. What stands
behind them is `rest`, cut or filled up with zeros to the room that is left. -/
def storing (h : FirmwareHeader) (octets rest : List UInt8) : FirmwareHeader :=
  { h with
    stringLength := UInt8.ofNat (2 + octets.length)
    stringUnits := .ofList 46 (octets ++ rest) }

/-- As far as there is room, the octets that are counted are the ones that were stored. -/
theorem stringOctets_storing (h : FirmwareHeader) {octets : List UInt8} (rest : List UInt8)
    (room : octets.length ≤ 46) : (h.storing octets rest).stringOctets = octets := by
  have counted : (UInt8.ofNat (2 + octets.length)).toNat = 2 + octets.length :=
    UInt8.toNat_ofNat_of_lt' (Nat.lt_of_le_of_lt (Nat.add_le_add_left room 2) (by decide))
  have number : min ((UInt8.ofNat (2 + octets.length)).toNat - 2) 46 = octets.length := by
    rw [counted]
    omega
  change (zeroPad 46 (octets ++ rest)).take (min ((UInt8.ofNat (2 + octets.length)).toNat - 2) 46) =
    octets
  rw [number, zeroPad, List.take_append_of_le_length, List.take_take, Nat.min_eq_left room,
    List.take_left]
  rw [List.length_take, List.length_append]
  omega

theorem length_stringOctets (h : FirmwareHeader) :
    h.stringOctets.length = min (h.stringLength.toNat - 2) 46 := by
  rw [stringOctets, List.length_take, Vector.length_toList]
  omega

/-- In every header: a text of at most 46 octets that does not end with a NUL is read back once it
is stored, whatever stands behind it. And whatever the header holds, its string is the reading of
the units that the length counts, of 23 at most, without the NULs at the end. -/
theorem usbString_reads_units (h : FirmwareHeader) :
    (∀ (t : String) (rest : List UInt8), (Utf16.octets t).length ≤ 46 →
      t.toList.getLast? ≠ some '\x00' → (h.storing (Utf16.octets t) rest).usbString = t) ∧
    ∃ (us : List UInt16) (cs : List Char) (nuls : Nat),
      us.length = min (h.stringLength.toNat - 2) 46 / 2 ∧
      us.flatMap Word.le16 = h.stringUnits.toList.take (2 * us.length) ∧
      Utf16.Reads us cs ∧
      cs = h.usbString.toList ++ List.replicate nuls '\x00' ∧
      h.usbString.toList.getLast? ≠ some '\x00' := by
  constructor
  · intro t rest room last
    have units : Utf16.units (Utf16.octets t) = Utf16.encode t.toList := by
      have whole := Utf16.units_append (Utf16.encode t.toList) []
      have none : Utf16.units [] = [] := rfl
      rwa [none, List.append_nil, List.append_nil] at whole
    have keeps : dropEndWhile (· = '\x00') t.toList = t.toList := by
      apply dropEndWhile_of_getLast?
      intro c there nul
      exact last (there.trans (congrArg some (of_decide_eq_true nul)))
    rw [usbString, stringOctets_storing h rest room, units, Utf16.decode_encode, keeps,
      String.ofList_toList]
  · have count := Utf16.length_units h.stringOctets
    rw [length_stringOctets] at count
    obtain ⟨nuls, split⟩ :=
      exists_dropEndWhile_append '\x00' (Utf16.decode (Utf16.units h.stringOctets))
    have shown : h.usbString.toList =
        dropEndWhile (· = '\x00') (Utf16.decode (Utf16.units h.stringOctets)) :=
      String.toList_ofList
    refine ⟨Utf16.units h.stringOctets, _, nuls, count, ?_, Utf16.reads_decode _, ?_, ?_⟩
    · have within (n : Nat) : min (2 * (n / 2)) n = 2 * (n / 2) := by omega
      rw [Utf16.flatMap_units, count, stringOctets, List.take_take, within]
    · rw [shown]
      exact split
    · rw [shown]
      exact getLast?_dropEndWhile_ne '\x00' _

end FirmwareHeader

end PlayerLink
