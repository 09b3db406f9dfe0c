import PlayerLink.Proofs.Engine.Simulated
import PlayerLink.Proofs.Firmware.Serving
import PlayerLink.Simulation.RuleBook

/-!
# Rules that serve a firmware

A simulated player serves an image if it follows three rules: its name for IDENTIFY, a word that it
is ready, and for a read of a sector the octets of a run that starts at some sector and is
surrounded by a fill. With one more rule in front of these it has a sector that cannot be read.
-/

namespace PlayerLink

open StatusWrapper

theorem Rule.length_imageOctets (base : Nat) (octets : Array UInt8) (fill : UInt8)
    (start count : Nat) : (imageOctets base octets fill start count).length = count := by
  simp only [imageOctets, List.length_append, List.length_replicate, Array.length_toList,
    Array.size_extract]
  omega

theorem Rule.getElem?_imageOctets (base : Nat) (octets : Array UInt8) (fill : UInt8)
    (start : Nat) {count j : Nat} (within : j < count) :
    (imageOctets base octets fill start count)[j]? =
      some (if base ≤ start + j then octets.getD (start + j - base) fill else fill) := by
  simp only [imageOctets]
  by_cases before : start + j < base
  · rw [if_neg (by omega), List.getElem?_append_left (by simp; omega),
      List.getElem?_replicate_of_lt (by omega)]
  · rw [if_pos (by omega), List.getElem?_append_right (by simp; omega), List.length_replicate]
    by_cases inside : start + j - base < octets.size
    · have place : start - base + (j - min count (base - start)) = start + j - base := by omega
      rw [List.getElem?_append_left (by simp; omega), Array.getD_eq_getD_getElem?,
        Array.getElem?_toList, Array.getElem?_extract, if_pos (by omega), place,
        Array.getElem?_eq_getElem inside]
      rfl
    · rw [List.getElem?_append_right (by simp; omega),
        List.getElem?_replicate_of_lt (by simp; omega),
        Array.getD_eq_getD_getElem?, Array.getElem?_eq_none (by omega)]
      rfl

/-- The image that a run of octets makes up from a sector on, with a fill around it. -/
def Image.ofRun (base : Nat) (octets : Array UInt8) (fill : UInt8) : Image := fun sector =>
  Field.ofList sectorSize
    (Rule.imageOctets (base * sectorSize) octets fill (sector.toNat * sectorSize) sectorSize)

theorem Image.toList_ofRun (base : Nat) (octets : Array UInt8) (fill : UInt8) (sector : UInt32) :
    (ofRun base octets fill sector).toList =
      Rule.imageOctets (base * sectorSize) octets fill (sector.toNat * sectorSize) sectorSize := by
  have length := Rule.length_imageOctets (base * sectorSize) octets fill
    (sector.toNat * sectorSize) sectorSize
  rw [ofRun, Field.toList_ofList, zeroPad_of_le (Nat.le_of_eq length.symm),
    List.take_of_length_le (Nat.le_of_eq length)]

/-- What stands at a place of such an image. -/
theorem Image.octetAt_ofRun (base : Nat) (octets : Array UInt8) (fill : UInt8) {n : Nat}
    (addressable : n / sectorSize < UInt32.size) :
    (ofRun base octets fill).octetAt n =
      if base * sectorSize ≤ n then octets.getD (n - base * sectorSize) fill else fill := by
  have sector : (UInt32.ofNat (n / sectorSize)).toNat = n / sectorSize :=
    UInt32.toNat_ofNat_of_lt' addressable
  have place : n / sectorSize * sectorSize + n % sectorSize = n := Nat.div_add_mod' n sectorSize
  have there := Rule.getElem?_imageOctets (base * sectorSize) octets fill
    (n / sectorSize * sectorSize) (Nat.mod_lt n (y := sectorSize) (by decide))
  rw [place] at there
  have listed := Image.toList_ofRun base octets fill (UInt32.ofNat (n / sectorSize))
  rw [sector] at listed
  rw [← listed, Vector.getElem?_toList, Vector.getElem?_eq_getElem (Nat.mod_lt n (by decide)),
    Option.some.injEq] at there
  exact there

/-- Such an image from sector 0 on. -/
theorem Image.octets_ofRun (octets : Array UInt8) (fill : UInt8) {count : Nat}
    (addressable : count / sectorSize < UInt32.size) :
    (ofRun 0 octets fill).octets 0 count =
      octets.toList.take count ++ List.replicate (count - octets.size) fill := by
  apply List.ext_getElem?
  intro j
  by_cases within : j < count
  · have lt : j / sectorSize < UInt32.size :=
      Nat.lt_of_le_of_lt (Nat.div_le_div_right (Nat.le_of_lt within)) addressable
    have octet := octetAt_ofRun 0 octets fill lt
    rw [Nat.zero_mul, if_pos (Nat.zero_le j), Nat.sub_zero, Array.getD_eq_getD_getElem?] at octet
    rw [Image.octets, List.getElem?_map, List.getElem?_range within, Option.map_some, Nat.zero_mul,
      Nat.zero_add, octet]
    by_cases inside : j < octets.size
    · rw [List.getElem?_append_left (by simp; omega), List.getElem?_take_of_lt within,
        Array.getElem?_toList, Array.getElem?_eq_getElem inside]
      rfl
    · rw [List.getElem?_append_right (by simp; omega),
        List.getElem?_replicate_of_lt (by simp; omega), Array.getElem?_eq_none (by omega)]
      rfl
  · rw [List.getElem?_eq_none (by simp; omega), List.getElem?_eq_none (by simp; omega)]

/-- The rules of a player that serves such an image. -/
def RuleBook.firmware (base : Nat) (octets : Array UInt8) (fill : UInt8) : RuleBook where
  rules :=
    [{ opcode := some Command.identify.opcode
       data := .fixed (Identity.compatibleName.toList ++ [0, 0]) },
      { opcode := some Command.initialise.opcode, data := .fixed [Engine.ready] },
      { opcode := some 0x08, data := .image base octets fill }]

/-- The rules of a player that serves such an image but for one sector. -/
def RuleBook.damaged (bad : UInt32) (base : Nat) (octets : Array UInt8) (fill : UInt8) :
    RuleBook where
  rules := { opcode := some 0x08, address := some bad, status := .fixed 1 } ::
    (firmware base octets fill).rules

/-! ### The wrappers of commands -/

/-- The address of a sector read is found again in its wrapper. -/
@[simp] theorem CommandWrapper.address_wrap (lun : UInt8) (sector tag dataLength : UInt32)
    (direction : Direction) :
    (wrap tag dataLength direction (Command.readSector lun sector .logical).block
      (Command.block_fits _)).address = sector := by
  let w := wrap tag dataLength direction (Command.readSector lun sector .logical).block
    (Command.block_fits _)
  have octets : w.command.toList.drop 2 = Word.le32 sector ++ List.replicate 10 0 := rfl
  have vendor : ([0x12, 0x25, 0x28, 0x2A] : List UInt8).contains w.opcode = false := rfl
  show w.address = sector
  rw [address, vendor, octets]
  exact Word.ofLe32_append sector _

namespace RuleBook

variable {base : Nat} {octets : Array UInt8} {fill : UInt8} {w : CommandWrapper}

/-- The first rule that matches answers, and stays as it is if its uses are not counted. -/
theorem respond_first (front : List Rule) {back : List Rule} {r : Rule}
    (others : ∀ rule ∈ front, ¬ rule.Matches w) (own : r.Matches w) (uncounted : r.uses = none)
    (sent : List UInt8) :
    Responder.respond w sent (⟨front ++ r :: back⟩ : RuleBook) =
      (r.replyTo w sent, ⟨front ++ r :: back⟩) := by
  have found : use w (front ++ r :: back) = some (r, front ++ r :: back) := by
    induction front with
    | nil => rw [List.nil_append, use, if_pos own, uncounted, Option.map_none, ← uncounted]
    | cons rule rest ih =>
      rw [List.cons_append, use, if_neg (others rule List.mem_cons_self),
        ih fun rule among => others rule (List.mem_cons_of_mem _ among)]
      rfl
  simp only [Responder.respond, found]

/-- The rule for the sectors of an image answers with the sector that is asked for. -/
theorem replyTo_image (lun : UInt8) (sector tag : UInt32) (sent : List UInt8) :
    ({ opcode := some 0x08, data := .image base octets fill } : Rule).replyTo
        ((Command.readSector lun sector .logical).wrapper tag sectorSize) sent =
      { data := (Image.ofRun base octets fill sector).toList } := by
  rw [Rule.replyTo, Rule.dataFor, Command.wrapper, CommandWrapper.address_wrap, Image.toList_ofRun]
  rfl

end RuleBook

/-! ### The player -/

namespace SimulatedPlayer

/-- A player answers with the data of the first rule that matches, if they fit and the rule has
nothing else to say. -/
theorem answers_first (front : List Rule) {back : List Rule} {r : Rule} {w : CommandWrapper}
    {room : Nat} {data : List UInt8} (input : w.direction = .input)
    (others : ∀ rule ∈ front, ¬ rule.Matches w) (own : r.Matches w) (uncounted : r.uses = none)
    (plain : r.replyTo w [] = { data }) (some : data ≠ []) (fits : data.length ≤ room) :
    Answers w room data (idle (⟨front ++ r :: back⟩ : RuleBook)) (idle ⟨front ++ r :: back⟩) := by
  refine answers_idle input ?_ some fits
  rw [RuleBook.respond_first front others own uncounted, plain]

/-- The player that follows these rules serves the image. -/
theorem serving (lun : UInt8) (base : Nat) (octets : Array UInt8) (fill : UInt8) :
    Serving lun (Image.ofRun base octets fill)
      (· = idle (RuleBook.firmware base octets fill))
      (· = idle (RuleBook.firmware base octets fill))
      (· = idle (RuleBook.firmware base octets fill)) where
  identify := by
    rintro _ tag rfl
    refine ⟨[0, 0], _, by simp, rfl, answers_first [] rfl nofun ?_ rfl rfl (by simp) ?_⟩
    · simp [Rule.Matches, Command.wrapper]
    · simp [Identity.size]
  initialise := by
    rintro _ tag rfl
    refine ⟨_, rfl, answers_first [_] rfl ?_ ?_ rfl rfl (by simp) (by simp)⟩
    · simp [Rule.Matches, Command.wrapper, Command.opcode]
    · simp [Rule.Matches, Command.wrapper]
  read := by
    rintro _ tag sector rfl
    refine ⟨_, rfl, answers_first [_, _] rfl ?_ ?_ rfl (RuleBook.replyTo_image lun sector tag [])
      (Image.toList_ne_nil _ sector) (Nat.le_of_eq Vector.length_toList)⟩
    · simp [Rule.Matches, Command.wrapper, Command.opcode]
    · simp [Rule.Matches, Command.wrapper, Command.opcode]

/-- A player with a sector that cannot be read has the others. -/
theorem answers_damaged (lun : UInt8) {bad sector : UInt32} (tag : UInt32) (base : Nat)
    (octets : Array UInt8) (fill : UInt8) (other : bad ≠ sector) :
    Answers ((Command.readSector lun sector .logical).wrapper tag sectorSize) sectorSize
      (Image.ofRun base octets fill sector).toList (idle (RuleBook.damaged bad base octets fill))
      (idle (RuleBook.damaged bad base octets fill)) := by
  refine answers_first [_, _, _] rfl ?_ ?_ rfl (RuleBook.replyTo_image lun sector tag [])
    (Image.toList_ne_nil _ sector) (Nat.le_of_eq Vector.length_toList)
  · simp [Rule.Matches, other, Command.wrapper, Command.opcode]
  · simp [Rule.Matches, Command.wrapper, Command.opcode]

/-- A player with a sector that cannot be read follows every script without it. -/
theorem scripted_damaged (lun : UInt8) (bad : UInt32) (base : Nat) (octets : Array UInt8)
    (fill : UInt8) {script : List UInt32} (spared : bad ∉ script) :
    Scripted lun (Image.ofRun base octets fill) script
      (fun e => e.link = idle (RuleBook.damaged bad base octets fill))
      (fun e => e.link = idle (RuleBook.damaged bad base octets fill))
      (fun left e => e.link = idle (RuleBook.damaged bad base octets fill) ∧ bad ∉ left) where
  identify := by
    rintro ⟨_, tag⟩ rfl
    refine ⟨[0, 0], _, by simp, rfl, answers_first [_] rfl ?_ ?_ rfl rfl (by simp) ?_⟩
    · simp [Rule.Matches, Command.wrapper, Command.opcode]
    · simp [Rule.Matches, Command.wrapper]
    · simp [Identity.size]
  initialise := by
    rintro ⟨_, tag⟩ rfl
    refine ⟨_, ⟨rfl, spared⟩, answers_first [_, _] rfl ?_ ?_ rfl rfl (by simp) (by simp)⟩
    · simp [Rule.Matches, Command.wrapper, Command.opcode]
    · simp [Rule.Matches, Command.wrapper]
  read := by
    rintro ⟨_, tag⟩ sector rest ⟨idle, left⟩
    cases idle
    rw [List.mem_cons, not_or] at left
    obtain ⟨other, others⟩ := left
    exact ⟨_, ⟨rfl, others⟩, answers_damaged lun (tag + 1) base octets fill other⟩

/-- In place of this sector it has a status only. -/
theorem declines_damaged (lun : UInt8) (bad tag : UInt32) (base : Nat) (octets : Array UInt8)
    (fill : UInt8) :
    Declines ((Command.readSector lun bad .logical).wrapper tag sectorSize) sectorSize
      (idle (RuleBook.damaged bad base octets fill))
      (idle (RuleBook.damaged bad base octets fill)) := by
  have own : ({ opcode := some 0x08, address := some bad, status := .fixed 1 } : Rule).Matches
      ((Command.readSector lun bad .logical).wrapper tag sectorSize) := by
    simp [Rule.Matches, Command.wrapper, Command.opcode]
  exact declines_idle rfl (RuleBook.respond_first [] nofun own rfl []) (by decide)

end SimulatedPlayer

end PlayerLink
