import PlayerLink.Layout
import PlayerLink.Text.Stored

/-!
# What devices answer

* To INQUIRY a device describes itself in 36 octets: what kind of peripheral it is, which
  standards it follows, and three text fields filled up with blanks.
* To READ CAPACITY it gives two words with the most significant octet first: the last block's
  address and the length of a block. The number of blocks is one more than the last address, so
  it and the total size are natural numbers rather than words.
* To IDENTIFY a compatible player gives its eleven-character name, an octet that is not zero
  while its boot code waits for an update, and an octet of unknown meaning.
-/

namespace PlayerLink

/-! ### INQUIRY -/

/-- The kind of a peripheral. -/
inductive PeripheralType where
  | disk
  | opticalDisc
  | opticalMemory
  | simplifiedDisk
  | other (code : UInt8)
  deriving DecidableEq, Repr

namespace PeripheralType

/-- The kind that a code stands for. -/
def ofCode (code : UInt8) : PeripheralType :=
  if code = 0x00 then disk
  else if code = 0x05 then opticalDisc
  else if code = 0x07 then opticalMemory
  else if code = 0x0E then simplifiedDisk
  else other code

/-- The code of a kind. -/
def code : PeripheralType → UInt8
  | disk => 0x00
  | opticalDisc => 0x05
  | opticalMemory => 0x07
  | simplifiedDisk => 0x0E
  | other code => code

/-- The kind in words. -/
def description : PeripheralType → String
  | disk => "direct access block device"
  | opticalDisc => "CD/DVD device"
  | opticalMemory => "optical memory device"
  | simplifiedDisk => "simplified direct access device"
  | other _ => "unknown"

@[simp] theorem code_ofCode (c : UInt8) : (ofCode c).code = c := by
  unfold ofCode
  repeat' split
  all_goals simp_all [code]

end PeripheralType

/-- What a device says about itself. -/
structure Inquiry where
  peripheral : PeripheralType
  removable : Bool
  isoVersion : UInt8
  ecmaVersion : UInt8
  ansiVersion : UInt8
  responseFormat : UInt8
  /-- The number of octets that follow octet 4, as the device states it. -/
  additionalLength : UInt8
  vendorField : Field 8
  productField : Field 16
  revisionField : Field 4
  deriving DecidableEq, Repr

namespace Inquiry

/-- The standard answer is this long. -/
def size : Nat := 36

/-- Reads an answer; octets past the standard ones are left alone. -/
def ofOctets? (bs : List UInt8) : Option Inquiry :=
  if size ≤ bs.length then
    let octet (i : Nat) : UInt8 := bs.getD i 0
    some {
      peripheral := .ofCode (octet 0 &&& 0x1F)
      removable := octet 1 &&& 0x80 ≠ 0
      isoVersion := octet 2 >>> 6
      ecmaVersion := (octet 2 >>> 3) &&& 0x07
      ansiVersion := octet 2 &&& 0x07
      responseFormat := octet 3 &&& 0x0F
      additionalLength := octet 4
      vendorField := .ofList 8 (bs.drop 8)
      productField := .ofList 16 (bs.drop 16)
      revisionField := .ofList 4 (bs.drop 32) }
  else none

/-- The text of a field without the blanks around it. -/
def fieldText {n : Nat} (f : Field n) : String :=
  String.ofList (Text.trim (Text.Utf8.decode f.toList))

def vendor (i : Inquiry) : String := fieldText i.vendorField

def product (i : Inquiry) : String := fieldText i.productField

def revision (i : Inquiry) : String := fieldText i.revisionField

end Inquiry

/-! ### READ CAPACITY -/

/-- The size of a medium. -/
structure Capacity where
  lastBlock : UInt32
  blockLength : UInt32
  deriving DecidableEq, Repr

namespace Capacity

/-- The answer is this long. -/
def size : Nat := 8

/-- Reads an answer; octets past the first eight are left alone. -/
def ofOctets? (bs : List UInt8) : Option Capacity :=
  if size ≤ bs.length then some ⟨Word.ofBe32 bs, Word.ofBe32 (bs.drop 4)⟩ else none

def blockCount (c : Capacity) : Nat := c.lastBlock.toNat + 1

def totalOctets (c : Capacity) : Nat := c.blockCount * c.blockLength.toNat

end Capacity

/-! ### IDENTIFY -/

/-- What a player says it is. -/
structure Identity where
  name : Field 11
  updateMode : UInt8
  unknown : UInt8
  deriving DecidableEq, Repr

namespace Identity

/-- The answer is this long. -/
def size : Nat := 13

/-- The name that every compatible player gives: `ACTIONSUSBD`. -/
def compatibleName : Field 11 :=
  #v[0x41, 0x43, 0x54, 0x49, 0x4F, 0x4E, 0x53, 0x55, 0x53, 0x42, 0x44]

/-- Reads an answer; octets past the first thirteen are left alone. -/
def ofOctets? (bs : List UInt8) : Option Identity :=
  if size ≤ bs.length then
    some ⟨.ofList 11 bs, bs.getD 11 0, bs.getD 12 0⟩
  else none

/-- Whether the name is that of a compatible player. -/
def IsCompatible (i : Identity) : Prop := i.name = compatibleName

instance (i : Identity) : Decidable i.IsCompatible := inferInstanceAs (Decidable (_ = _))

/-- The name as text. -/
def nameText (i : Identity) : String := String.ofList (Text.Utf8.decode i.name.toList)

end Identity

end PlayerLink
