import PlayerLink.Text.Numeral

/-!
# Values on the command line

Sector numbers are written in decimal, or in hexadecimal after `0x`. A device is named by its
vendor and product id, both hexadecimal, with a colon between them.
-/

namespace PlayerLink

open Text

/-- Why a text is no sector number. -/
inductive NumberError where
  | hexadecimal
  | decimal
  deriving DecidableEq, Repr

/-- The text of the complaint. -/
def NumberError.message : NumberError → String
  | hexadecimal => "invalid hex number"
  | decimal => "invalid decimal number"

/-- The 32-bit number that a text stands for in the given base. -/
def readWord (base : Nat) (cs : List Char) : Option UInt32 :=
  (Numeral.readUpTo base 0xFFFFFFFF cs).map UInt32.ofNat

/-- Reads a number: in hexadecimal after `0x` or `0X`, else in decimal. -/
def readNumber (s : String) : Except NumberError UInt32 :=
  match s.toList with
  | '0' :: 'x' :: digits | '0' :: 'X' :: digits =>
    (readWord 16 digits).elim (.error .hexadecimal) .ok
  | digits => (readWord 10 digits).elim (.error .decimal) .ok

/-- The ids of a device. -/
structure DeviceId where
  vendorId : UInt16
  productId : UInt16
  deriving DecidableEq, Repr

/-- The ids as they are written, four digits each. -/
def DeviceId.text (d : DeviceId) : String :=
  s!"{Numeral.hexUpper 4 d.vendorId.toNat}:{Numeral.hexUpper 4 d.productId.toNat}"

/-- Why a text names no device. -/
inductive DeviceIdError where
  | shape
  | vendor
  | product
  | null
  deriving DecidableEq, Repr

/-- The text of the complaint. -/
def DeviceIdError.message : DeviceIdError → String
  | shape => "expected VVVV:PPPP"
  | vendor => "invalid vendor id"
  | product => "invalid product id"
  | null => "0000:0000 is not a valid device"

namespace DeviceId

/-- A half of the text must take one to four octets in UTF-8. -/
def HalfFits (half : List Char) : Prop :=
  let size := (String.ofList half).utf8ByteSize
  0 < size ∧ size ≤ 4

instance (half : List Char) : Decidable (HalfFits half) :=
  inferInstanceAs (Decidable (_ ∧ _))

/-- The 16-bit id that one half of the text stands for. -/
def readHalf (half : List Char) : Option UInt16 :=
  (Numeral.readUpTo 16 0xFFFF half).map UInt16.ofNat

/-- Reads the ids of a device. The first colon separates the halves. -/
def read (s : String) : Except DeviceIdError DeviceId :=
  let vendor := s.toList.takeWhile (· ≠ ':')
  match s.toList.dropWhile (· ≠ ':') with
  | [] => .error .shape
  | _ :: product =>
    if ¬ (HalfFits vendor ∧ HalfFits product) then .error .shape
    else
      match readHalf vendor, readHalf product with
      | none, _ => .error .vendor
      | some _, none => .error .product
      | some vendorId, some productId =>
        if vendorId = 0 ∧ productId = 0 then .error .null else .ok ⟨vendorId, productId⟩

end DeviceId

end PlayerLink
