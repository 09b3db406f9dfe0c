import PlayerLink.Layout

/-!
# Status wrappers

A device ends every command with a wrapper of exactly 13 octets: a signature, the tag of the
command, how many octets of the announced data it left over, and a status of which 0 means
success. The signature is kept as received, so that a foreign packet can be told from one
that answers another command.
-/

namespace PlayerLink

/-- The end of a command as the device reports it. -/
structure StatusWrapper where
  signature : UInt32
  tag : UInt32
  residue : UInt32
  status : UInt8
  deriving DecidableEq, Repr

namespace StatusWrapper

/-- Marks a packet as a status wrapper. -/
def mark : UInt32 := 0x53425355

/-- A status wrapper is always this long. -/
def size : Nat := 13

/-- A well-formed status. -/
def make (tag residue : UInt32) (status : UInt8) : StatusWrapper where
  signature := mark
  tag
  residue
  status

/-- How a status fills its octets. -/
def layout : Layout StatusWrapper :=
  (Layout.word32.pair <| Layout.word32.pair <| Layout.word32.pair Layout.octet).via
    (fun s => (s.signature, s.tag, s.residue, s.status))
    (fun (signature, tag, residue, status) => { signature, tag, residue, status })
    (fun _ => rfl) (fun _ => rfl)

/-- The octets of a status. -/
def toOctets (s : StatusWrapper) : List UInt8 := layout.encode s

/-- Reads any packet of the right length. -/
def ofOctets? (bs : List UInt8) : Option StatusWrapper :=
  if bs.length = size then some (layout.decode bs) else none

/-- Whether the signature is the right one. -/
def IsMarked (s : StatusWrapper) : Prop := s.signature = mark

instance (s : StatusWrapper) : Decidable s.IsMarked := inferInstanceAs (Decidable (_ = _))

/-- Whether a packet looks like a status: the right length and the right signature. -/
def IsStatus (bs : List UInt8) : Prop := bs.length = size ∧ bs.take 4 = Word.le32 mark

instance (bs : List UInt8) : Decidable (IsStatus bs) := inferInstanceAs (Decidable (_ ∧ _))

@[simp] theorem length_toOctets (s : StatusWrapper) : s.toOctets.length = size :=
  layout.length_encode s

end StatusWrapper

end PlayerLink
