import PlayerLink.Simulation.Player
import PlayerLink.Command

/-!
# Players that follow rules

A rule book answers a command by the first of its rules that matches. A rule names the
operation, the logical unit and the address it is for, any of which may be left open, and may
be good for a number of uses only. A command that no rule matches fails.
-/

namespace PlayerLink

/-- Where the data of a reply come from. -/
inductive ReplyData where
  | fixed (data : List UInt8)
  /-- As much of an image as the command asks for, from the command's address on, where the
  image starts at sector `base` and is surrounded by `fill`. -/
  | image (base : Nat) (octets : Array UInt8) (fill : UInt8)
  /-- As many octets as the command asks for, each the low octet of its address. -/
  | address

/-- Where the status of a reply comes from. -/
inductive ReplyStatus where
  | fixed (status : UInt8)
  /-- The first octet that the host sent, 0 if it sent none. -/
  | echo

/-- Which tag a reply carries. -/
inductive ReplyTag where
  | own
  | fixed (tag : UInt32)
  /-- The command's own and this much more, wrapping around. -/
  | shifted (amount : UInt32)

/-- How to answer the commands that match. -/
structure Rule where
  opcode : Option UInt8 := none
  lun : Option UInt8 := none
  address : Option UInt32 := none
  /-- How often the rule may still be used, if that is limited. -/
  uses : Option Nat := none
  data : ReplyData := .fixed []
  status : ReplyStatus := .fixed 0
  tag : ReplyTag := .own

/-- Rules in the order in which they are tried. -/
structure RuleBook where
  rules : List Rule := []

/-- The address in a command: octets 2 to 5, in the order of the command's family. -/
def CommandWrapper.address (w : CommandWrapper) : UInt32 :=
  let bs := w.command.toList.drop 2
  if [0x12, 0x25, 0x28, 0x2A].contains w.opcode then Word.ofBe32 bs else Word.ofLe32 bs

namespace Rule

/-- Whether a rule is for a command and may still be used. -/
def Matches (r : Rule) (w : CommandWrapper) : Prop :=
  r.uses ≠ some 0 ∧ (∀ op ∈ r.opcode, op = w.opcode) ∧ (∀ lun ∈ r.lun, lun = w.lun) ∧
    (∀ address ∈ r.address, address = w.address)

-- Looks at what a rule names only, not at every octet and every address there is.
instance (r : Rule) (w : CommandWrapper) : Decidable (r.Matches w) :=
  letI {α : Type} [DecidableEq α] (named : Option α) (a : α) : Decidable (∀ b ∈ named, b = a) :=
    Option.decidableForallMem named
  inferInstanceAs (Decidable (_ ∧ _ ∧ _ ∧ _))

/-- Octets from `start` on of an endless run that is an image from `base` on and `fill`
elsewhere. -/
def imageOctets (base : Nat) (octets : Array UInt8) (fill : UInt8) (start count : Nat) :
    List UInt8 :=
  let ahead := min count (base - start)
  let inside := (octets.extract (start - base) (start - base + (count - ahead))).toList
  List.replicate ahead fill ++ (inside ++ List.replicate (count - ahead - inside.length) fill)

/-- The data for a command. -/
def dataFor (r : Rule) (w : CommandWrapper) : List UInt8 :=
  let count := w.dataLength.toNat
  match r.data with
  | .fixed data => data
  | .address => List.replicate count w.address.toUInt8
  | .image base octets fill =>
    imageOctets (base * sectorSize) octets fill (w.address.toNat * sectorSize) count

/-- The reply to a command. -/
def replyTo (r : Rule) (w : CommandWrapper) (sent : List UInt8) : Reply where
  data := r.dataFor w
  status := match r.status with
    | .fixed status => status
    | .echo => sent.headD 0
  tag := match r.tag with
    | .own => none
    | .fixed tag => some tag
    | .shifted amount => some (w.tag + amount)

end Rule

namespace RuleBook

/-- The first rule that matches, and the rules after it was used. -/
def use (w : CommandWrapper) : List Rule → Option (Rule × List Rule)
  | [] => none
  | r :: rest =>
    if r.Matches w then some (r, { r with uses := r.uses.map (· - 1) } :: rest)
    else (use w rest).map fun (found, rest) => (found, r :: rest)

instance : Responder RuleBook where
  respond w sent := fun b =>
    match use w b.rules with
    | some (r, rules) => (r.replyTo w sent, ⟨rules⟩)
    | none => ({ status := 1 }, b)

end RuleBook

end PlayerLink
