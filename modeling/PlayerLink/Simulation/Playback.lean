import PlayerLink.Usb.Link

/-!
# Links that replay

A playback has the outcomes of the calls to come, in order, one list for each kind of call.
It takes no notice of what is sent. Of reads that were not foreseen nothing comes, and other
calls succeed.
-/

namespace PlayerLink

/-- How a send turns out. -/
inductive SendStep where
  | all
  /-- This many octets are said to be taken. -/
  | taken (count : Nat)
  | fail (cause : UsbError)
  deriving DecidableEq, Repr

/-- The outcomes of the calls to come. -/
structure Playback where
  reads : List (Except UsbError (List UInt8)) := []
  sends : List SendStep := []
  halts : List (Option UsbError) := []

namespace Playback

instance : BulkLink Playback where
  send data := fun p =>
    let outcome := match p.sends.head?.getD .all with
      | .all => .ok data.length
      | .taken count => .ok count
      | .fail e => .error e
    (outcome, { p with sends := p.sends.tail })
  receive room := fun p =>
    let outcome := match p.reads with
      | [] => .error .timeout
      | .error e :: _ => .error e
      | .ok packet :: _ => if packet.length ≤ room then .ok packet else .error .overflow
    (outcome, { p with reads := p.reads.tail })
  clearHalt := fun p =>
    let outcome := match p.halts.head?.join with
      | some e => .error e
      | none => .ok ()
    (outcome, { p with halts := p.halts.tail })

end Playback

/-- A link of either kind. -/
instance {α β : Type} [BulkLink α] [BulkLink β] : BulkLink (α ⊕ β) where
  send data
    | .inl a => let (outcome, a) := BulkLink.send data a; (outcome, .inl a)
    | .inr b => let (outcome, b) := BulkLink.send data b; (outcome, .inr b)
  receive room
    | .inl a => let (outcome, a) := BulkLink.receive room a; (outcome, .inl a)
    | .inr b => let (outcome, b) := BulkLink.receive room b; (outcome, .inr b)
  clearHalt
    | .inl a => let (outcome, a) := BulkLink.clearHalt a; (outcome, .inl a)
    | .inr b => let (outcome, b) := BulkLink.clearHalt b; (outcome, .inr b)

end PlayerLink
