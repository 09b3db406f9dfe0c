import PlayerLink.Proofs.Engine.Transcript

/-!
# The courses of an exchange

`Exchanged` is the table of all courses that an exchange can take on a link: the calls in order,
each with how it turned out, and the outcome. There is one row for a wrapper that was not sent,
`Broke` has those for a data stage that ends the exchange, and `Judged` those for the packet in the
place of the status.

The calls of a row decide on its outcome, so it can be read off the table when a halt is cleared,
when an exchange succeeds, and what becomes of a status that comes where data were due.
-/

namespace PlayerLink

open StatusWrapper

/-- A data stage that ends its exchange: its transfer fails, or a status comes that is shorter than
what was expected. -/
inductive Broke (tag : UInt32) : DataPhase → Outcome → List LinkCall → Prop
  | receive {buffer : List UInt8} (some : buffer ≠ []) (cause : UsbError) :
    Broke tag (.receive buffer) ⟨.error (.transport cause), buffer⟩
      [.receive buffer.length (.error cause)]
  | send {data : List UInt8} (some : data ≠ []) (cause : UsbError) :
    Broke tag (.send data) ⟨.error (.transport cause), []⟩ [.send data (.error cause)]
  | unsolicited {buffer packet : List UInt8} (short : packet.length < buffer.length)
    (looks : IsStatus packet) (own : (layout.decode packet).tag = tag) :
    Broke tag (.receive buffer)
      ⟨.error (.unsolicitedStatus (layout.decode packet).status), overlay packet buffer⟩
      [.receive buffer.length (.ok packet)]
  | stray {buffer packet : List UInt8} (short : packet.length < buffer.length)
    (looks : IsStatus packet) (foreign : (layout.decode packet).tag ≠ tag)
    (told : Except UsbError Unit) :
    Broke tag (.receive buffer)
      ⟨.error (.strayStatus tag (layout.decode packet).tag), overlay packet buffer⟩
      [.receive buffer.length (.ok packet), .clearHalt told]

/-- What is made of the packet in the place of the status. Its length is tested first, then its
signature, then its tag. -/
inductive Judged (tag : UInt32) : Except ExchangeError UInt8 → List LinkCall → Prop
  | missing (cause : UsbError) :
    Judged tag (.error (.transport cause)) [.receive StatusWrapper.size (.error cause)]
  | short {packet : List UInt8} (length : packet.length ≠ StatusWrapper.size)
    (told : Except UsbError Unit) :
    Judged tag (.error (.framing (.shortStatus packet.length)))
      [.receive StatusWrapper.size (.ok packet), .clearHalt told]
  | unmarked {packet : List UInt8} (length : packet.length = StatusWrapper.size)
    (unmarked : ¬ IsStatus packet) (told : Except UsbError Unit) :
    Judged tag (.error (.framing (.badSignature (layout.decode packet).signature)))
      [.receive StatusWrapper.size (.ok packet), .clearHalt told]
  | mismatched {packet : List UInt8} (looks : IsStatus packet)
    (foreign : (layout.decode packet).tag ≠ tag) (told : Except UsbError Unit) :
    Judged tag (.error (.framing (.tagMismatch tag (layout.decode packet).tag)))
      [.receive StatusWrapper.size (.ok packet), .clearHalt told]
  | accepted {status : UInt8} {packet : List UInt8} (accepted : Accepted tag status packet) :
    Judged tag (.ok status) [.receive StatusWrapper.size (.ok packet)]

/-- The whole of an exchange: the wrapper goes out; the data are moved, if there are any; the packet
in the place of the status is judged. -/
inductive Exchanged (w : CommandWrapper) (phase : DataPhase) : Outcome → List LinkCall → Prop
  | unsent (cause : UsbError) :
    Exchanged w phase ⟨.error (.transport cause), phase.buffer⟩ [.send w.toOctets (.error cause)]
  | broke {outcome : Outcome} {calls : List LinkCall} (taken : Nat)
    (broke : Broke w.tag phase outcome calls) :
    Exchanged w phase outcome (.send w.toOctets (.ok taken) :: calls)
  | judged {buffer : List UInt8} {result : Except ExchangeError UInt8}
    {transfer last : List LinkCall} (taken : Nat) (moved : Moved phase buffer transfer)
    (judged : Judged w.tag result last) :
    Exchanged w phase ⟨result, buffer⟩ (.send w.toOctets (.ok taken) :: (transfer ++ last))

/-! ### What the calls of a row say -/

/-- The outcomes for which a halt is cleared. -/
def ClearsHalt : Except ExchangeError UInt8 → Prop
  | .error (.strayStatus ..) | .error (.framing _) => True
  | _ => False

instance : DecidablePred ClearsHalt := fun result => by
  unfold ClearsHalt
  split <;> infer_instance

/-- How often a halt was cleared. -/
abbrev LinkCall.halts (calls : List LinkCall) : Nat := calls.countP isClearHalt

namespace Moved

variable {phase : DataPhase} {buffer buffer' : List UInt8} {transfer transfer' : List LinkCall}

theorem halts_eq_zero (h : Moved phase buffer transfer) : LinkCall.halts transfer = 0 := by
  cases h <;> rfl

/-- Whatever follows, it shows what was moved. -/
theorem unique {last last' : List LinkCall} (h : Moved phase buffer transfer)
    (h' : Moved phase buffer' transfer') (same : transfer ++ last = transfer' ++ last') :
    buffer' = buffer ∧ last' = last := by
  cases h with
  | none =>
    cases h'
    exact ⟨rfl, same.symm⟩
  | receivedNothing =>
    cases h' with
    | receivedNothing => exact ⟨rfl, same.symm⟩
    | received _ some => exact absurd rfl some
  | received packet some =>
    cases h' with
    | receivedNothing => exact absurd rfl some
    | received packet' =>
      cases same
      exact ⟨rfl, rfl⟩
  | sentNothing =>
    cases h' with
    | sentNothing => exact ⟨rfl, same.symm⟩
    | sent _ some => exact absurd rfl some
  | sent taken some =>
    cases h' with
    | sentNothing => exact absurd rfl some
    | sent taken' =>
      cases same
      exact ⟨rfl, rfl⟩

end Moved

namespace Broke

variable {tag : UInt32} {phase : DataPhase} {outcome outcome' : Outcome} {calls : List LinkCall}

theorem unique (h : Broke tag phase outcome calls) (h' : Broke tag phase outcome' calls) :
    outcome' = outcome := by
  cases h with
  | receive some cause =>
    cases h'
    rfl
  | send some cause =>
    cases h'
    rfl
  | unsolicited short looks own =>
    cases h'
    rfl
  | stray short looks foreign told =>
    cases h'
    rfl

theorem halts_eq (h : Broke tag phase outcome calls) :
    LinkCall.halts calls = if ClearsHalt outcome.result then 1 else 0 := by
  cases h <;> rfl

/-- A stage that ended the exchange is not one that moved the data. -/
theorem not_moved {buffer : List UInt8} {transfer last : List LinkCall}
    {result : Except ExchangeError UInt8} (h : Broke tag phase outcome calls)
    (moved : Moved phase buffer transfer) (judged : Judged tag result last) :
    calls ≠ transfer ++ last := by
  intro same
  cases h with
  | receive some cause =>
    cases moved with
    | receivedNothing => exact some rfl
    | received => cases same
  | send some cause =>
    cases moved with
    | sentNothing => exact some rfl
    | sent => cases same
  | unsolicited short looks own =>
    cases moved with
    | receivedNothing => exact Nat.not_lt_zero _ short
    | received =>
      cases same
      cases judged
  | stray short looks foreign told =>
    cases moved with
    | receivedNothing => exact Nat.not_lt_zero _ short
    | received =>
      cases same
      cases judged

theorem result_ne_ok (h : Broke tag phase outcome calls) (status : UInt8) :
    outcome.result ≠ .ok status := by
  cases h <;> nofun

/-- The last packet is not in the place of the status. -/
theorem not_collected {packet : List UInt8} (h : Broke tag phase outcome calls) (first : LinkCall) :
    (first :: calls).getLast? ≠ some (.receive StatusWrapper.size (.ok packet)) := by
  intro final
  cases h with
  | receive some cause =>
    injection final with call
    injection call with _ told
    cases told
  | send some cause => cases final
  | unsolicited short looks own =>
    injection final with call
    injection call with room
    have length := looks.1
    omega
  | stray short looks foreign told => cases final

end Broke

namespace Judged

variable {tag : UInt32} {result result' : Except ExchangeError UInt8} {last : List LinkCall}

theorem unique (h : Judged tag result last) (h' : Judged tag result' last) : result' = result := by
  cases h with
  | missing cause =>
    cases h'
    rfl
  | short length told =>
    cases h' with
    | short => rfl
    | unmarked length' => exact absurd length' length
    | mismatched looks => exact absurd looks.1 length
  | unmarked length unmarked told =>
    cases h' with
    | short length' => exact absurd length length'
    | unmarked => rfl
    | mismatched looks => exact absurd looks unmarked
  | mismatched looks foreign told =>
    cases h' with
    | short length' => exact absurd looks.1 length'
    | unmarked _ unmarked => exact absurd looks unmarked
    | mismatched => rfl
  | accepted accepted =>
    cases h' with
    | accepted accepted' => rw [← accepted.status, ← accepted'.status]

theorem halts_eq (h : Judged tag result last) :
    LinkCall.halts last = if ClearsHalt result then 1 else 0 := by
  cases h <;> rfl

theorem getLast?_append (h : Judged tag result last) (front : List LinkCall) :
    (front ++ last).getLast? = last.getLast? := by
  rw [List.getLast?_append]
  cases h <;> rfl

theorem ok_iff (h : Judged tag result last) (status : UInt8) :
    result = .ok status ↔ ∃ packet,
      last.getLast? = some (.receive StatusWrapper.size (.ok packet)) ∧
        Accepted tag status packet := by
  constructor
  · rintro rfl
    cases h with
    | accepted accepted => exact ⟨_, rfl, accepted⟩
  · rintro ⟨packet, final, own⟩
    cases h with
    | missing => cases final
    | short => cases final
    | unmarked => cases final
    | mismatched => cases final
    | accepted accepted =>
      cases final
      rw [← accepted.status, ← own.status]

end Judged

namespace Exchanged

variable {w : CommandWrapper} {phase : DataPhase} {outcome outcome' : Outcome}
variable {calls calls' : List LinkCall}

/-- The calls decide on the outcome. -/
theorem unique (h : Exchanged w phase outcome calls) (h' : Exchanged w phase outcome' calls')
    (same : calls = calls') : outcome' = outcome := by
  -- The calls are compared row by row, because where a transfer ends is not seen from the list.
  cases h with
  | unsent cause =>
    cases h' with
    | unsent =>
      cases same
      rfl
    | broke => cases same
    | judged => cases same
  | broke taken broke =>
    cases h' with
    | unsent => cases same
    | broke _ broke' =>
      obtain ⟨-, rfl⟩ := List.cons.inj same
      exact broke.unique broke'
    | judged _ moved judged =>
      exact absurd (List.cons.inj same).2 (broke.not_moved moved judged)
  | judged taken moved judged =>
    cases h' with
    | unsent => cases same
    | broke _ broke => exact absurd (List.cons.inj same).2.symm (broke.not_moved moved judged)
    | judged _ moved' judged' =>
      obtain ⟨rfl, rfl⟩ := moved.unique moved' (List.cons.inj same).2
      rw [judged.unique judged']

theorem halts_eq (h : Exchanged w phase outcome calls) :
    LinkCall.halts calls = if ClearsHalt outcome.result then 1 else 0 := by
  cases h with
  | unsent cause => rfl
  | broke taken broke => exact broke.halts_eq
  | @judged _ _ transfer last taken moved judged =>
    have split : LinkCall.halts (.send w.toOctets (.ok taken) :: (transfer ++ last)) =
        LinkCall.halts transfer + LinkCall.halts last :=
      List.countP_append
    rw [split, moved.halts_eq_zero, judged.halts_eq, Nat.zero_add]

/-- It succeeds exactly if the last thing received is a status with its tag, in its place. -/
theorem ok_iff (h : Exchanged w phase outcome calls) (status : UInt8) :
    outcome.result = .ok status ↔ ∃ packet,
      calls.getLast? = some (.receive StatusWrapper.size (.ok packet)) ∧
        Accepted w.tag status packet := by
  cases h with
  | unsent cause =>
    refine ⟨nofun, ?_⟩
    rintro ⟨packet, final, -⟩
    cases final
  | broke taken broke =>
    refine ⟨fun ok => absurd ok (broke.result_ne_ok status), ?_⟩
    rintro ⟨packet, final, -⟩
    exact absurd final (broke.not_collected _)
  | @judged _ _ transfer last taken moved judged =>
    rw [← List.cons_append, judged.getLast?_append]
    exact judged.ok_iff status

/-- A status that comes where data were due is reported as one, unless it is just as long as the
data. Then it fills the buffer, counts as the data, and the status is the next packet. -/
theorem of_status_in_data {buffer packet : List UInt8}
    (h : Exchanged w (.receive buffer) outcome calls)
    (came : calls[1]? = some (.receive buffer.length (.ok packet)))
    (room : packet.length ≤ buffer.length) (looks : IsStatus packet) :
    (buffer.length ≠ StatusWrapper.size → outcome.result = .error
      (if (layout.decode packet).tag = w.tag
        then .unsolicitedStatus (layout.decode packet).status
        else .strayStatus w.tag (layout.decode packet).tag)) ∧
    (buffer.length = StatusWrapper.size → outcome.buffer = packet ∧
      Judged w.tag outcome.result (calls.drop 2)) := by
  have length : packet.length = StatusWrapper.size := looks.1
  cases h with
  | unsent cause => cases came
  | broke taken broke =>
    cases broke with
    | receive some cause => cases came
    | unsolicited short _ own =>
      cases came
      refine ⟨fun _ => by rw [if_pos own], ?_⟩
      intro same
      omega
    | stray short _ foreign told =>
      cases came
      refine ⟨fun _ => by rw [if_neg foreign], ?_⟩
      intro same
      omega
  | judged taken moved judged =>
    cases moved with
    | receivedNothing =>
      rw [length] at room
      cases room
    | received packet' some noStatus =>
      -- The only packet that was taken for data although it is a status is one that was not short.
      cases came
      constructor
      · intro other
        exact absurd looks (noStatus (by omega))
      · intro same
        exact ⟨overlay_of_length_eq (length.trans same.symm), judged⟩

end Exchanged

end PlayerLink
