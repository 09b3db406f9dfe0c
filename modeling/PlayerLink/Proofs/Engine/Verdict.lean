import PlayerLink.Proofs.Engine.Courses
import PlayerLink.Simulation.Playback

/-!
# What an exchange comes to

The functions of the engine are followed call by call on a link that is recorded, each by a theorem
that says which rows of the table of courses it leaves. Together they say that every exchange on
every link takes one of the courses of `Exchanged`, under the next tag. What can be told from the
calls of a course can so be told of every exchange.
-/

namespace PlayerLink

open StatusWrapper

/-! ### Every exchange is in the table -/

namespace Engine

variable {σ : Type} [BulkLink σ]

omit [BulkLink σ] in
/-- The record of a link grows by each call as its caller is told it turned out. -/
theorem ends_onLink_noting {α : Type} (step : StateM σ (Except UsbError α))
    (note : Except UsbError α → LinkCall) (e : Engine (Recorded σ)) :
    Ends (onLink (Recorded.noting step note))
      (fun told e' => Grew Recorded.Grew e [note told] e') e :=
  (gives_onLink _ e).ends ⟨Array.toList_push, rfl⟩

theorem ends_clearHalt_noted (e : Engine (Recorded σ)) :
    Ends clearHalt (fun _ e' => ∃ told, Grew Recorded.Grew e [.clearHalt told] e') e := by
  refine Ends.bind (ends_onLink_noting BulkLink.clearHalt .clearHalt e) ?_
  intro told e' grown
  cases told with
  | ok _ => exact Ends.pure_iff.mpr ⟨_, grown⟩
  | error cause => exact Ends.lift_iff.mpr ⟨_, grown⟩

theorem ends_failFraming_noted (cause : FramingError) (e : Engine (Recorded σ)) :
    Ends (failFraming cause)
      (fun result e' => result = .error (.framing cause) ∧
        ∃ told, Grew Recorded.Grew e [.clearHalt told] e') e := by
  refine Ends.bind_lift (Ends.bind (ends_clearHalt_noted e) ?_)
  intro _ e' cleared
  exact Ends.pure_iff.mpr ⟨rfl, cleared⟩

theorem ends_pairStatus_judged (tag : UInt32) (packet : List UInt8) (e : Engine (Recorded σ)) :
    Ends (pairStatus tag packet)
      (fun result e' => ∃ new, Grew Recorded.Grew e new e' ∧
        Judged tag result (.receive StatusWrapper.size (.ok packet) :: new)) e := by
  have failed (cause : FramingError)
      (row : ∀ told, Judged tag (.error (.framing cause))
        [.receive StatusWrapper.size (.ok packet), .clearHalt told]) :
      Ends (failFraming cause)
        (fun result e' => ∃ new, Grew Recorded.Grew e new e' ∧
          Judged tag result (.receive StatusWrapper.size (.ok packet) :: new)) e := by
    refine (ends_failFraming_noted cause e).mono ?_
    rintro _ e' ⟨rfl, told, grown⟩
    exact ⟨_, grown, row told⟩
  rw [pairStatus]
  cases read : ofOctets? packet with
  | none =>
    refine failed _ (.short fun length => ?_)
    have some := (isSome_ofOctets?_iff packet).mpr length
    rw [read] at some
    cases some
  | some status =>
    -- The engine tests what it has read, the table speaks of the packet.
    obtain ⟨length, same⟩ := toOctets_of_ofOctets? read
    have decoded : layout.decode packet = status := by rw [← same, decode_toOctets]
    by_cases marked : status.IsMarked
    · simp only [not_true_eq_false, marked, if_false]
      have looks : IsStatus packet := (isStatus_of_isMarked read marked).1
      rw [← decoded]
      by_cases foreign : (layout.decode packet).tag ≠ tag
      · simp only [if_pos foreign]
        exact failed _ (.mismatched looks foreign)
      · simp only [if_neg foreign]
        exact Ends.bind_lift (Ends.pure_iff.mpr ⟨[], Recorded.transcript.same e,
          .accepted ⟨looks, Decidable.of_not_not foreign, rfl⟩⟩)
    · simp only [if_pos marked]
      rw [← decoded]
      refine failed _ (.unmarked length fun looks => marked ?_)
      rwa [← isStatus_toOctets_iff, same]

theorem ends_collectStatus_judged (tag : UInt32) (e : Engine (Recorded σ)) :
    Ends (collectStatus tag)
      (fun result e' => ∃ new, Grew Recorded.Grew e new e' ∧ Judged tag result new) e := by
  refine Ends.bind (ends_onLink_noting (BulkLink.receive _) (.receive StatusWrapper.size) e) ?_
  intro told e' grown
  cases told with
  | error cause => exact Ends.pure_iff.mpr ⟨_, grown, .missing cause⟩
  | ok packet =>
    refine (ends_pairStatus_judged tag packet e').mono ?_
    rintro result e'' ⟨new, grown', judged⟩
    exact ⟨_, Recorded.transcript.andThen grown grown', judged⟩

/-- What a data stage comes to: the buffer after it, or the end of the exchange. -/
def Stage (tag : UInt32) (phase : DataPhase) (e : Engine (Recorded σ))
    (moved : Except ExchangeError Unit × List UInt8) (e' : Engine (Recorded σ)) : Prop :=
  ∃ new, Grew Recorded.Grew e new e' ∧
    (moved.1 = .ok () ∧ Moved phase moved.2 new ∨
      ∃ cause, moved.1 = .error cause ∧ Broke tag phase ⟨.error cause, moved.2⟩ new)

theorem ends_statusForData_broke {tag : UInt32} {buffer packet : List UInt8}
    (short : packet.length < buffer.length) (looks : IsStatus packet) (e : Engine (Recorded σ)) :
    Ends (statusForData tag (layout.decode packet))
      (fun cause e' => ∃ new, Grew Recorded.Grew e new e' ∧
        Broke tag (.receive buffer) ⟨.error cause, overlay packet buffer⟩
          (.receive buffer.length (.ok packet) :: new)) e := by
  rw [statusForData]
  by_cases own : (layout.decode packet).tag = tag
  · rw [if_pos own]
    exact Ends.bind_lift
      (Ends.pure_iff.mpr ⟨[], Recorded.transcript.same e, .unsolicited short looks own⟩)
  · rw [if_neg own]
    refine Ends.bind_lift (Ends.bind (ends_clearHalt_noted e) ?_)
    rintro _ e' ⟨told, grown⟩
    exact Ends.pure_iff.mpr ⟨_, grown, .stray short looks own told⟩

theorem ends_receiveData_stage (tag : UInt32) {buffer : List UInt8} (some : buffer ≠ [])
    (e : Engine (Recorded σ)) :
    Ends (receiveData tag buffer) (Stage tag (.receive buffer) e) e := by
  refine Ends.bind (ends_onLink_noting (BulkLink.receive _) (.receive buffer.length) e) ?_
  intro told e' grown
  cases told with
  | error cause => exact Ends.pure_iff.mpr ⟨_, grown, Or.inr ⟨_, rfl, .receive some cause⟩⟩
  | ok packet =>
    by_cases short : packet.length < buffer.length
    · simp only [if_pos short]
      by_cases looks : IsStatus packet
      · simp only [if_pos looks]
        refine Ends.bind (ends_statusForData_broke short looks e') ?_
        rintro cause e'' ⟨new, grown', broke⟩
        exact Ends.pure_iff.mpr
          ⟨_, Recorded.transcript.andThen grown grown', Or.inr ⟨cause, rfl, broke⟩⟩
      · simp only [if_neg looks]
        exact Ends.bind_lift (Ends.pure_iff.mpr
          ⟨_, grown, Or.inl ⟨rfl, .received packet some fun _ => looks⟩⟩)
    · simp only [if_neg short]
      exact Ends.pure_iff.mpr
        ⟨_, grown, Or.inl ⟨rfl, .received packet some fun lt => absurd lt short⟩⟩

theorem ends_sendData_stage (tag : UInt32) {data : List UInt8} (some : data ≠ [])
    (e : Engine (Recorded σ)) :
    Ends (sendData data) (fun moved e' => Stage tag (.send data) e (moved, []) e') e := by
  refine Ends.bind (ends_onLink_noting (BulkLink.send _) (.send data) e) ?_
  intro told e' grown
  cases told with
  | error cause => exact Ends.pure_iff.mpr ⟨_, grown, Or.inr ⟨_, rfl, .send some cause⟩⟩
  | ok taken =>
    have moved : Stage tag (.send data) e (.ok (), []) e' :=
      ⟨_, grown, Or.inl ⟨rfl, .sent taken some⟩⟩
    by_cases short : taken ≠ data.length
    · simp only [if_pos short]
      exact Ends.bind_lift (Ends.pure_iff.mpr moved)
    · simp only [if_neg short]
      exact Ends.pure_iff.mpr moved

theorem ends_moveData_stage (tag : UInt32) (phase : DataPhase) (e : Engine (Recorded σ)) :
    Ends (moveData tag phase) (Stage tag phase e) e := by
  have same := Recorded.transcript.same e
  cases phase with
  | none => exact Ends.pure_iff.mpr ⟨[], same, Or.inl ⟨rfl, .none⟩⟩
  | receive buffer =>
    rw [moveData]
    by_cases empty : buffer = []
    · subst empty
      exact Ends.pure_iff.mpr ⟨[], same, Or.inl ⟨rfl, .receivedNothing⟩⟩
    · rw [if_neg (by simpa using empty)]
      exact ends_receiveData_stage tag empty e
  | send data =>
    rw [moveData]
    by_cases empty : data = []
    · subst empty
      exact Ends.pure_iff.mpr ⟨[], same, Or.inl ⟨rfl, .sentNothing⟩⟩
    · rw [if_neg (by simpa using empty)]
      refine Ends.bind (ends_sendData_stage tag empty e) ?_
      intro moved e' stage
      exact Ends.pure_iff.mpr stage

theorem ends_sendWrapper_noted (w : CommandWrapper) (e : Engine (Recorded σ)) :
    Ends (sendWrapper w)
      (fun sent e' => (∃ cause, sent = .error (.transport cause) ∧
          Grew Recorded.Grew e [.send w.toOctets (.error cause)] e') ∨
        ∃ taken, sent = .ok () ∧ Grew Recorded.Grew e [.send w.toOctets (.ok taken)] e') e := by
  refine Ends.bind_lift
    (Ends.bind (ends_onLink_noting (BulkLink.send _) (.send w.toOctets) e) ?_)
  intro told e' grown
  cases told with
  | error cause => exact Ends.pure_iff.mpr (Or.inl ⟨cause, rfl, grown⟩)
  | ok taken =>
    by_cases short : taken ≠ CommandWrapper.size
    · simp only [if_pos short]
      exact Ends.bind_lift (Ends.pure_iff.mpr (Or.inr ⟨taken, rfl, grown⟩))
    · simp only [if_neg short]
      exact Ends.pure_iff.mpr (Or.inr ⟨taken, rfl, grown⟩)

/-- On every link, an exchange takes one of the courses in the table, under the next tag. -/
theorem ends_execute_exchanged (block : CommandBlock) (fits : block.Fits) (phase : DataPhase)
    (e : Engine (Recorded σ)) :
    Ends (execute block fits phase)
      (fun outcome e' => e'.tag = e.tag + 1 ∧ ∃ new, Recorded.Grew e.link new e'.link ∧
        Exchanged (phase.wrapper (e.tag + 1) block fits) phase outcome new) e := by
  refine (gives_nextTag e).bindEnds ?_
  refine Ends.bind (ends_sendWrapper_noted (phase.wrapper (e.tag + 1) block fits)
    { e with tag := e.tag + 1 }) ?_
  rintro sent e₁ (⟨cause, rfl, grown₁⟩ | ⟨taken, rfl, grown₁⟩)
  · exact Ends.pure_iff.mpr ⟨grown₁.tag, _, grown₁.link, .unsent cause⟩
  refine Ends.bind (ends_moveData_stage (e.tag + 1) phase e₁) ?_
  rintro ⟨moved, buffer⟩ e₂ ⟨new, grown₂, ⟨rfl, transfer⟩ | ⟨cause, rfl, broke⟩⟩
  · refine Ends.bind (ends_collectStatus_judged (e.tag + 1) e₂) ?_
    rintro result e₃ ⟨last, grown₃, judged⟩
    have grown := Recorded.transcript.andThen grown₁ (Recorded.transcript.andThen grown₂ grown₃)
    have row : Exchanged (phase.wrapper (e.tag + 1) block fits) phase ⟨result, buffer⟩
        (.send _ (.ok taken) :: (new ++ last)) :=
      .judged taken transfer judged
    exact Ends.pure_iff.mpr ⟨grown.tag, _, grown.link, row⟩
  · have grown := Recorded.transcript.andThen grown₁ grown₂
    exact Ends.pure_iff.mpr ⟨grown.tag, _, grown.link, .broke taken broke⟩

/-! ### The whole of an exchange -/

/-- What can be told of an exchange from its calls. The wrapper has 31 octets and states the length
of the data. The calls are a course of the table, and of one outcome only; a halt was cleared once
or not at all; and a success is a status that was received last. -/
structure Settled (w : CommandWrapper) (phase : DataPhase) (outcome : Outcome)
    (calls : List LinkCall) : Prop where
  size : w.toOctets.length = CommandWrapper.size
  announced : w.dataLength.toNat = phase.length
  exchanged : Exchanged w phase outcome calls
  decided : ∀ outcome', Exchanged w phase outcome' calls → outcome' = outcome
  halts : LinkCall.halts calls = if ClearsHalt outcome.result then 1 else 0
  success : ∀ status, outcome.result = .ok status ↔ ∃ packet,
    calls.getLast? = some (.receive StatusWrapper.size (.ok packet)) ∧
      Accepted w.tag status packet

/-- On every link, an exchange sends the wrapper of the next tag and makes the calls of one course
of the table, and these decide on what it comes to. -/
theorem execute_settled (block : CommandBlock) (fits : block.Fits) (phase : DataPhase)
    (counted : phase.length < UInt32.size) (e : Engine (Recorded σ)) :
    Ends (execute block fits phase)
      (fun outcome e' => e'.tag = e.tag + 1 ∧ ∃ calls, Recorded.Grew e.link calls e'.link ∧
        Settled (phase.wrapper e'.tag block fits) phase outcome calls) e := by
  refine (ends_execute_exchanged block fits phase e).mono ?_
  rintro outcome e' ⟨tag, calls, grown, exchanged⟩
  have announced : (UInt32.ofNat phase.length).toNat = phase.length :=
    UInt32.toNat_ofNat_of_lt' counted
  rw [← tag] at exchanged
  exact ⟨tag, calls, grown, CommandWrapper.length_toOctets _, announced, exchanged,
    fun _ other => exchanged.unique other rfl, exchanged.halts_eq, exchanged.ok_iff⟩

/-- A link on which a status comes that belongs to no command of the engine, and then one that
belongs to its first. -/
def staleStatus : Recorded Playback where
  link := { reads := [.ok (make 99 0 0).toOctets, .ok (make 1 0 0).toOctets] }

theorem execute_settled_stale :
    Ends (run (.inquiry 0 36) (.receive (List.replicate 36 0)))
      (fun outcome e' => e'.tag = 1 ∧ ∃ calls, Recorded.Grew staleStatus calls e'.link ∧
        Settled (.wrap e'.tag 36 .input (Command.inquiry 0 36).block (Command.block_fits _))
          (.receive (List.replicate 36 0)) outcome calls)
      { link := staleStatus } :=
  execute_settled _ (Command.block_fits _) _ (by decide) { link := staleStatus }

/-- On every link, a status that comes where data were due ends the exchange with a failure, unless
as much as a status was expected. Then it is delivered as the data, and the next packet is judged.
-/
theorem status_in_place_of_data (block : CommandBlock) (fits : block.Fits) (buffer : List UInt8)
    (e : Engine (Recorded σ)) :
    Ends (execute block fits (.receive buffer))
      (fun outcome e' => ∃ calls, Recorded.Grew e.link calls e'.link ∧
        ∀ packet, calls[1]? = some (.receive buffer.length (.ok packet)) →
          packet.length ≤ buffer.length → IsStatus packet →
          (buffer.length ≠ StatusWrapper.size → outcome.result = .error
            (if (layout.decode packet).tag = e.tag + 1
              then .unsolicitedStatus (layout.decode packet).status
              else .strayStatus (e.tag + 1) (layout.decode packet).tag)) ∧
          (buffer.length = StatusWrapper.size → outcome.buffer = packet ∧
            Judged (e.tag + 1) outcome.result (calls.drop 2))) e := by
  refine (ends_execute_exchanged block fits (.receive buffer) e).mono ?_
  rintro outcome e' ⟨-, calls, grown, exchanged⟩
  exact ⟨calls, grown, fun packet => exchanged.of_status_in_data⟩

theorem status_in_place_of_data_stale :
    Ends (run (.inquiry 0 36) (.receive (List.replicate 36 0)))
      (fun outcome _ => outcome.result = .error (.strayStatus 1 99)) { link := staleStatus } := by
  intro log
  obtain ⟨calls, grown, told⟩ := status_in_place_of_data (Command.inquiry 0 36).block
    (Command.block_fits _) (List.replicate 36 0) { link := staleStatus } log
  have came : calls[1]? = some (.receive 36 (.ok (make 99 0 0).toOctets)) := by
    rw [Recorded.Grew, staleStatus, List.nil_append] at grown
    rw [← grown]
    rfl
  exact (told _ came (by decide) (by decide)).1 (by decide)

/-- Where as much as a status is expected, a status of another command is delivered as data. -/
theorem stale_status_delivered :
    ¬ Ends (run .identify (.receive (List.replicate Identity.size 0)))
      (fun outcome e' => ∀ packet,
        e'.link.calls.toList[1]? = some (.receive Identity.size (.ok packet)) →
          IsStatus packet → ∀ status, outcome.result ≠ .ok status)
      { link := staleStatus } := by
  intro never
  refine never {} (make 99 0 0).toOctets ?_ (by decide) 0 ?_
  · rfl
  · rfl

end Engine

end PlayerLink
