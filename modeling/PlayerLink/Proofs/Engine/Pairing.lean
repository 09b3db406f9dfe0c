import PlayerLink.Proofs.Engine.Simulated
import PlayerLink.Simulation.RuleBook

/-!
# Every status is paired with its own command

A player answers each command by packets behind those that still wait, so after a failure the
host may be any number of packets behind. Tags keep it from taking an old status for a new one:
while fewer commands were sent than there are tags, `Backlog` says that no packet that waits is a
status with a later tag, and that the last packet that waits is a status.

An exchange succeeds only with the status that was queued last, so everything that waited before
was taken in the same exchange. That leaves at most one packet for the data, and a status left
over from before is no such packet, because it is either too long for the buffer or short and
recognised. The one length for which it is neither is that of a status.
-/

namespace PlayerLink

open StatusWrapper

/-- What an engine is asked to exchange. -/
structure Exchange where
  block : CommandBlock
  fits : block.Fits
  phase : DataPhase

namespace Exchange

/-- The wrapper that goes out under a tag. -/
def wrapper (tag : UInt32) (x : Exchange) : CommandWrapper :=
  .wrap tag (UInt32.ofNat x.phase.length) x.phase.direction x.block x.fits

/-- The data that go out. -/
def sent (x : Exchange) : List UInt8 :=
  match x.phase with
  | .send data => data
  | _ => []

variable {ρ : Type} [Responder ρ]

/-- What a responder makes of one exchange under a tag: its reply, and the responder after it. -/
def answer (tag : UInt32) (x : Exchange) (responder : ρ) : Reply × ρ :=
  Responder.respond (x.wrapper tag) x.sent responder

/-- The replies of a responder to exchanges that follow a number of others. -/
def replies : Nat → List Exchange → ρ → List Reply
  | _, [], _ => []
  | count, x :: rest, responder =>
    let (reply, responder) := x.answer (UInt32.ofNat (count + 1)) responder
    reply :: replies (count + 1) rest responder

/-- An outcome that goes with a reply: a success gives the status of the reply, and where data
were to come, they are those of the reply. -/
structure Pairs (x : Exchange) (reply : Reply) (outcome : Outcome) : Prop where
  status : ∀ s, outcome.result = .ok s → s = reply.status
  data : ∀ s buffer, outcome.result = .ok s → x.phase = .receive buffer → buffer ≠ [] →
    buffer.length ≠ StatusWrapper.size →
    reply.data ≠ [] ∧ reply.data.length ≤ buffer.length ∧
      outcome.buffer = reply.data ++ buffer.drop reply.data.length

theorem Pairs.of_error {x : Exchange} {reply : Reply} {e : ExchangeError} {buffer : List UInt8} :
    x.Pairs reply ⟨.error e, buffer⟩ :=
  ⟨(fun _ h => by cases h), (fun _ _ h => by cases h)⟩

/-- Outcomes each of which goes with the reply to its own exchange. -/
structure PairsAll (xs : List Exchange) (replies : List Reply) (outcomes : List Outcome) :
    Prop where
  count : outcomes.length = xs.length
  each : ∀ (k : Nat) outcome, outcomes[k]? = some outcome →
    ∃ x reply, xs[k]? = some x ∧ replies[k]? = some reply ∧ Pairs x reply outcome

end Exchange

/-- A reply with the command's own tag, whose data cannot be taken for a status. -/
def Reply.IsPlain (r : Reply) : Prop := r.tag = none ∧ ¬ IsStatus r.data

instance (r : Reply) : Decidable r.IsPlain := inferInstanceAs (Decidable (_ ∧ _))

/-! ### The packets that wait -/

/-- Packets that wait after a number of commands: no status among them has a later tag, and the
last of them is a status. -/
structure Backlog (count : Nat) (waiting : List (List UInt8)) : Prop where
  tags : ∀ p ∈ waiting, IsStatus p → (layout.decode p).tag.toNat ≤ count
  last : ∀ p, waiting.getLast? = some p → IsStatus p

namespace Backlog

variable {count : Nat} {waiting : List (List UInt8)} {reply : Reply}

theorem nil (count : Nat) : Backlog count [] := ⟨by simp, by simp⟩

theorem tail (h : Backlog count waiting) : Backlog count waiting.tail where
  tags p hp := h.tags p (List.mem_of_mem_tail hp)
  last p hp := by
    cases waiting with
    | nil => cases hp
    | cons first rest =>
      refine h.last p ?_
      rw [List.tail_cons] at hp
      rw [List.getLast?_cons, hp, Option.getD_some]

/-- The packets in front of the status of a reply. -/
def ahead (waiting : List (List UInt8)) (reply : Reply) : List (List UInt8) :=
  waiting ++ if reply.data.isEmpty then [] else [reply.data]

/-- No packet in front of the status of a new command is a status with its tag. -/
theorem not_own (h : Backlog count waiting) (room : count + 1 < UInt32.size)
    (plain : reply.IsPlain) :
    ∀ p ∈ ahead waiting reply, IsStatus p →
      (layout.decode p).tag ≠ UInt32.ofNat (count + 1) := by
  intro p hp looks own
  rcases List.mem_append.mp hp with old | data
  · have le := h.tags p old looks
    rw [own, UInt32.toNat_ofNat_of_lt' room] at le
    omega
  · by_cases none : reply.data.isEmpty
    · rw [if_pos none] at data
      cases data
    · rw [if_neg none, List.mem_singleton] at data
      exact plain.2 (data ▸ looks)

/-- What waits after the packets of a reply were queued. -/
theorem answered (h : Backlog count waiting) (room : count + 1 < UInt32.size)
    (plain : reply.IsPlain) (residue : UInt32) :
    Backlog (count + 1) (ahead waiting reply ++
      [(make (UInt32.ofNat (count + 1)) residue reply.status).toOctets]) where
  tags p hp looks := by
    rcases List.mem_append.mp hp with before | own
    · rcases List.mem_append.mp before with old | data
      · exact Nat.le_succ_of_le (h.tags p old looks)
      · by_cases none : reply.data.isEmpty
        · rw [if_pos none] at data
          cases data
        · rw [if_neg none, List.mem_singleton] at data
          exact absurd (data ▸ looks) plain.2
    · rw [List.mem_singleton.mp own, decode_toOctets]
      exact Nat.le_of_eq (UInt32.toNat_ofNat_of_lt' room)
  last p hp := by
    rw [List.getLast?_concat, Option.some.injEq] at hp
    rw [← hp]
    exact isStatus_make _ _ _

variable {packet first : List UInt8} {residue : UInt32}

/-- A status that is accepted is the one of the reply, wherever it stood. -/
theorem own_status (h : Backlog count waiting) (room : count + 1 < UInt32.size)
    (plain : reply.IsPlain)
    (queued : packet ∈ ahead waiting reply ++
      [(make (UInt32.ofNat (count + 1)) residue reply.status).toOctets])
    (looks : IsStatus packet) (own : (layout.decode packet).tag = UInt32.ofNat (count + 1)) :
    (layout.decode packet).status = reply.status := by
  rcases List.mem_append.mp queued with before | last
  · exact absurd own (h.not_own room plain packet before looks)
  · rw [List.mem_singleton.mp last, decode_toOctets, make]

/-- If one packet was taken before the status that was accepted, nothing else waited. -/
theorem ahead_eq_singleton (h : Backlog count waiting) (room : count + 1 < UInt32.size)
    (plain : reply.IsPlain)
    (front : (ahead waiting reply ++
      [(make (UInt32.ofNat (count + 1)) residue reply.status).toOctets]).head? = some first)
    (next : (ahead waiting reply ++
      [(make (UInt32.ofNat (count + 1)) residue reply.status).toOctets]).tail.head? = some packet)
    (looks : IsStatus packet) (own : (layout.decode packet).tag = UInt32.ofNat (count + 1)) :
    ahead waiting reply = [first] := by
  have fresh := h.not_own room plain
  cases hahead : ahead waiting reply with
  | nil =>
    rw [hahead] at next
    cases next
  | cons a rest =>
    rw [hahead] at front next fresh
    cases rest with
    | nil =>
      cases front
      rfl
    | cons b rest =>
      cases next
      exact absurd own (fresh packet (List.mem_cons_of_mem a List.mem_cons_self) looks)

/-- The one packet that was taken for the data is the data of the reply: a status left over from
before would not have been taken for them. -/
theorem eq_data (h : Backlog count waiting) (single : ahead waiting reply = [first])
    {buffer : List UInt8} (fits : first.length ≤ buffer.length)
    (noStatus : first.length < buffer.length → ¬ IsStatus first)
    (other : buffer.length ≠ StatusWrapper.size) : reply.data ≠ [] ∧ first = reply.data := by
  by_cases none : reply.data.isEmpty
  · rw [ahead, if_pos none, List.append_nil] at single
    have old : IsStatus first := h.last first (by rw [single]; rfl)
    have length : first.length = StatusWrapper.size := old.1
    exact absurd old (noStatus (by omega))
  · rw [ahead, if_neg none] at single
    have empty : waiting = [] := by
      cases waiting with
      | nil => rfl
      | cons a rest =>
        have := congrArg List.length single
        simp at this
    rw [empty, List.nil_append, List.cons.injEq] at single
    exact ⟨by simpa using none, single.1.symm⟩

end Backlog

namespace Engine

variable {ρ : Type} [Responder ρ] {count : Nat} {responder : ρ}
variable {e : Engine (SimulatedPlayer ρ)}

/-- An engine and a player after a number of exchanges, however these ended. -/
structure InStep (count : Nat) (responder : ρ) (e : Engine (SimulatedPlayer ρ)) : Prop where
  tag : e.tag = UInt32.ofNat count
  responder : e.link.responder = some responder
  idle : e.link.pending = none
  backlog : Backlog count e.link.incoming

omit [Responder ρ] in
theorem InStep.popped (h : InStep count responder e) : InStep count responder (popped e) :=
  ⟨h.tag, h.responder, h.idle, h.backlog.tail⟩

/-- The engine after its player answered an exchange. -/
def answered (tag : UInt32) (x : Exchange) (e : Engine (SimulatedPlayer ρ)) :
    Engine (SimulatedPlayer ρ) :=
  { tag, link := e.link.answer (x.wrapper tag) x.sent }

/-- The player answers as its responder does, and queues the packets behind those that wait. -/
theorem link_answered (h : InStep count responder e) (tag : UInt32) (x : Exchange) :
    (answered tag x e).link = { e.link with
      responder := some (x.answer tag responder).2
      incoming := e.link.incoming ++
        SimulatedPlayer.packets (x.wrapper tag) x.sent (x.answer tag responder).1 } := by
  simp only [answered, SimulatedPlayer.answer, h.responder]
  rfl

theorem incoming_answered (h : InStep count responder e) (tag : UInt32) (x : Exchange)
    (plain : (x.answer tag responder).1.IsPlain) :
    ∃ residue, (answered tag x e).link.incoming =
      Backlog.ahead e.link.incoming (x.answer tag responder).1 ++
        [(make tag residue (x.answer tag responder).1.status).toOctets] := by
  rw [link_answered h, SimulatedPlayer.packets, plain.1, Option.getD_none, Backlog.ahead]
  exact ⟨_, (List.append_assoc _ _ _).symm⟩

theorem InStep.answered (h : InStep count responder e) (room : count + 1 < UInt32.size)
    (x : Exchange) (plain : (x.answer (UInt32.ofNat (count + 1)) responder).1.IsPlain) :
    InStep (count + 1) (x.answer (UInt32.ofNat (count + 1)) responder).2
      (answered (UInt32.ofNat (count + 1)) x e) where
  tag := rfl
  responder := by rw [link_answered h]
  idle := by
    rw [link_answered h]
    exact h.idle
  backlog := by
    obtain ⟨residue, queued⟩ := incoming_answered h _ x plain
    rw [queued]
    exact h.backlog.answered room plain residue

/-! ### One exchange -/

variable {x : Exchange}

/-- The engine right after the wrapper of an exchange went out. -/
def dispatched (tag : UInt32) (x : Exchange) (e : Engine (SimulatedPlayer ρ)) :
    Engine (SimulatedPlayer ρ) :=
  handed (x.wrapper tag).toOctets { e with tag }

/-- Unless data are to follow, the command is answered already. -/
theorem dispatched_eq_answered (h : InStep count responder e) (tag : UInt32)
    (none : x.phase.direction = .output → x.phase.length = 0) (quiet : x.sent = []) :
    dispatched tag x e = answered tag x e := by
  rw [dispatched, handed, answered, SimulatedPlayer.take_wrapper h.idle, if_neg, quiet]
  rintro ⟨out, some⟩
  exact some (congrArg UInt32.ofNat (none out))

/-- A command with which data were announced is answered when they have come. -/
theorem handed_dispatched (h : InStep count responder e) (tag : UInt32) {data : List UInt8}
    (phase : x.phase = .send data) (nonempty : ¬ data.isEmpty)
    (small : data.length < UInt32.size) :
    handed data (dispatched tag x e) = answered tag x e := by
  have out : (x.wrapper tag).direction = .output := by
    rw [Exchange.wrapper, CommandWrapper.wrap, phase, DataPhase.direction]
  have some : (x.wrapper tag).dataLength ≠ 0 := by
    intro zero
    have length := congrArg UInt32.toNat zero
    change (UInt32.ofNat x.phase.length).toNat = 0 at length
    rw [phase, DataPhase.length, UInt32.toNat_ofNat_of_lt' small] at length
    exact nonempty (List.isEmpty_iff.mpr (List.length_eq_zero_iff.mp length))
  rw [dispatched, handed, handed, SimulatedPlayer.take_wrapper h.idle, if_pos ⟨out, some⟩,
    SimulatedPlayer.take_data h.idle, answered, Exchange.sent, phase]

/-- Collecting the status right after the command was answered. -/
theorem ends_conclude (h : InStep count responder e) (room : count + 1 < UInt32.size)
    (plain : (x.answer (UInt32.ofNat (count + 1)) responder).1.IsPlain)
    (nothing : ∀ buffer, x.phase = .receive buffer → buffer = []) (buffer : List UInt8) :
    Ends (do pure ⟨← collectStatus (UInt32.ofNat (count + 1)), buffer⟩)
      (fun outcome e' =>
        InStep (count + 1) (x.answer (UInt32.ofNat (count + 1)) responder).2 e' ∧
          x.Pairs (x.answer (UInt32.ofNat (count + 1)) responder).1 outcome)
      (answered (UInt32.ofNat (count + 1)) x e) := by
  refine Ends.bind (ends_collectStatus _ _) ?_
  rintro result _ ⟨rfl, paired⟩
  refine Ends.pure_iff.mpr ⟨(h.answered room x plain).popped, ?_, ?_⟩
  · intro s hs
    obtain ⟨packet, first, looks, own, rfl⟩ := paired s hs
    obtain ⟨residue, queued⟩ := incoming_answered h _ x plain
    rw [queued] at first
    exact h.backlog.own_status room plain (List.mem_of_mem_head? first) looks own
  · intro s received _ phase nonempty
    exact absurd (nothing received phase) nonempty

/-- Receiving data and collecting the status after the command was answered. -/
theorem ends_receive_conclude (h : InStep count responder e) (room : count + 1 < UInt32.size)
    (plain : (x.answer (UInt32.ofNat (count + 1)) responder).1.IsPlain) {buffer : List UInt8}
    (phase : x.phase = .receive buffer) :
    Ends (do
        let (moved, buffer) ← receiveData (UInt32.ofNat (count + 1)) buffer
        match moved with
        | .error e => pure ⟨.error e, buffer⟩
        | .ok () => pure ⟨← collectStatus (UInt32.ofNat (count + 1)), buffer⟩)
      (fun outcome e' =>
        InStep (count + 1) (x.answer (UInt32.ofNat (count + 1)) responder).2 e' ∧
          x.Pairs (x.answer (UInt32.ofNat (count + 1)) responder).1 outcome)
      (answered (UInt32.ofNat (count + 1)) x e) := by
  have inStep := h.answered room x plain
  refine Ends.bind (ends_receiveData _ buffer _) ?_
  rintro ⟨moved, filled⟩ _ ⟨rfl, received⟩
  cases moved with
  | error cause => exact Ends.pure_iff.mpr ⟨inStep.popped, .of_error⟩
  | ok _ =>
    obtain ⟨first, front, fits, noStatus, rfl⟩ := received rfl
    refine Ends.bind (ends_collectStatus _ _) ?_
    rintro result _ ⟨rfl, paired⟩
    refine Ends.pure_iff.mpr ⟨inStep.popped.popped, ?_, ?_⟩
    · intro s hs
      obtain ⟨packet, next, looks, own, rfl⟩ := paired s hs
      obtain ⟨residue, queued⟩ := incoming_answered h _ x plain
      rw [incoming_popped, queued] at next
      exact h.backlog.own_status room plain
        (List.mem_of_mem_tail (List.mem_of_mem_head? next)) looks own
    · intro s buffer' hs phase' _ other
      rw [phase, DataPhase.receive.injEq] at phase'
      subst phase'
      obtain ⟨packet, next, looks, own, -⟩ := paired s hs
      obtain ⟨residue, queued⟩ := incoming_answered h _ x plain
      rw [incoming_popped, queued] at next
      rw [queued] at front
      have single := h.backlog.ahead_eq_singleton room plain front next looks own
      obtain ⟨some, same⟩ := h.backlog.eq_data single fits noStatus other
      refine ⟨some, same ▸ fits, ?_⟩
      rw [overlay, List.take_of_length_le fits, same]

/-- The step: an exchange leaves engine and player in step, and what it gives goes with the reply
to its own command. -/
theorem ends_execute (h : InStep count responder e) (room : count + 1 < UInt32.size) (x : Exchange)
    (small : x.phase.length < UInt32.size)
    (plain : (x.answer (UInt32.ofNat (count + 1)) responder).1.IsPlain) :
    Ends (execute x.block x.fits x.phase)
      (fun outcome e' =>
        InStep (count + 1) (x.answer (UInt32.ofNat (count + 1)) responder).2 e' ∧
          x.Pairs (x.answer (UInt32.ofNat (count + 1)) responder).1 outcome) e := by
  have tag : e.tag + 1 = UInt32.ofNat (count + 1) := by
    rw [h.tag, UInt32.ofNat_add]
    rfl
  rw [execute]
  refine (gives_nextTag e).bindEnds ?_
  rw [tag]
  refine (gives_sendWrapper _ _).bindEnds ?_
  change Ends _ _ (dispatched (UInt32.ofNat (count + 1)) x e)
  cases phase : x.phase with
  | none =>
    rw [dispatched_eq_answered h _ (by rw [phase]; simp [DataPhase.direction])
      (by rw [Exchange.sent, phase])]
    exact ends_conclude h room plain (by rw [phase]; simp) []
  | receive buffer =>
    rw [dispatched_eq_answered h _ (by rw [phase]; simp [DataPhase.direction])
      (by rw [Exchange.sent, phase])]
    by_cases empty : buffer.isEmpty
    · simp only [moveData, if_pos empty]
      refine ends_conclude h room plain ?_ buffer
      intro received same
      rw [phase, DataPhase.receive.injEq] at same
      rw [← same]
      exact List.isEmpty_iff.mp empty
    · simp only [moveData, if_neg empty]
      exact ends_receive_conclude h room plain phase
  | send data =>
    by_cases empty : data.isEmpty
    · have none : data = [] := List.isEmpty_iff.mp empty
      rw [dispatched_eq_answered h _ (by rw [phase, none]; simp [DataPhase.length])
        (by rw [Exchange.sent, phase]; exact none)]
      simp only [moveData, if_pos empty]
      exact ends_conclude h room plain (by rw [phase]; simp) []
    · refine (gives_moveData_send _ empty _).bindEnds ?_
      rw [phase] at small
      rw [handed_dispatched h _ phase empty small]
      exact ends_conclude h room plain (by rw [phase]; simp) []

/-! ### Any number of exchanges -/

/-- Exchanges commands one after the other, whether they fail or not. -/
def executeAll {σ : Type} [BulkLink σ] : List Exchange → EngineM σ (List Outcome)
  | [] => pure []
  | x :: rest => do
    let outcome ← execute x.block x.fits x.phase
    let others ← executeAll rest
    pure (outcome :: others)

theorem ends_executeAll (xs : List Exchange) (h : InStep count responder e)
    (few : count + xs.length < UInt32.size) (small : ∀ x ∈ xs, x.phase.length < UInt32.size)
    (plain : ∀ reply ∈ Exchange.replies count xs responder, reply.IsPlain) :
    Ends (executeAll xs) (fun outcomes _ =>
      Exchange.PairsAll xs (Exchange.replies count xs responder) outcomes) e := by
  induction xs generalizing count responder e with
  | nil => exact Ends.pure_iff.mpr ⟨rfl, by simp⟩
  | cons x rest ih =>
    rw [List.length_cons] at few
    obtain ⟨plainFirst, plainRest⟩ := List.forall_mem_cons.mp plain
    refine Ends.bind (ends_execute h (by omega) x (small x List.mem_cons_self) plainFirst) ?_
    rintro outcome u ⟨inStep, pairs⟩
    refine Ends.bind (ih inStep (by omega)
      (fun y hy => small y (List.mem_cons_of_mem x hy)) plainRest) ?_
    rintro others v ⟨length, each⟩
    refine Ends.pure_iff.mpr ⟨by rw [List.length_cons, length, List.length_cons], ?_⟩
    intro k outcome' hk
    cases k with
    | zero =>
      cases hk
      exact ⟨x, _, rfl, rfl, pairs⟩
    | succ k => exact each k outcome' hk

/-- An engine over a player with nothing queued, and any exchanges, fewer than there are tags:
whatever failed before, an exchange that succeeds gives the status of the reply to its own
command, and the data that came with that reply. -/
theorem executeAll_pairs (responder : ρ) (xs : List Exchange) (few : xs.length < UInt32.size)
    (small : ∀ x ∈ xs, x.phase.length < UInt32.size)
    (plain : ∀ reply ∈ Exchange.replies 0 xs responder, reply.IsPlain) :
    Ends (executeAll xs)
      (fun outcomes _ => Exchange.PairsAll xs (Exchange.replies 0 xs responder) outcomes)
      { link := ({ responder := some responder } : SimulatedPlayer ρ) } := by
  have start : InStep 0 responder
      { link := ({ responder := some responder } : SimulatedPlayer ρ) } :=
    ⟨rfl, rfl, rfl, .nil 0⟩
  exact ends_executeAll xs start (by omega) small plain

/-- Rules of a player that first sends five octets, then nothing to one command, then two. -/
def unevenRules : RuleBook where
  rules := [{ uses := some 1, data := .fixed [1, 2, 3, 4, 5] }, { opcode := some 0x25 },
    { data := .fixed [7, 8] }]

/-- Two octets are too few for the first reply, so its status is left over. A buffer that this
status fills takes it for data, and then the player and its host are in step again. -/
def unevenExchanges : List Exchange :=
  [⟨.raw [0x12] 6, by decide, .receive [0, 0]⟩,
    ⟨.raw [0x25] 10, by decide, .receive (List.replicate 13 0)⟩,
    ⟨.raw [0x12] 6, by decide, .receive [0, 0, 0]⟩]

/-- Exchanges after an overflow left a status behind. -/
theorem executeAll_pairs_uneven :
    Ends (executeAll unevenExchanges)
      (fun outcomes _ => Exchange.PairsAll unevenExchanges
        (Exchange.replies 0 unevenExchanges unevenRules) outcomes)
      { link := ({ responder := some unevenRules } : SimulatedPlayer RuleBook) } :=
  executeAll_pairs unevenRules unevenExchanges (by decide) (by decide) (by decide +kernel)

end Engine

end PlayerLink
