import PlayerLink.Proofs.Program.Guarding
import PlayerLink.Proofs.Program.Visiting

/-!
# Which devices are compatible players

IDENTIFY succeeds on a device exactly if the calls that were made for it tell of a compatible
player: the wrapper was taken, the answer starts with the name of such a player, and the status is
success. That calls which tell so were made is enough, since the device answered the session as its
record says.
-/

namespace PlayerLink

open StatusWrapper

/-! ### From the name to the player -/

/-- The name of a compatible player in an answer makes the identity compatible. -/
theorem Identity.exists_compatible_of_take {answer : List UInt8}
    (named : answer.take 11 = compatibleName.toList) :
    ∃ i, ofOctets? (overlay answer (List.replicate size 0)) = some i ∧ i.IsCompatible := by
  have long : 11 ≤ answer.length := by
    have length := congrArg List.length named
    rw [List.length_take] at length
    have eleven : compatibleName.toList.length = 11 := rfl
    omega
  have front : (overlay answer (List.replicate size 0)).take 11 = compatibleName.toList := by
    have room : 11 ≤ (answer.take size).length := by
      rw [List.length_take, size]
      omega
    rw [overlay, List.length_replicate, List.take_append_of_le_length room, List.take_take]
    exact named
  have filled : (overlay answer (List.replicate size 0)).length = size := by
    rw [length_overlay, List.length_replicate]
  rw [ofOctets?, if_pos (Nat.le_of_eq filled.symm)]
  refine ⟨_, rfl, ?_⟩
  show Field.ofList 11 (overlay answer (List.replicate size 0)) = compatibleName
  apply Vector.toList_inj.mp
  rw [Field.toList_ofList, zeroPad_of_le (by rw [filled]; decide)]
  exact front

/-! ### From the calls to the answer -/

section

variable {σ : Type} [BulkLink σ]

/-- A device that has the answer of a compatible player is identified. -/
theorem Engine.exists_gives_identify {e : Engine σ} {l : σ} {answer : List UInt8}
    (named : answer.take 11 = Identity.compatibleName.toList)
    (answers : Answers (Command.identify.wrapper (e.tag + 1) Identity.size) Identity.size answer
      e.link l) :
    ∃ i, Gives Engine.identify e (.ok i) ⟨l, e.tag + 1⟩ := by
  obtain ⟨i, read, compatible⟩ := Identity.exists_compatible_of_take named
  have ran : Gives (run .identify (.receive (List.replicate Identity.size 0))) e
      ⟨.ok 0, overlay answer (List.replicate Identity.size 0)⟩ ⟨l, e.tag + 1⟩ := by
    refine gives_run_of_answers (List.replicate Identity.size 0) answers (by decide) ?_
    intro short looks
    have same : answer.length = 13 := looks.1
    rw [same] at short
    exact absurd short (by decide)
  refine ⟨i, ran.bindEnds ?_⟩
  simp only [ne_eq, not_true_eq_false, if_false, read, compatible, if_true]
  exact Ends.bind_lift (Gives.pure _ _)

/-- What was played to the end was answered at the start. -/
theorem Played.answers {l l' : σ} {tag : UInt32} {taken : Nat} {answer status : List UInt8}
    {after : List LinkCall} {w : CommandWrapper} {room : Nat} (own : w.tag = tag)
    (h : Played l (.send w.toOctets (.ok taken) :: .receive room (.ok answer) ::
      .receive StatusWrapper.size (.ok status) :: after) l') (accepted : Accepted tag 0 status) :
    ∃ l₁, Answers w room answer l l₁ := by
  obtain ⟨residue, rfl⟩ := accepted.exists_residue
  subst own
  cases h with
  | send sent rest =>
    cases rest with
    | receive received rest =>
      cases rest with
      | receive told _ =>
        exact ⟨_, taken, residue, _, _, Prod.ext sent rfl, Prod.ext received rfl,
          Prod.ext told rfl⟩

end

/-- Of calls that send one wrapper, it is the first that is answered. -/
theorem Commanded.of_identified {calls : List LinkCall}
    (commanded : Commanded .identify Identity.size calls) (identified : Identified calls) :
    ∃ tag taken answer status after,
      calls = .send (Command.identify.wrapper tag Identity.size).toOctets (.ok taken) ::
        .receive Identity.size (.ok answer) :: .receive StatusWrapper.size (.ok status) :: after ∧
      answer.take 11 = Identity.compatibleName.toList ∧ Accepted tag 0 status := by
  obtain ⟨_, _, rest, rfl, silent⟩ := commanded
  obtain ⟨before, after, tag, taken, answer, status, split, named, accepted⟩ := identified
  cases before with
  | nil => exact ⟨tag, taken, answer, status, after, split, named, accepted⟩
  | cons c before =>
    simp only [List.cons_append, List.append_assoc, List.cons.injEq] at split
    rw [split.2] at silent
    simp at silent

section

variable {δ : Type} [BulkLink δ] {e : Engine (Session (Recorded δ))}

/-- IDENTIFY succeeds exactly if the calls tell of a compatible player. -/
theorem ends_identify_iff (present : e.link.Present) :
    Ends Engine.identify (fun result e' => ∃ calls, e.link.Made calls e'.link ∧
      ((∃ i, result = .ok i) ↔ Identified calls)) e := by
  intro log
  obtain ⟨calls, made, commanded, played⟩ := Engine.conducts_identify.ends_played present log
  obtain ⟨new, grown, sent, identified⟩ := Session.transcript.ends_identify e log
  rw [← made.grown.unique grown] at sent identified
  refine ⟨calls, made, ?_⟩
  constructor
  · rintro ⟨i, ok⟩
    exact identified i ok
  · intro identified
    obtain ⟨tag, taken, answer, status, after, split, named, accepted⟩ :=
      commanded.of_identified identified
    -- The tag of the wrapper that was sent is the tag that the engine waits for.
    rw [split, LinkCall.sends_cons_send] at sent
    have own := congrArg CommandWrapper.ofOctets? (List.cons_prefix_cons.mp sent).1
    rw [CommandWrapper.ofOctets?_toOctets, CommandWrapper.ofOctets?_toOctets] at own
    have tagged : tag = e.tag + 1 := congrArg CommandWrapper.tag (Option.some.inj own)
    rw [split, tagged] at played
    rw [tagged] at accepted
    obtain ⟨l, answers⟩ := played.answers rfl accepted
    obtain ⟨i, given⟩ := Engine.exists_gives_identify named answers
    exact ⟨i, (given log).1⟩

/-! ### One device -/

/-- The dialogue of IDENTIFY is one for all devices, and on each it comes to a success exactly if
the calls tell of a compatible player. -/
theorem exists_identification :
    ∃ talk : Dialogue (Except CommandError Identity × UInt32),
      (∀ session : Session (Recorded δ), Ends Engine.identify
        (fun result e => talk.hold session = ((result, e.tag), e.link)) { link := session }) ∧
      ∀ a : AttachedDevice (Recorded δ), ∃ calls,
        (talk.hold a).2.link.calls.toList = a.link.calls.toList ++ calls ∧
        ((∃ i, (talk.hold a).1.1 = .ok i) ↔ Identified calls) := by
  obtain ⟨d, -, held⟩ := Engine.conducts_identify (σ := Session (Recorded δ))
  refine ⟨d 0, fun session => held { link := session }, fun a => ?_⟩
  -- It comes to the same in a session with the device where it is alone on a bus.
  let alone : StorageDevice := ⟨0, 0, 0, 0, 0, .plain⟩
  let past : Past := { detached := none }
  let s : Session (Recorded δ) :=
    ⟨{ devices := [a], trace := (past.events 0 0).toArray }, { device := alone }⟩
  have stands : Session.Stands { devices := [a] } 0 alone a past s :=
    ⟨rfl, Nat.zero_lt_one, rfl, rfl, rfl⟩
  obtain ⟨transfers, holds⟩ := Session.exists_hold (d 0) alone a past
  obtain ⟨told, stands'⟩ := holds _ 0 s stands
  have present : s.Present := Nat.zero_lt_one
  obtain ⟨calls, made, identified⟩ := ends_identify_iff (e := { link := s }) present {}
  have same := held { link := s } {}
  refine ⟨calls, ?_, ?_⟩
  · have grown := made.grown.bus.here
    have link := congrArg Prod.snd same
    dsimp only at link
    rw [← link] at grown
    rw [Bus.record_of_there stands'.worked.there] at grown
    exact grown.trans (congrArg (· ++ calls) (Bus.record_of_there rfl))
  · rw [← told, same]
    exact identified

end

end PlayerLink
