import PlayerLink.Proofs.Program.Conduct
import PlayerLink.Proofs.Program.Session
import PlayerLink.Proofs.Usb.Presence
import PlayerLink.Simulation.Playback

/-!
# Vendor commands are guarded by IDENTIFY

The opcodes of the vendor commands mean other things to an ordinary storage device. A run in service
mode sends IDENTIFY first and goes on to other vendor commands only if the answer is that of a
compatible player. The one exception is asked for: with detaching, DETACH is sent at the end however
the run went, and nothing is sent after it.
-/

namespace PlayerLink

open RunM StatusWrapper

/-- A vendor command that only a compatible player may get. -/
def CommandWrapper.NeedsIdentity (w : CommandWrapper) : Prop :=
  w.opcode ∈ ([0xCB, 0x08, 0x09, 0x05, 0x16, 0x20] : List UInt8)

/-- Among calls, IDENTIFY was sent, its answer starts with the name of a compatible player, and it
ended with success. -/
def Identified (calls : List LinkCall) : Prop :=
  ∃ before after tag taken answer status,
    calls = before ++ [.send (Command.identify.wrapper tag Identity.size).toOctets (.ok taken),
      .receive Identity.size (.ok answer), .receive StatusWrapper.size (.ok status)] ++ after ∧
    answer.take 11 = Identity.compatibleName.toList ∧ Accepted tag 0 status

/-- Every vendor command among calls that needs it comes behind an IDENTIFY that went well, but for
a DETACH that was asked for and behind which nothing is sent. -/
def Guarded (detach : Bool) (calls : List LinkCall) : Prop :=
  ∀ before octets outcome after w, calls = before ++ .send octets outcome :: after →
    CommandWrapper.ofOctets? octets = some w → w.NeedsIdentity →
    Identified before ∨
      detach = true ∧ w.opcode = Command.detach.opcode ∧ LinkCall.sends after = []

theorem Identified.append {calls : List LinkCall} (h : Identified calls) (more : List LinkCall) :
    Identified (calls ++ more) := by
  obtain ⟨before, after, tag, taken, answer, status, rfl, named, accepted⟩ := h
  exact ⟨before, after ++ more, tag, taken, answer, status, by simp, named, accepted⟩

theorem Guarded.nil (detach : Bool) : Guarded detach [] := by
  intro before octets outcome after w split
  simp at split

/-- Calls that start with IDENTIFY, and go on to other commands only if it went well. -/
def Sheltered (calls : List LinkCall) : Prop :=
  ∃ tag first rest, calls = first ++ rest ∧
    LinkCall.sends first <+: [((DataPhase.receive (List.replicate Identity.size 0)).wrapper tag
      Command.identify.block Command.identify.block_fits).toOctets] ∧
    (rest = [] ∨ Identified first)

/-- What is read from the octets of the one wrapper that may be sent. -/
theorem opcode_of_sends {calls : List LinkCall} {octets : List UInt8} {w : CommandWrapper}
    {outcome : Except UsbError Nat} {phase : DataPhase} {tag : UInt32} {c : Command}
    (sent : LinkCall.sends calls <+: [(phase.wrapper tag c.block c.block_fits).toOctets])
    (there : .send octets outcome ∈ calls) (read : CommandWrapper.ofOctets? octets = some w) :
    w.opcode = c.opcode := by
  have own : octets = (phase.wrapper tag c.block c.block_fits).toOctets :=
    List.mem_singleton.mp (sent.subset (LinkCall.mem_sends.mpr ⟨_, there⟩))
  rw [own, CommandWrapper.ofOctets?_toOctets, Option.some.injEq] at read
  rw [← read, DataPhase.wrapper, CommandWrapper.opcode_wrap]

/-- What is sent behind sheltered calls is at most DETACH. -/
theorem Sheltered.guarded {detach : Bool} {calls last : List LinkCall} (h : Sheltered calls)
    (tag : UInt32)
    (sent : LinkCall.sends last <+:
      [(DataPhase.none.wrapper tag Command.detach.block Command.detach.block_fits).toOctets])
    (asked : last ≠ [] → detach = true) : Guarded detach (calls ++ last) := by
  obtain ⟨tag', first, rest, rfl, identify, shelter⟩ := h
  intro before octets outcome after w split read needs
  -- The send is one of the first calls, or it comes behind them.
  have behind : ∀ between, before = first ++ between →
      rest ++ last = between ++ .send octets outcome :: after →
      Identified before ∨
        detach = true ∧ w.opcode = Command.detach.opcode ∧ LinkCall.sends after = [] := by
    rintro between rfl split
    rcases shelter with rfl | identified
    · rw [List.nil_append] at split
      have there : .send octets outcome ∈ last := by simp [split]
      rw [split] at sent
      exact Or.inr ⟨asked (List.ne_nil_of_mem there), opcode_of_sends sent (split ▸ there) read,
        LinkCall.sends_behind sent⟩
    · exact Or.inl (identified.append between)
  rw [List.append_assoc, List.append_eq_append_iff] at split
  rcases split with ⟨between, here, there⟩ | ⟨tail, here, there⟩
  · exact behind between here there
  · cases tail with
    | nil => exact behind [] (by simpa using here.symm) (by simpa using there.symm)
    | cons c tail =>
      rw [List.cons_append, List.cons.injEq] at there
      have among : .send octets outcome ∈ first := by simp [here, there.1]
      have opcode := opcode_of_sends identify among read
      rw [CommandWrapper.NeedsIdentity, opcode] at needs
      exact absurd needs (by decide)

/-! ### IDENTIFY -/

theorem Identity.take_eq_of_isCompatible {bs : List UInt8} {i : Identity}
    (read : ofOctets? bs = some i) (compatible : i.IsCompatible) :
    bs.take 11 = compatibleName.toList := by
  rw [ofOctets?] at read
  split at read
  · rename_i long
    cases read
    have name : Field.ofList 11 bs = compatibleName := compatible
    rw [← name, Field.toList_ofList, zeroPad_of_le (by rw [size] at long; omega)]
  · cases read

/-- The name has no zeros, so none of it was there before the answer. -/
theorem Identity.take_of_overlay {packet : List UInt8}
    (named : (overlay packet (List.replicate size 0)).take 11 = compatibleName.toList) :
    packet.take 11 = compatibleName.toList := by
  rw [overlay, List.length_replicate] at named
  by_cases long : 11 ≤ packet.length
  · have fits : 11 ≤ (packet.take size).length := by
      rw [List.length_take, size]
      omega
    rw [List.take_append_of_le_length fits, List.take_take] at named
    exact named
  · have tenth := congrArg (fun bs : List UInt8 => bs[10]?) named
    have short : (packet.take size).length = packet.length := by
      rw [List.length_take, size]
      omega
    simp only [List.getElem?_take_of_lt (by decide : 10 < 11)] at tenth
    rw [List.getElem?_append_right (by omega), short, List.getElem?_drop,
      Nat.add_sub_cancel' (by omega), List.getElem?_replicate, if_pos (by decide)] at tenth
    exact absurd tenth (by decide)

namespace Transcript

variable {σ : Type} [BulkLink σ] {D : σ → List LinkCall → σ → Prop}

/-- IDENTIFY succeeds only with the answer of a compatible player. -/
theorem ends_identify (t : Transcript D) (e : Engine σ) :
    Ends Engine.identify
      (fun result e' => ∃ new, D e.link new e'.link ∧
        LinkCall.sends new <+: [((DataPhase.receive (List.replicate Identity.size 0)).wrapper
          (e.tag + 1) Command.identify.block Command.identify.block_fits).toOctets] ∧
        ∀ i, result = .ok i → Identified new) e := by
  refine Ends.bind (t.ends_execute Command.identify.block Command.identify.block_fits
    (.receive (List.replicate Identity.size 0)) e) ?_
  rintro ⟨result, buffer⟩ e' ⟨-, new, grown, sent, completed⟩
  cases result with
  | error cause => exact Ends.pure_iff.mpr ⟨new, grown, sent, nofun⟩
  | ok status =>
    by_cases failed : status ≠ 0
    · simp only [if_pos failed]
      exact Ends.bind_lift (Ends.pure_iff.mpr ⟨new, grown, sent, nofun⟩)
    · simp only [if_neg failed]
      have zero : status = 0 := Decidable.of_not_not failed
      subst zero
      cases read : Identity.ofOctets? buffer with
      | none => exact Ends.pure_iff.mpr ⟨new, grown, sent, nofun⟩
      | some identity =>
        by_cases compatible : identity.IsCompatible
        · simp only [if_pos compatible]
          refine Ends.bind_lift (Ends.pure_iff.mpr ⟨new, grown, sent, ?_⟩)
          intro _ _
          obtain ⟨taken, moved, packet, rfl, stage, accepted⟩ := completed 0 rfl
          have named := Identity.take_eq_of_isCompatible read compatible
          cases stage with
          | received answer _ _ =>
            exact ⟨[], [], e.tag + 1, taken, answer, packet, rfl,
              Identity.take_of_overlay named, accepted⟩
        · simp only [if_neg compatible]
          exact Ends.bind_lift (Ends.pure_iff.mpr ⟨new, grown, sent, nofun⟩)

/-- Detaching sends DETACH and nothing else. -/
theorem ends_detachQuietly (t : Transcript D) (e : Engine σ) :
    Ends Engine.detachQuietly
      (fun _ e' => ∃ new, D e.link new e'.link ∧ ∃ tag,
        LinkCall.sends new <+: [(DataPhase.none.wrapper tag Command.detach.block
          Command.detach.block_fits).toOctets]) e := by
  refine Ends.bind (t.ends_perform .detach .none e) ?_
  rintro result e' ⟨-, new, grown, sent, -⟩
  cases result with
  | ok _ => exact Ends.pure_iff.mpr ⟨new, grown, _, sent⟩
  | error cause => exact Ends.bind_lift (Ends.pure_iff.mpr ⟨new, grown, _, sent⟩)

end Transcript

/-! ### Service mode -/

namespace Transcript

variable {δ α : Type} [BulkLink δ] {D : Session δ → List LinkCall → Session δ → Prop}

/-- Work in service mode starts behind an IDENTIFY that went well. -/
theorem ends_sheltered (t : Transcript D) {asks : Command → Prop} {work : ServiceM δ α}
    (conducts : ConductsRun asks work) (e : Engine (Session δ)) (desk : Desk) :
    Ends (do enterServiceMode; work : ServiceM δ α).run
      (fun _ x => ∃ new, D e.link new x.1.link ∧ Sheltered new) (e, desk) := by
  have entered : Ends (enterServiceMode : ServiceM δ Unit).run
      (fun r x => ∃ new, D e.link new x.1.link ∧ ∃ tag first rest, new = first ++ rest ∧
        LinkCall.sends first <+: [((DataPhase.receive (List.replicate Identity.size 0)).wrapper tag
          Command.identify.block Command.identify.block_fits).toOctets] ∧
        (rest = [] ∧ (∃ f, r = .error f) ∨ Identified first)) (e, desk) := by
    refine Ends.bindExcept ((t.ends_identify e).require _ desk) ?_ ?_
    · rintro identity ⟨u, _⟩ ⟨r, outcome, ⟨first, grown, sent, identified⟩, rfl⟩
      cases r with
      | error cause => cases outcome
      | ok i =>
        refine Ends.bindExcept_lift ?_
        refine ((Engine.conducts_initialise.adds t u).require _ _).mono ?_
        rintro _ v ⟨_, -, ⟨rest, grown'⟩, -⟩
        exact ⟨first ++ rest, t.trans grown grown', _, first, rest, rfl, sent,
          Or.inr (identified i rfl)⟩
    · rintro f ⟨u, _⟩ ⟨r, outcome, ⟨first, grown, sent, -⟩, rfl⟩
      exact ⟨first, grown, _, first, [], by simp, sent, Or.inl ⟨rfl, f, rfl⟩⟩
  refine Ends.bindExcept entered ?_ ?_
  · rintro _ u ⟨_, grown, tag, first, rest, rfl, sent, how⟩
    have identified : Identified first := by
      rcases how with ⟨-, f, failed⟩ | identified
      · cases failed
      · exact identified
    refine (conducts.adds t u).mono ?_
    rintro _ v ⟨more, grown'⟩
    exact ⟨_, t.trans grown grown', tag, first, rest ++ more, List.append_assoc _ _ _, sent,
      Or.inr identified⟩
  · rintro f u ⟨new, grown, tag, first, rest, split, sent, how⟩
    exact ⟨new, grown, tag, first, rest, split, sent, how.imp And.left id⟩

end Transcript

section

variable {δ α : Type} {post : List LinkCall → Prop} {bus : Bus (Recorded δ)}

/-- To every record on a bus calls were added of which `post` holds. -/
def Bus.Leaves (post : List LinkCall → Prop) (bus bus' : Bus (Recorded δ)) : Prop :=
  ∀ position, ∃ new, bus'.record position = bus.record position ++ new ∧ post new

theorem Bus.Leaves.of_links_eq (nothing : post []) {bus' : Bus (Recorded δ)}
    (same : bus'.links = bus.links) : bus.Leaves post bus' := by
  intro position
  exact ⟨[], by rw [Bus.record_eq same, List.append_nil], nothing⟩

theorem Bus.Leaves.of_grew (nothing : post []) {position : Nat} {new : List LinkCall}
    {bus' : Bus (Recorded δ)} (grown : Bus.Grew position bus new bus') (holds : post new) :
    bus.Leaves post bus' := by
  intro p
  by_cases here : p = position
  · exact ⟨new, by rw [here, grown.here], holds⟩
  · exact ⟨[], by rw [grown.others p here, List.append_nil], nothing⟩

/-- A device is opened and closed without a call on any link, so all that is left behind is what the
work did. -/
theorem ends_withDevice_record (nothing : post []) {device : StorageDevice}
    {openFailed claimFailed : StorageError → Failure} {work : ServiceM (Recorded δ) α}
    (desk : Desk)
    (done : ∀ session, Ends work.run
      (fun _ x => ∃ new, Session.Grew session new x.1.link ∧ post new)
      ({ link := session }, desk)) :
    Ends (withDevice device openFailed claimFailed work).run (fun _ x => bus.Leaves post x.1)
      (bus, desk) := by
  refine ends_withDevice_stages _ (fun _ s => bus.Untouched s.bus)
    (Storage.ends_openDevice device bus) ?_ ?_ ?_ ?_
  · rintro e b ⟨same, -⟩
    exact .of_links_eq nothing same.links
  · rintro handle b ⟨same, -⟩
    exact (Session.ends_claim ⟨b, handle⟩).mono fun _ _ idle => same.trans idle.bus
  · intro e s same log
    exact .of_links_eq nothing (same.trans (Session.after_close s log)).links
  · intro s same
    refine (done s).mono ?_
    rintro outcome x ⟨new, grown, holds⟩ log position
    rw [Bus.record_eq (Session.after_close x.1.link log).links, ← Bus.record_eq same.links]
    exact Bus.Leaves.of_grew nothing grown.bus holds position

theorem ends_withTarget_record (nothing : post []) {target : Target}
    {work : ServiceM (Recorded δ) α} (desk : Desk)
    (done : ∀ session, Ends work.run
      (fun _ x => ∃ new, Session.Grew session new x.1.link ∧ post new)
      ({ link := session }, desk)) :
    Ends (withTarget target work).run (fun _ x => bus.Leaves post x.1) (bus, desk) := by
  refine Ends.bindExcept ((Storage.ends_find _ _ bus).require _ desk) ?_ ?_
  · rintro device ⟨b₁, _⟩ ⟨r, -, ⟨same, -⟩, rfl⟩
    refine (ends_withDevice_record nothing _ fun session =>
      Ends.bindExcept_lift (done session)).mono ?_
    rintro _ x leaves position
    rw [← Bus.record_eq same.links]
    exact leaves position
  · rintro f ⟨b₁, _⟩ ⟨r, -, ⟨same, -⟩, rfl⟩
    exact .of_links_eq nothing same.links

variable [BulkLink δ]

/-- However work in service mode ends, its vendor commands are guarded. -/
theorem ends_withServiceMode_guarded {service : ServiceTarget} {asks : Command → Prop}
    {work : ServiceM (Recorded δ) α} (conducts : ConductsRun asks work) (bus : Bus (Recorded δ))
    (desk : Desk) :
    Ends (withServiceMode service work).run
      (fun _ x => bus.Leaves (Guarded service.detach) x.1) (bus, desk) := by
  have t : Transcript (Session.Grew : Session (Recorded δ) → _) := Session.transcript
  refine ends_withTarget_record (Guarded.nil _) desk ?_
  intro session
  refine Ends.bindExcept_step (t.ends_sheltered conducts { link := session } desk) ?_
  rintro outcome ⟨e, desk'⟩ ⟨new, grown, sheltered⟩
  refine (ends_detaching service.detach outcome (t.ends_detachQuietly e) desk').mono ?_
  rintro _ x ⟨-, told, -⟩
  by_cases detach : service.detach
  · rw [if_pos detach] at told
    obtain ⟨_, last, grown', tag, sent⟩ := told
    exact ⟨_, t.trans grown grown', sheltered.guarded tag sent fun _ => detach⟩
  · rw [if_neg detach] at told
    have guarded : Guarded service.detach (new ++ []) :=
      sheltered.guarded 0 List.nil_prefix (absurd rfl)
    rw [List.append_nil] at guarded
    rw [told]
    exact ⟨new, grown, guarded⟩

end

section

variable {δ : Type} [BulkLink δ]

variable (service : ServiceTarget) (bus : Bus (Recorded δ)) (desk : Desk)

/-- Whatever the devices do, whatever is asked of a player in service mode and however it ends:
among the calls that were made on a device, every vendor command other than IDENTIFY comes behind an
IDENTIFY that the device answered as a compatible player, but for the DETACH that was asked for,
which is the last that is sent. -/
theorem vendor_commands_guarded (invocation : Invocation)
    (asks : invocation.service? = some service) :
    Ends invocation.run.run (fun _ x => bus.Leaves (Guarded service.detach) x.1) (bus, desk) := by
  by_cases usable : invocation.Usable
  · obtain ⟨work, run, conducts⟩ := Invocation.serves (δ := Recorded δ) asks usable
    rw [run]
    exact ends_withServiceMode_guarded conducts bus desk
  · -- Only an entry point may be out of range, and this is noticed before a device is looked for.
    cases invocation with
    | enter _ address =>
      have wide : address.toNat > 0xFFFF := Nat.not_le.mp usable
      change Ends (enterAt _ address).run _ _
      rw [enterAt, if_pos wide]
      exact Ends.pure_iff.mpr (.of_links_eq (Guarded.nil _) rfl)
    | _ => exact absurd True.intro usable

end

/-- A device that answers IDENTIFY with success, but with a name that is not that of a compatible
player, `GENERICUSBD`. -/
def foreign : Bus (Recorded Playback) where
  devices := [.plain ⟨0x10D6, 0x1101⟩
    { link :=
      { reads := [.ok [0x47, 0x45, 0x4E, 0x45, 0x52, 0x49, 0x43, 0x55, 0x53, 0x42, 0x44, 0, 0],
          .ok (make 1 0 0).toOctets] } }]

/-- Such a device is not told anything but to detach. -/
theorem vendor_commands_guarded_foreign :
    Ends (Invocation.systemInfo ⟨⟨⟨0x10D6, 0x1101⟩, 0⟩, true⟩).run.run
      (fun _ x => foreign.Leaves (Guarded true) x.1) (foreign, {}) :=
  vendor_commands_guarded ⟨⟨⟨0x10D6, 0x1101⟩, 0⟩, true⟩ foreign {} _ rfl

/-- It is told to detach, although it was not identified. -/
theorem detach_unidentified :
    ¬ Ends (Invocation.systemInfo ⟨⟨⟨0x10D6, 0x1101⟩, 0⟩, true⟩).run.run
      (fun _ x => ∀ before octets outcome after w,
        x.1.record 0 = before ++ .send octets outcome :: after →
        CommandWrapper.ofOctets? octets = some w → w.NeedsIdentity → Identified before)
      (foreign, {}) := by
  intro all
  have told : ∃ octets ∈ LinkCall.sends (((Invocation.systemInfo
      ⟨⟨⟨0x10D6, 0x1101⟩, 0⟩, true⟩).run.run (foreign, {}) {}).1.2.1.record 0),
      (CommandWrapper.ofOctets? octets).any fun w => w.opcode = 0x16 := by
    decide +kernel
  have unnamed : ∀ receipt ∈ LinkCall.receipts (((Invocation.systemInfo
      ⟨⟨⟨0x10D6, 0x1101⟩, 0⟩, true⟩).run.run (foreign, {}) {}).1.2.1.record 0),
      receipt.2.take 11 ≠ Identity.compatibleName.toList := by
    decide +kernel
  obtain ⟨octets, sent, detach⟩ := told
  obtain ⟨w, read, opcode⟩ := (Option.any_eq_true _ _).mp detach
  obtain ⟨outcome, there⟩ := LinkCall.mem_sends.mp sent
  obtain ⟨before, after, split⟩ := List.append_of_mem there
  have needs : w.NeedsIdentity := by
    rw [CommandWrapper.NeedsIdentity, of_decide_eq_true opcode]
    decide
  obtain ⟨_, _, _, _, answer, _, here, named, -⟩ :=
    all {} before octets outcome after w split read needs
  have among : LinkCall.receive Identity.size (.ok answer) ∈
      before ++ .send octets outcome :: after :=
    List.mem_append_left _ (by simp [here])
  rw [← split] at among
  exact unnamed _ (LinkCall.mem_receipts among) named

end PlayerLink
