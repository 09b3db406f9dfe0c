import PlayerLink.Proofs.Engine.Dialogue
import PlayerLink.Proofs.Usb.Records

/-!
# Sessions with a device that is there

A device that was opened is on the bus, and it stays there. So every call of a session reaches the
device, its record has the call as it turned out, and the session tells this in its own words. What
is added to the record in a dialogue is then one of its courses, and what it came to is what the
session goes on with.
-/

namespace PlayerLink

variable {δ : Type}

namespace Bus

/-- There is a device at a place. -/
def Has (b : Bus δ) (position : Nat) : Prop := position < b.links.length

variable {b b' : Bus δ} {position : Nat}

theorem Has.of_links_eq (there : b.Has position) (same : b'.links = b.links) : b'.Has position := by
  rw [Has, same]
  exact there

theorem Has.exists_device (there : b.Has position) : ∃ d, b.devices[position]? = some d := by
  rw [Has, links, List.length_map] at there
  exact ⟨_, List.getElem?_eq_getElem there⟩

/-- A call for a device goes well only if there is one. -/
theorem has_of_perform {call : DeviceCall} {event : Option UsbError → BusEvent}
    (ok : (perform position call event b).1 = none) : b.Has position := by
  cases there : b.devices[position]? with
  | none =>
    have missing : (perform position call event b).1 = some (UsbError.reported .noDevice) := by
      rcases asked : outcome position call b with ⟨fault, b₁⟩
      rw [outcome, atDevice, there] at asked
      cases asked
      simp only [perform, bind, StateT.bind, outcome, atDevice, there]
      rfl
    rw [missing] at ok
    cases ok
  | some d =>
    rw [Has, links, List.length_map]
    exact (List.getElem?_eq_some_iff.mp there).1

theorem ends_perform (position : Nat) (call : DeviceCall)
    (event : Option UsbError → BusEvent) (b : Bus δ) :
    Ends (Storage.onBus (perform position call event))
      (fun fault b' => (fault = none → b.Has position) ∧ b.Untouched b') b :=
  fun _ => ⟨has_of_perform, untouched_perform position call event b⟩

/-- A call on the link of a device that is there is noted as it turned out. -/
theorem made_onLink {β : Type} {b : Bus (Recorded δ)} (there : b.Has position)
    (step : StateM δ (Except UsbError β)) (note : Except UsbError β → LinkCall) :
    ∃ outcome, (onLink position (Recorded.noting step note) b).1 = outcome ∧
      Grew position b [note outcome] (onLink position (Recorded.noting step note) b).2 ∧
      (onLink position (Recorded.noting step note) b).2.Has position := by
  obtain ⟨d, at'⟩ := there.exists_device
  refine ⟨(step d.link.link).1, ?_, ?_, ?_⟩
  · rw [onLink_of_there _ at']
    rfl
  · refine grew_onLink_of_there at' ?_
    exact Array.toList_push
  · rw [Has, links_onLink_of_there _ at', List.length_set]
    exact there

end Bus

/-- A device that could be opened is there. -/
theorem Storage.ends_openDevice (d : StorageDevice) (b : Bus δ) :
    Ends (openDevice d) (fun opened b' => b.Untouched b' ∧
      ∀ handle, opened = .ok handle → handle.device = d ∧ b'.Has d.position) b := by
  refine Ends.bind (Bus.ends_perform _ _ _ b) ?_
  intro fault b₁ ⟨there, same₁⟩
  cases fault with
  | some e => exact Ends.pure_iff.mpr ⟨same₁, nofun⟩
  | none =>
    have ended (b₂ : Bus δ) (same₂ : b₁.Untouched b₂) : b.Untouched b₂ ∧
        ∀ handle, Except.ok (ε := StorageError) { device := d : OpenDevice } = .ok handle →
          handle.device = d ∧ b₂.Has d.position := by
      refine ⟨same₁.trans same₂, ?_⟩
      rintro _ ⟨⟩
      exact ⟨rfl, (there rfl).of_links_eq (same₁.trans same₂).links⟩
    refine Ends.bind (Bus.ends_perform _ _ _ b₁) ?_
    intro detached b₂ ⟨_, same₂⟩
    cases detached with
    | some e => exact Ends.bind_lift (Ends.bind_lift (Ends.pure_iff.mpr (ended b₂ same₂)))
    | none => exact Ends.bind_lift (Ends.pure_iff.mpr (ended b₂ same₂))

/-- A link that tells its errors as a session does answers calls one after the other. -/
inductive Played {σ : Type} [BulkLink σ] : σ → List LinkCall → σ → Prop
  | nil (l : σ) : Played l [] l
  | send {l l' : σ} {octets : List UInt8} {outcome : Except UsbError Nat} {calls : List LinkCall}
    (told : (BulkLink.send octets l).1 = outcome.mapError UsbError.reported)
    (rest : Played (BulkLink.send octets l).2 calls l') :
    Played l (.send octets outcome :: calls) l'
  | receive {l l' : σ} {room : Nat} {outcome : Except UsbError (List UInt8)}
    {calls : List LinkCall}
    (told : (BulkLink.receive room l).1 = outcome.mapError UsbError.reported)
    (rest : Played (BulkLink.receive room l).2 calls l') :
    Played l (.receive room outcome :: calls) l'
  | clearHalt {l l' : σ} {outcome : Except UsbError Unit} {calls : List LinkCall}
    (rest : Played (BulkLink.clearHalt l).2 calls l') : Played l (.clearHalt outcome :: calls) l'

namespace Session

/-- The device of a session is on the bus. -/
def Present (s : Session δ) : Prop := s.bus.Has s.handle.device.position

/-- Steps leave one record. -/
theorem Grew.unique {s s' : Session (Recorded δ)} {a b : List LinkCall} (h : Grew s a s')
    (h' : Grew s b s') : a = b :=
  List.append_cancel_left (h.bus.here.symm.trans h'.bus.here)

/-- A session went on from one state to another by the given calls, on a device that is there. -/
structure Made (s : Session (Recorded δ)) (calls : List LinkCall) (s' : Session (Recorded δ)) :
    Prop where
  grown : Grew s calls s'
  present : s'.Present

variable [BulkLink δ] {s : Session (Recorded δ)}

theorem made_send (present : s.Present) (octets : List UInt8) :
    ∃ outcome, (BulkLink.send octets s).1 = outcome.mapError UsbError.reported ∧
      Made s [.send octets outcome] (BulkLink.send octets s).2 := by
  obtain ⟨outcome, told, grown, there⟩ :=
    Bus.made_onLink present (BulkLink.send octets) (.send octets)
  exact ⟨outcome, congrArg (Except.mapError UsbError.reported) told,
    ⟨rfl, grown.here, grown.others⟩, there⟩

theorem made_receive (present : s.Present) (room : Nat) :
    ∃ outcome, (BulkLink.receive room s).1 = outcome.mapError UsbError.reported ∧
      Made s [.receive room outcome] (BulkLink.receive room s).2 := by
  obtain ⟨outcome, told, grown, there⟩ :=
    Bus.made_onLink present (BulkLink.receive room) (.receive room)
  exact ⟨outcome, congrArg (Except.mapError UsbError.reported) told,
    ⟨rfl, grown.here, grown.others⟩, there⟩

theorem made_clearHalt (present : s.Present) :
    ∃ outcome, Made s [.clearHalt outcome] (BulkLink.clearHalt s).2 := by
  obtain ⟨outcome, -, grown, there⟩ :=
    Bus.made_onLink present BulkLink.clearHalt .clearHalt
  have still := (Bus.untouched_perform s.handle.device.position .clearHalt
    (.haltCleared s.handle.device.position s.handle.device.storage.input.address)
    (Bus.onLink s.handle.device.position BulkLink.clearHalt s.bus).2).links
  rw [← Bus.clearHalt_snd] at still
  exact ⟨outcome, ⟨rfl, grown.trans (.of_links_eq still)⟩, there.of_links_eq still⟩

theorem Made.trans {s' s'' : Session (Recorded δ)} {a b : List LinkCall} (first : Made s a s')
    (second : Made s' b s'') : Made s (a ++ b) s'' :=
  ⟨transcript.trans first.grown second.grown, second.present⟩

/-- What a dialogue with a session adds to the record of the device is one of its courses, and the
device answered its calls as the record has it. -/
theorem course_hold {α : Type} (d : Dialogue α) (present : s.Present) :
    ∃ calls, Made s calls (d.hold s).2 ∧ d.Course calls (d.hold s).1 ∧
      Played s calls (d.hold s).2 := by
  induction d generalizing s with
  | done a => exact ⟨[], ⟨transcript.refl s, present⟩, .done a, .nil s⟩
  | send octets next ih =>
    obtain ⟨outcome, told, made⟩ := made_send present octets
    obtain ⟨calls, rest, course, played⟩ := ih (BulkLink.send octets s).1 made.present
    refine ⟨_, made.trans rest, ?_, .send told played⟩
    change (Dialogue.send octets next).Course _
      ((next (BulkLink.send octets s).1).hold (BulkLink.send octets s).2).1
    rw [told] at course ⊢
    exact .send outcome course
  | receive room next ih =>
    obtain ⟨outcome, told, made⟩ := made_receive present room
    obtain ⟨calls, rest, course, played⟩ := ih (BulkLink.receive room s).1 made.present
    refine ⟨_, made.trans rest, ?_, .receive told played⟩
    change (Dialogue.receive room next).Course _
      ((next (BulkLink.receive room s).1).hold (BulkLink.receive room s).2).1
    rw [told] at course ⊢
    exact .receive outcome course
  | clearHalt next ih =>
    obtain ⟨outcome, made⟩ := made_clearHalt present
    obtain ⟨calls, rest, course, played⟩ := ih made.present
    exact ⟨_, made.trans rest, .clearHalt outcome course, .clearHalt played⟩

end Session

namespace Conducts

variable {τ κ α : Type} [BulkLink δ] {link : τ → Session (Recorded δ)} {beside : τ → κ}
variable {talk : List LinkCall → Prop} {step : StateT τ LogM α}

/-- From equal states beside the link steps take courses of one dialogue. -/
theorem exists_course (h : Conducts link beside talk step) :
    ∃ d : κ → Dialogue (α × κ), ∀ x, (link x).Present →
      Ends step (fun a y => ∃ calls, (link x).Made calls (link y) ∧ talk calls ∧
        (d (beside x)).Course calls (a, beside y)) x := by
  obtain ⟨d, keeps, holds⟩ := h
  refine ⟨d, ?_⟩
  intro x present
  refine (holds x).mono ?_
  intro a y held
  obtain ⟨calls, made, course, -⟩ := Session.course_hold (d (beside x)) present
  rw [held] at made course
  exact ⟨calls, made, keeps _ calls _ course, course⟩

theorem ends_played (h : Conducts link beside talk step) {x : τ} (present : (link x).Present) :
    Ends step (fun _ y => ∃ calls, (link x).Made calls (link y) ∧ talk calls ∧
      Played (link x) calls (link y)) x := by
  obtain ⟨d, keeps, holds⟩ := h
  refine (holds x).mono ?_
  intro a y held
  obtain ⟨calls, made, course, played⟩ := Session.course_hold (d (beside x)) present
  rw [held] at made course played
  exact ⟨calls, made, keeps _ calls _ course, played⟩

theorem ends_made (h : Conducts link beside talk step) {x : τ} (present : (link x).Present) :
    Ends step (fun _ y => ∃ calls, (link x).Made calls (link y) ∧ talk calls) x := by
  refine (h.ends_played present).mono ?_
  intro a y ⟨calls, made, talked, _⟩
  exact ⟨calls, made, talked⟩

end Conducts

end PlayerLink
