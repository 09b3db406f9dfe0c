import PlayerLink.Proofs.Container.Trials

/-!
# Calls that are refused

A container refuses an entry if it has no slot left or if the data do not fit. `Trial.Refused` tells
such a call from one that failed on the medium. A refused call leaves the writer as it was, with one
exception, `Trial.Overran`: whether data fit behind those that are placed is asked when the entry is
recorded, and by then `append` has written them.
-/

namespace PlayerLink

/-- Whether a container turns something down by itself. -/
def ContainerError.IsRefusal : ContainerError → Prop
  | directoryFull | tooLarge _ => True
  | badMagic | file _ => False

instance : DecidablePred ContainerError.IsRefusal := fun e => by
  unfold ContainerError.IsRefusal
  split <;> infer_instance

namespace ContainerWriter

open ContainerHeader Medium

/-- A call whose data fit a container, but not behind those placed in this one. It went to where the
next data go and wrote all of them there, before it was refused. -/
structure Trial.Overran (t : Trial) (entry : ContainerEntry) (data : List UInt8) : Prop where
  filing : t.filing = .append entry data
  outcome : t.outcome = .error (.tooLarge data.length)
  slot : t.before.header.freeSlot ≠ none
  fits : data.length ≤ lastPlace
  beyond : lastPlace < t.before.header.nextOffset + data.length
  wrote : ∃ sought, seek t.before.header.nextOffset t.before.medium = (.ok (), sought) ∧
    writeAll data sought = (.ok (), t.after.medium)

/-- A call that was refused. -/
def Trial.Refused (t : Trial) : Prop := ∃ e, t.outcome = .error e ∧ e.IsRefusal

instance (t : Trial) : Decidable t.Refused :=
  match h : t.outcome with
  | .error e => decidable_of_iff e.IsRefusal (by simp [Trial.Refused, h])
  | .ok _ => isFalse (by simp [Trial.Refused, h])

/-- If the call was refused, the directory is the same, and so is the medium with all calls that
were made on it, unless it was for data that only overran. -/
def Trial.Harmless (t : Trial) : Prop :=
  t.Refused → t.after.header = t.before.header ∧
    (t.after.medium = t.before.medium ∨ ∃ entry data, t.Overran entry data)

/-- Why an entry is not recorded, short of a failure of the medium. Nothing was done then. -/
theorem ends_record_refused (entry : ContainerEntry) (w : ContainerWriter) :
    Ends (record entry).run
      (fun outcome w' => ∀ e, outcome = .error e → e.IsRefusal → w' = w ∧
        (e = .directoryFull ∧ w.header.freeSlot = none ∨ e = .tooLarge entry.length.toNat ∧
          lastPlace < w.header.nextOffset + entry.length.toNat)) w := by
  rw [record]
  refine Ends.bindExcept_get ?_
  cases free : w.header.freeSlot with
  | none =>
    refine Ends.pure_iff.mpr ?_
    rintro e ⟨⟩ -
    exact ⟨rfl, Or.inl ⟨rfl, rfl⟩⟩
  | some slot =>
    by_cases large : w.header.nextOffset + entry.length.toNat > 0xFFFFFFFF
    · simp only [if_pos large]
      refine Ends.pure_iff.mpr ?_
      rintro e ⟨⟩ -
      exact ⟨rfl, Or.inr ⟨rfl, large⟩⟩
    · simp only [if_neg large]
      refine Ends.bindExcept_set (Ends.bindExcept (ends_writeHeader_turns _) ?_ ?_)
      · rintro _ u -
        refine Ends.bindExcept_lift (Ends.pure_iff.mpr ?_)
        intro e ok
        cases ok
      · rintro e u ⟨-, k, -, outcome⟩ e' failed refusal
        cases failed
        rcases outcome with ⟨ok, -⟩ | ⟨cause, onMedium⟩
        · cases ok
        · cases onMedium
          exact refusal.elim

/-- A call that only the medium can fail is refused by nothing. -/
theorem ends_onMedium_refused (call : StateM Medium (Except FileError Unit)) (w : ContainerWriter) :
    Ends (onMedium call).run
      (fun outcome w' => w'.header = w.header ∧
        (outcome = .ok () → call w.medium = (.ok (), w'.medium)) ∧
        ∀ e, outcome = .error e → ¬ e.IsRefusal) w := by
  refine (gives_onMedium call w).ends ⟨rfl, fun ok => ?_, ?_⟩
  · exact Prod.ext (mapError_eq_ok ok) rfl
  · rintro e failed
    obtain ⟨cause, rfl⟩ := file_of_mapError failed.symm
    exact id

theorem ends_append_refused (entry : ContainerEntry) (data : List UInt8) (w : ContainerWriter) :
    Ends (append entry data).run
      (fun outcome w' => Trial.Harmless ⟨.append entry data, w, outcome, w'⟩) w := by
  have refused (e : ContainerError) :
      Ends (throw e : WriterM Nat).run
        (fun outcome w' => Trial.Harmless ⟨.append entry data, w, outcome, w'⟩) w :=
    Ends.pure_iff.mpr fun _ => ⟨rfl, Or.inl rfl⟩
  rw [append]
  by_cases large : data.length > 0xFFFFFFFF
  · rw [if_pos large]
    exact refused _
  rw [if_neg large]
  refine Ends.bindExcept_get ?_
  by_cases full : w.header.freeSlot.isNone
  · rw [if_pos full]
    exact refused _
  rw [if_neg full]
  have failed {e : ContainerError} {u : ContainerWriter} (medium : ¬ e.IsRefusal) :
      Trial.Harmless ⟨.append entry data, w, .error e, u⟩ := by
    rintro ⟨e', same, refusal⟩
    cases same
    exact absurd refusal medium
  refine Ends.bindExcept (Ends.bindExcept_get (ends_onMedium_refused (Medium.seek _) w)) ?_
    fun e u h => failed (h.2.2 e rfl)
  rintro _ u ⟨header, sought, -⟩
  refine Ends.bindExcept (ends_onMedium_refused (Medium.writeAll data) u) ?_
    fun e v h => failed (h.2.2 e rfl)
  rintro _ v ⟨header', wrote, -⟩
  have same : v.header = w.header := header'.trans header
  refine (ends_record_refused _ v).mono ?_
  rintro outcome x refusal ⟨e, rfl, no⟩
  have fits : data.length ≤ lastPlace := Nat.le_of_not_lt large
  have length : (UInt32.ofNat data.length).toNat = data.length :=
    UInt32.toNat_ofNat_of_lt' (Nat.lt_succ_of_le fits)
  obtain ⟨rfl, ⟨rfl, none⟩ | ⟨rfl, beyond⟩⟩ := refusal e rfl no
  · rw [same] at none
    rw [none] at full
    exact absurd rfl full
  · refine ⟨same, Or.inr ⟨entry, data, ?_⟩⟩
    rw [same, length] at beyond
    exact
      { filing := rfl
        outcome := by rw [length]
        slot := by simpa using full
        fits
        beyond
        wrote := ⟨u.medium, sought rfl, wrote rfl⟩ }

/-- The step: one call, of either kind, in whatever state the writer is. -/
theorem ends_perform_refused (filing : Filing) (w : ContainerWriter) :
    Ends filing.perform.run (fun outcome w' => Trial.Harmless ⟨filing, w, outcome, w'⟩) w := by
  cases filing with
  | append entry data => exact ends_append_refused entry data w
  | record entry =>
    refine (ends_record_refused entry w).mono ?_
    rintro outcome w' refusal ⟨e, failed, no⟩
    obtain ⟨rfl, -⟩ := refusal e failed no
    exact ⟨rfl, Or.inl rfl⟩

/-- Whatever entries are filed, on whatever medium: a call that is refused leaves the directory as
it was, and it has done nothing to the medium either, unless it was to append data that fit a
container but not behind those placed so far. These it has written to where the next data go. -/
theorem refused_call_harmless (medium : Medium) (vendorId productId : UInt16)
    (filings : List Filing) :
    Ends (tryAll filings)
      (fun run _ => (run.1 = .ok () → run.2.map Trial.filing = filings) ∧
        ∀ t ∈ run.2, t.Refused → t.after.header = t.before.header ∧
          (t.after.medium = t.before.medium ∨ ∃ entry data, t.Overran entry data))
      (on medium vendorId productId) :=
  ends_tryAll_each ends_perform_refused filings _

/-- Behind an entry that is said to end at the last place there is no room for five octets. They are
refused, but they were written: not every refused call leaves the medium alone. -/
theorem refused_call_wrote :
    ¬ Ends
      (tryAll
        [.record { ContainerEntry.unplaced (.ofList 11 [0x46, 0x57]) 0x49 0x8000 with
          length := 0xFFFFEFFF },
        .append (.unplaced (.ofList 11 [0x47, 0x57]) 0x49 0x8000) [1, 2, 3, 4, 5]])
      (fun run _ => ∀ t ∈ run.2, t.Refused →
        t.calls = [] ∧ t.after.header = t.before.header)
      (on { limit := some 0x100000 } 0x10D6 0x1101) := by
  intro all
  have second : ((tryAll
      [.record { ContainerEntry.unplaced (.ofList 11 [0x46, 0x57]) 0x49 0x8000 with
          length := 0xFFFFEFFF },
        .append (.unplaced (.ofList 11 [0x47, 0x57]) 0x49 0x8000) [1, 2, 3, 4, 5]]
      (on { limit := some 0x100000 } 0x10D6 0x1101) {}).1.1.2[1]?).any
        (fun t => t.Refused ∧
          t.calls = [.seek 0xFFFFFFFF, .write 0xFFFFFFFF [1, 2, 3, 4, 5]]) := by
    decide +kernel
  obtain ⟨t, there, found⟩ := (Option.any_eq_true _ _).mp second
  obtain ⟨refused, wrote⟩ := of_decide_eq_true found
  have none := (all {} t (List.mem_of_getElem? there) refused).1
  rw [wrote] at none
  cases none

end ContainerWriter

end PlayerLink
