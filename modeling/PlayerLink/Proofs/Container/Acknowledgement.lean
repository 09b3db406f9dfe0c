import PlayerLink.Proofs.Container.Trials

/-!
# Which entries a directory lists

A call that fails before it turns to the header leaves the directory as it was, so it can be made
again. Once a call has turned to the header, its entry is listed whether the header could be
written or not. The directory is therefore the record of the calls that turned to the header, in
the order in which they were made, and it is the record of those that were acknowledged as long as
none of them failed there.
-/

namespace PlayerLink

namespace ContainerWriter

open ContainerHeader Medium

namespace Trial

/-- Whether the call gave a slot. -/
def Acknowledged (t : Trial) : Prop := t.outcome.isOk

instance (t : Trial) : Decidable t.Acknowledged := inferInstanceAs (Decidable (_ = _))

/-- What is known of a call, `so` being the calls of the run up to it and including it. -/
structure Accounted (so : List Trial) (t : Trial) : Prop where
  /-- Short of the header a call can only fail, and nothing is recorded. -/
  spared : ¬ t.Turned → (∃ e, t.outcome = .error e) ∧ t.after.header = t.before.header
  turned : t.Turned → t.after.header.used = t.before.header.used ++ [t.filed]
  slot : ∀ slot, t.outcome = .ok slot → t.Turned ∧ slot = t.before.header.used.length
  listed : t.after.header.used = (so.filter fun u => u.Turned).map filed
  acknowledged :
    t.after.header.used = (so.filter fun u => u.Acknowledged).map filed ↔
      ∀ u ∈ so, u.Turned → u.Acknowledged

end Trial

/-- Of two selections, one within the other, the larger gives no more only if it is no larger. -/
theorem map_filter_eq_iff {α β : Type} (f : α → β) (l : List α) {p q : α → Prop}
    [DecidablePred p] [DecidablePred q] (within : ∀ a ∈ l, q a → p a) :
    (l.filter fun a => p a).map f = (l.filter fun a => q a).map f ↔ ∀ a ∈ l, p a → q a := by
  constructor
  · intro same a ha holds
    have inner : l.filter (fun a => q a) = (l.filter fun a => p a).filter fun a => q a := by
      rw [List.filter_filter]
      apply List.filter_congr
      intro b hb
      by_cases hq : q b
      · simp [hq, within b hb hq]
      · simp [hq]
    have count := congrArg List.length same
    rw [List.length_map, List.length_map, inner, eq_comm, List.length_filter_eq_length_iff] at count
    simpa using count a (by simp [ha, holds])
  · intro all
    congr 1
    apply List.filter_congr
    intro b hb
    have both : p b ↔ q b := ⟨all b hb, within b hb⟩
    simp [both]

/-- The directory after calls, when none but these filled it. -/
structure Listed (done : List Trial) (w : ContainerWriter) : Prop where
  compact : w.header.Compact
  used : w.header.used = (done.filter fun u => u.Turned).map Trial.filed
  turned : ∀ u ∈ done, u.Acknowledged → u.Turned

theorem Trial.isUsed_filed {t : Trial} (used : t.filing.entry.IsUsed) : t.filed.IsUsed := used

/-- The step: what is listed before a call is listed after it, and so is its own entry if it turned
to the header. -/
theorem Listed.step {done : List Trial} {t : Trial} (listed : Listed done t.before)
    (used : t.filing.entry.IsUsed) (tried : Tried t.filing t.before t.outcome t.after) :
    Listed (done ++ [t]) t.after := by
  have within (last : t.Acknowledged → t.Turned) :
      ∀ u ∈ done ++ [t], u.Acknowledged → u.Turned := by
    intro u hu
    rcases List.mem_append.mp hu with hu | hu
    · exact listed.turned u hu
    · rw [List.mem_singleton.mp hu]
      exact last
  rcases tried.cases with ⟨header, ⟨e, failed⟩, still, -⟩ | ⟨slot, free, header, turned, -⟩
  · refine ⟨header ▸ listed.compact, ?_, within ?_⟩
    · rw [header, listed.used, List.filter_append]
      simp [still]
    · rw [Trial.Acknowledged, failed]
      exact nofun
  · obtain ⟨grown, compact⟩ := listed.compact.place free (Trial.isUsed_filed used)
    refine ⟨header ▸ compact, ?_, within fun _ => turned⟩
    rw [header, grown, listed.used, List.filter_append, List.map_append]
    simp [turned]

/-- What a call did to the directory, and what that makes of the directory as a record. -/
theorem Listed.accounted {done : List Trial} {t : Trial} (listed : Listed done t.before)
    (used : t.filing.entry.IsUsed) (tried : Tried t.filing t.before t.outcome t.after) :
    t.Accounted (done ++ [t]) := by
  have after := listed.step used tried
  refine
    { spared := ?_
      turned := ?_
      slot := ?_
      listed := after.used
      acknowledged := ?_ }
  · intro still
    rcases tried.cases with ⟨header, failed, -⟩ | ⟨slot, -, -, turned, -⟩
    · exact ⟨failed, header⟩
    · exact absurd turned still
  · intro turned
    rcases tried.cases with ⟨-, -, still, -⟩ | ⟨slot, free, header, -⟩
    · exact absurd turned still
    · rw [header]
      exact (listed.compact.place free (Trial.isUsed_filed used)).1
  · intro slot ok
    rcases tried.cases with ⟨-, ⟨e, failed⟩, -⟩ | ⟨free, hfree, -, turned, -, outcome⟩
    · rw [failed] at ok
      cases ok
    · rcases outcome with ⟨ok', -⟩ | ⟨cause, failed⟩
      · rw [ok', Except.ok.injEq] at ok
        subst ok
        exact ⟨turned, listed.compact.freeSlot_eq hfree⟩
      · rw [failed] at ok
        cases ok
  · rw [after.used]
    exact map_filter_eq_iff Trial.filed _ after.turned

/-- For every medium, whatever its script: while entries that count as used are filed, the
directory lists the calls that turned to the header, each from that call on, and no other. They
are the acknowledged calls exactly if no call failed after it had turned to the header. -/
theorem directory_lists_turned (medium : Medium) (vendorId productId : UInt16)
    (filings : List Filing) (used : ∀ f ∈ filings, f.entry.IsUsed) :
    Ends (tryAll filings)
      (fun run _ => (run.1 = .ok () → run.2.map Trial.filing = filings) ∧
        ∀ (i : Nat) t, run.2[i]? = some t → t.Accounted (run.2.take (i + 1)))
      (on medium vendorId productId) := by
  have opened (w : ContainerWriter) (header : w.header = .empty vendorId productId)
      (_ : Turns w.header size medium w.medium) : Listed [] w := by
    refine ⟨header ▸ compact_empty vendorId productId, ?_, by simp⟩
    rw [header, used_empty]
    rfl
  refine (ends_tryAll (fun done t used _ listed tried => listed.step used tried) opened filings
    used).mono ?_
  rintro ⟨opened, ts⟩ _ ⟨filed, each⟩
  refine ⟨filed, fun i t there => ?_⟩
  obtain ⟨asked, tried, before, -⟩ := each i t there
  rw [List.take_add_one, there]
  exact before.accounted asked tried

/-- The same part twice, on a medium that is full while the header is written for the first of
them. -/
theorem directory_lists_turned_full :
    Ends
      (tryAll (.replicate 2 (.append (.unplaced (.ofList 11 [0x46, 0x57]) 0x49 0x8000) [1, 2, 3])))
      (fun run _ =>
        (run.1 = .ok () → run.2.map Trial.filing =
          .replicate 2 (.append (.unplaced (.ofList 11 [0x46, 0x57]) 0x49 0x8000) [1, 2, 3])) ∧
        ∀ (i : Nat) t, run.2[i]? = some t → t.Accounted (run.2.take (i + 1)))
      (on { writes := [.all, .all, .fail .storageFull] } 0x10D6 0x1101) :=
  directory_lists_turned _ _ _ _ (by decide)

/-- There the first call failed and its entry is listed all the same: the directory does not list
just the acknowledged calls. -/
theorem directory_lists_unacknowledged :
    ¬ Ends
      (tryAll (.replicate 2 (.append (.unplaced (.ofList 11 [0x46, 0x57]) 0x49 0x8000) [1, 2, 3])))
      (fun run _ => ∀ (i : Nat) t, run.2[i]? = some t →
        t.after.header.used =
            ((run.2.take (i + 1)).filter fun u => u.Acknowledged).map Trial.filed ∧
          ((∃ e, t.outcome = .error e) → t.after.header = t.before.header))
      (on { writes := [.all, .all, .fail .storageFull] } 0x10D6 0x1101) := by
  intro all
  have first : ((tryAll
      (.replicate 2 (.append (.unplaced (.ofList 11 [0x46, 0x57]) 0x49 0x8000) [1, 2, 3]))
      (on { writes := [.all, .all, .fail .storageFull] } 0x10D6 0x1101) {}).1.1.2[0]?).any
        (fun t => t.after.header.used.length = 1 ∧ ¬ t.Acknowledged) := by
    decide +kernel
  obtain ⟨t, there, failed⟩ := (Option.any_eq_true _ _).mp first
  obtain ⟨one, unacknowledged⟩ := of_decide_eq_true failed
  obtain ⟨listed, -⟩ := all {} 0 t there
  have none : (([t] : List Trial).filter fun u => u.Acknowledged) = [] := by
    simp [unacknowledged]
  rw [List.take_add_one, there, List.take_zero, Option.toList_some, List.nil_append, none] at listed
  rw [listed] at one
  cases one

end ContainerWriter

end PlayerLink
