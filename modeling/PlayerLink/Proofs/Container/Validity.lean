import PlayerLink.Proofs.Container.Trials

/-!
# When the file is a valid container

The header is written over the one before it, so what stands in front of the data after a call is a
first part of the new header followed by the rest of what stood there. It always starts with the
mark, so it can always be read as a header. Its sum is right whenever the last call that wrote there
wrote all of its header; a call that stopped in between leaves a part of either.
-/

namespace PlayerLink

/-- A file that can be read as a container and whose sum is right. -/
def ContainerHeader.Valid (file : List UInt8) : Prop :=
  match ofOctets file with
  | .ok h => h.SumOk
  | .error _ => False

instance (file : List UInt8) : Decidable (ContainerHeader.Valid file) := by
  unfold ContainerHeader.Valid
  split <;> infer_instance

namespace ContainerWriter

open ContainerHeader Medium

/-- The last call that put anything in front of the data. -/
def lastInFront (ts : List Trial) : Option Trial := ts.reverse.find? fun t => t.inFront ≠ 0

/-- The header of the last call that put anything in front of the data, or the one that the
container was opened with. -/
def standing (first : ContainerHeader) (ts : List Trial) : ContainerHeader :=
  ((lastInFront ts).map fun t => t.after.header).getD first

/-- Whether that call put down all of its header. -/
def Whole (ts : List Trial) : Prop := ∀ t ∈ lastInFront ts, t.inFront = size

/-- What is known of the file after a call, `so` being the calls of the run up to it and including
it. -/
structure Trial.OnFile (first : ContainerHeader) (so : List Trial) (t : Trial) : Prop where
  parsed : ∃ h, ofOctets t.after.medium.content = .ok h
  front : t.after.medium.content.take size =
    t.after.header.toOctets.take t.inFront ++ (t.before.medium.content.take size).drop t.inFront
  acknowledged : ∀ slot, t.outcome = .ok slot → t.inFront = size
  whole : Whole so → ofOctets t.after.medium.content = .ok (standing first so) ∧
    Valid t.after.medium.content

variable {first h : ContainerHeader} {done : List Trial} {t : Trial} {w : ContainerWriter}

theorem lastInFront_append (done : List Trial) (t : Trial) :
    lastInFront (done ++ [t]) = if t.inFront = 0 then lastInFront done else some t := by
  rw [lastInFront, List.reverse_append, List.reverse_singleton, List.singleton_append,
    List.find?_cons]
  by_cases none : t.inFront = 0
  · simp [none, lastInFront]
  · simp [none]

theorem standing_append (first : ContainerHeader) (done : List Trial) (t : Trial) :
    standing first (done ++ [t]) =
      if t.inFront = 0 then standing first done else t.after.header := by
  rw [standing, lastInFront_append]
  split <;> rfl

theorem whole_append (done : List Trial) (t : Trial) :
    Whole (done ++ [t]) ↔ if t.inFront = 0 then Whole done else t.inFront = size := by
  rw [Whole, lastInFront_append]
  by_cases none : t.inFront = 0
  · rw [if_pos none, if_pos none]
    rfl
  · rw [if_neg none, if_neg none]
    simp

/-- A header that starts with the mark and whose sum is right. -/
structure Sound (h : ContainerHeader) : Prop where
  marked : h.magic.toList.take mark.length = mark
  sum : h.SumOk

namespace Sound

theorem empty (vendorId productId : UInt16) : Sound (.empty vendorId productId) :=
  ⟨rfl, sumOk_empty vendorId productId⟩

theorem advance {h' : ContainerHeader} (sound : Sound h) (advance : Advance h h') : Sound h' := by
  cases advance with
  | stay => exact sound
  | place slot e free here fits => exact ⟨sound.marked, sumOk_place⟩

theorem take_mark (sound : Sound h) : h.toOctets.take mark.length = mark := by
  obtain ⟨tail, octets⟩ : ∃ tail, h.toOctets = h.magic.toList ++ tail := ⟨_, rfl⟩
  rw [octets, List.take_append_of_le_length (by simp [mark]), sound.marked]

/-- A file with all of a sound header in front is read as that header. -/
theorem ofOctets_eq (sound : Sound h) {file : List UInt8} (front : file.take size = h.toOctets) :
    ofOctets file = .ok h ∧ Valid file := by
  have read : ofOctets file = .ok h := by
    rw [← List.take_append_drop size file, front]
    exact ofOctets_append sound.marked _
  refine ⟨read, ?_⟩
  rw [Valid, read]
  exact sound.sum

end Sound

/-- What holds of the file between two calls. -/
structure Fronted (first : ContainerHeader) (done : List Trial) (w : ContainerWriter) : Prop where
  limit : w.medium.limit = none
  long : size ≤ w.medium.content.length
  marked : w.medium.content.take mark.length = mark
  inMemory : Sound w.header
  inFile : Sound (standing first done)
  whole : Whole done → w.medium.content.take size = (standing first done).toOctets

theorem take_mark_eq (file : List UInt8) :
    file.take mark.length = (file.take size).take mark.length := by
  rw [List.take_take]
  rfl

theorem le_length_of_take_size {file : List UInt8} (full : (file.take size).length = size) :
    size ≤ file.length := by
  rw [List.length_take] at full
  omega

namespace Fronted

theorem opened {vendorId productId : UInt16} {medium : Medium} (unlimited : medium.limit = none)
    (header : w.header = .empty vendorId productId) (turns : Turns w.header size medium w.medium) :
    Fronted (.empty vendorId productId) [] w := by
  have front : w.medium.content.take size = w.header.toOctets := by
    apply List.ext_getElem?
    intro p
    by_cases inside : p < size
    · rw [List.getElem?_take_of_lt inside, turns.front unlimited p inside]
    · rw [List.getElem?_eq_none (by rw [List.length_take]; omega),
        List.getElem?_eq_none (by rw [length_toOctets]; omega)]
  have sound : Sound w.header := by
    rw [header]
    exact .empty vendorId productId
  refine
    { limit := turns.limit.trans unlimited
      long := le_length_of_take_size (by rw [front, length_toOctets])
      marked := by rw [take_mark_eq, front, sound.take_mark]
      inMemory := sound
      inFile := .empty vendorId productId
      whole := ?_ }
  intro _
  rw [front, header]
  rfl

/-- The front of the file after a call, whichever way it came out. -/
theorem take_size (fronted : Fronted first done t.before)
    (tried : Tried t.filing t.before t.outcome t.after) :
    t.after.medium.content.take size =
      t.after.header.toOctets.take t.inFront ++
        (t.before.medium.content.take size).drop t.inFront := by
  rcases tried.cases with ⟨-, -, -, spares⟩ | ⟨slot, -, -, -, turns, -⟩
  · rw [(Trial.of_spares spares).2, spares.take_size fronted.long, List.take_zero, List.drop_zero,
      List.nil_append]
  · exact turns.take_size fronted.limit fronted.long

theorem le_length_after (fronted : Fronted first done t.before)
    (tried : Tried t.filing t.before t.outcome t.after) : size ≤ t.after.medium.content.length := by
  have long := fronted.long
  have le := tried.inFront_le
  apply le_length_of_take_size
  rw [fronted.take_size tried, List.length_append, List.length_take, List.length_drop,
    List.length_take, length_toOctets]
  omega

/-- A part of one header and the rest of another start with the mark, since both do. -/
theorem take_mark_after (fronted : Fronted first done t.before)
    (tried : Tried t.filing t.before t.outcome t.after) :
    t.after.medium.content.take mark.length = mark := by
  have new := (fronted.inMemory.advance tried.advance).take_mark
  have old : (t.before.medium.content.take size).take mark.length = mark := by
    rw [← take_mark_eq, fronted.marked]
  have le : t.inFront ≤ t.after.header.toOctets.length := by
    rw [length_toOctets]
    exact tried.inFront_le
  rw [take_mark_eq, fronted.take_size tried, take_take_append_drop (new.trans old.symm) le, new]

/-- The step: a call keeps the mark, and if it wrote in front of the data at all, it is what it
wrote that the file is read by. -/
theorem step (fronted : Fronted first done t.before)
    (tried : Tried t.filing t.before t.outcome t.after) :
    Fronted first (done ++ [t]) t.after := by
  have front := fronted.take_size tried
  have sound := fronted.inMemory.advance tried.advance
  refine
    { limit := tried.limit.trans fronted.limit
      long := fronted.le_length_after tried
      marked := fronted.take_mark_after tried
      inMemory := sound
      inFile := ?_
      whole := ?_ }
  · rw [standing_append]
    split
    · exact fronted.inFile
    · exact sound
  · rw [whole_append, standing_append]
    by_cases none : t.inFront = 0
    · rw [if_pos none, if_pos none]
      intro whole
      rw [front, none, List.take_zero, List.drop_zero, List.nil_append, fronted.whole whole]
    · rw [if_neg none, if_neg none]
      intro all
      have old : (t.before.medium.content.take size).drop size = [] :=
        List.drop_eq_nil_of_le (List.length_take_le size _)
      rw [front, all, old, List.append_nil, ← length_toOctets t.after.header, List.take_length]

theorem onFile (before : Fronted first done t.before)
    (tried : Tried t.filing t.before t.outcome t.after) : t.OnFile first (done ++ [t]) := by
  have after := before.step tried
  refine
    { parsed := ⟨layout.decode t.after.medium.content, ?_⟩
      front := before.take_size tried
      acknowledged := ?_
      whole := fun whole => after.inFile.ofOctets_eq (after.whole whole) }
  · rw [ofOctets, if_pos ⟨after.marked, after.long⟩]
  · intro slot ok
    rcases tried.cases with ⟨-, ⟨e, failed⟩, -⟩ | ⟨slot', -, -, -, -, outcome⟩
    · rw [failed] at ok
      cases ok
    · rcases outcome with ⟨-, all⟩ | ⟨cause, failed⟩
      · exact all
      · rw [failed] at ok
        cases ok

end Fronted

/-- For every script of failures, and whatever was in the file before: after each call the file can
be read as a header; in front of the data stand the octets of the new header that the call put
there, all of them if it succeeded, and behind them what stood there before; and if the last call
that put anything there put down all of its header, the file is valid and is read as that header. -/
theorem file_reads_as_standing (medium : Medium) (vendorId productId : UInt16)
    (filings : List Filing) (unlimited : medium.limit = none) :
    Ends (tryAll filings)
      (fun run _ => (run.1 = .ok () → run.2.map Trial.filing = filings) ∧
        ∀ (i : Nat) t, run.2[i]? = some t →
          t.OnFile (.empty vendorId productId) (run.2.take (i + 1)))
      (on medium vendorId productId) := by
  refine (ends_tryAll (fun done t _ _ fronted tried => fronted.step tried)
    (fun w header turns => Fronted.opened unlimited header turns) filings
    (fun _ _ => trivial)).mono ?_
  rintro run _ ⟨filed, each⟩
  refine ⟨filed, fun i t there => ?_⟩
  obtain ⟨-, tried, before, -⟩ := each i t there
  rw [List.take_add_one, there]
  exact before.onFile tried

/-- Two parts, on a medium that is full while the header is written for the first of them and has
room again for the second. -/
theorem file_reads_as_standing_full :
    Ends
      (tryAll (.replicate 2 (.append (.unplaced (.ofList 11 [0x46, 0x57]) 0x49 0x8000) [1, 2, 3])))
      (fun run _ =>
        (run.1 = .ok () → run.2.map Trial.filing =
          .replicate 2 (.append (.unplaced (.ofList 11 [0x46, 0x57]) 0x49 0x8000) [1, 2, 3])) ∧
        ∀ (i : Nat) t, run.2[i]? = some t →
          t.OnFile (.empty 0x10D6 0x1101) (run.2.take (i + 1)))
      (on { writes := [.all, .all, .upTo 100, .fail .storageFull] } 0x10D6 0x1101) :=
  file_reads_as_standing _ _ _ _ rfl

/-- There the first call leaves a hundred octets of its header in front of the rest of the header
of the empty container, and the sum is wrong: the file is not valid at every point. -/
theorem file_invalid_halfway :
    ¬ Ends (tryAll [.append (.unplaced (.ofList 11 [0x46, 0x57]) 0x49 0x8000) [1, 2, 3]])
      (fun run _ => ∀ (i : Nat) t, run.2[i]? = some t → Valid t.after.medium.content)
      (on { writes := [.all, .all, .upTo 100, .fail .storageFull] } 0x10D6 0x1101) := by
  intro all
  have first : ((tryAll [.append (.unplaced (.ofList 11 [0x46, 0x57]) 0x49 0x8000) [1, 2, 3]]
      (on { writes := [.all, .all, .upTo 100, .fail .storageFull] } 0x10D6 0x1101)
      {}).1.1.2[0]?).any (fun t => ¬ Valid t.after.medium.content) := by
    decide +kernel
  obtain ⟨t, there, invalid⟩ := (Option.any_eq_true _ _).mp first
  exact of_decide_eq_true invalid (all {} 0 t there)

end ContainerWriter

end PlayerLink
