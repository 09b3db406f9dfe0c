import PlayerLink.Files.Folder

/-!
# Files in the working folder

What was put into a file is what stands in it. A file that is written through a buffer has what was
written, whether it waits in the buffer or not.
-/

namespace PlayerLink

namespace Folder

/-- Changing the content of a file that is there. -/
theorem lookup_map_of_isSome {files : List (String × List UInt8)} {name : String}
    (content : List UInt8) (there : (files.lookup name).isSome) :
    (files.map fun (other, old) => (other, if other = name then content else old)).lookup name =
      some content := by
  induction files with
  | nil => cases there
  | cons file rest ih =>
    obtain ⟨other, old⟩ := file
    by_cases same : name = other
    · subst same
      simp
    · have differ : (name == other) = false := by simpa using same
      simp only [List.map_cons, List.lookup_cons, differ] at there ⊢
      exact ih there

theorem content?_put (f : Folder) (name : String) (content : List UInt8) :
    (f.put name content).content? name = some content := by
  by_cases there : (f.content? name).isSome
  · rw [put, if_pos there, content?]
    exact lookup_map_of_isSome content there
  · have none : f.files.lookup name = none := Option.not_isSome_iff_eq_none.mp there
    rw [put, if_neg there, content?, List.lookup_append, none]
    simp

end Folder

namespace OutputFile

variable {o o' : OutputFile}

/-- Handing over what waits changes nothing of what was written. -/
theorem written_of_flush (ok : o.flush = .ok o') : o'.written = o.written ∧ o'.place = o.place := by
  rw [flush] at ok
  split at ok
  · cases ok
    exact ⟨rfl, rfl⟩
  · split at ok
    · cases ok
    · cases ok
      exact ⟨by simp [written], rfl⟩

theorem written_of_write {bs : List UInt8} (ok : o.write bs = .ok o') :
    o'.written = o.written ++ bs ∧ o'.place = o.place := by
  have appended (p : OutputFile) :
      ({ p with waiting := bs :: p.waiting } : OutputFile).written = p.written ++ bs := by
    simp [written]
  rw [write] at ok
  split at ok
  · cases flushed : o.flush with
    | error e =>
      rw [flushed] at ok
      cases ok
    | ok p =>
      rw [flushed] at ok
      cases ok
      obtain ⟨same, place⟩ := written_of_flush flushed
      exact ⟨by rw [appended, same], place⟩
  · cases ok
    exact ⟨appended o, rfl⟩

/-- Only a device that is full does not take what is handed over. -/
theorem exists_flush (writable : o.place ≠ .device .full) : ∃ o', o.flush = .ok o' := by
  rw [flush]
  by_cases empty : o.waitingSize = 0
  · exact ⟨o, if_pos empty⟩
  · rw [if_neg empty, if_neg writable]
    exact ⟨_, rfl⟩

theorem exists_write (writable : o.place ≠ .device .full) (bs : List UInt8) :
    ∃ o', o.write bs = .ok o' := by
  obtain ⟨p, flushed⟩ := exists_flush writable
  rw [write]
  by_cases exceeds : o.waitingSize + bs.length > room
  · rw [if_pos exceeds, flushed]
    exact ⟨_, rfl⟩
  · rw [if_neg exceeds]
    exact ⟨_, rfl⟩

end OutputFile

end PlayerLink
