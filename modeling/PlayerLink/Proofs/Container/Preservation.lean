import PlayerLink.Proofs.Container.Operations

/-!
# What was recorded stays

A writer is asked to append, to record and to stream in any order, and any of it may fail at any
call on the medium. Entries are placed one behind the other all the same, and a used slot and the
octets of its data are never changed by anything that is asked later.

`Served` is what one request may do, `Survives` what any number of them leaves of a container.
The invariant between requests is `ContainerHeader.Placed`.
-/

namespace PlayerLink

namespace ContainerWriter

open ContainerHeader Medium

/-- What a writer may be asked for. -/
inductive Request where
  | append (entry : ContainerEntry) (data : List UInt8)
  | record (entry : ContainerEntry)
  | stream (pieces : List (List UInt8))
  /-- Pieces that are written even after one of them failed. -/
  | insist (pieces : List (List UInt8))

/-- Whether a request is to write the header. -/
def Request.Records : Request → Prop
  | .append .. | .record _ => True
  | .stream _ | .insist _ => False

/-- Writes pieces one after the other, whether they fail or not. -/
def writeEach : List (List UInt8) → StateT ContainerWriter LogM Unit
  | [] => pure ()
  | piece :: rest => do
    let _ ← (writeData piece).run
    writeEach rest

/-- Serves a request and goes on, whether it failed or not. -/
def serve : Request → StateT ContainerWriter LogM Unit
  | .append entry data => do
    let _ ← (append entry data).run
  | .record entry => do
    let _ ← (record entry).run
  | .stream pieces => do
    let _ ← (stream pieces).run
  | .insist pieces => do
    match ← seekData.run with
    | .error _ => pure ()
    | .ok () => writeEach pieces

/-- Serves requests one after the other. -/
def serveAll : List Request → StateT ContainerWriter LogM Unit
  | [] => pure ()
  | r :: rest => do
    serve r
    serveAll rest

variable {w w' w'' : ContainerWriter}

/-! ### One request -/

/-- What one request may do: write data behind those placed last, move the directory on by one
entry, and, if it is to record one, put the header at the start. -/
structure Served (r : Request) (w w' : ContainerWriter) : Prop where
  advance : Advance w.header w'.header
  puts : ∃ mid, Behind w.header.nextOffset w.medium mid ∧
    Puts 0 w'.header.toOctets mid w'.medium ∧ (¬ r.Records → mid = w'.medium)

theorem Served.of_behind {r : Request} (header : w'.header = w.header)
    (data : Behind w.header.nextOffset w.medium w'.medium) : Served r w w' :=
  ⟨header ▸ .stay, w'.medium, data, .refl _ _ w'.medium, fun _ => rfl⟩

theorem Wrote.behind {place : Nat} {bs : List UInt8} (wrote : Wrote place bs w w') :
    Behind place w.medium w'.medium :=
  .of_puts wrote.puts (Nat.le_refl place)

theorem ends_writeEach {place : Nat} (pieces : List (List UInt8)) (w : ContainerWriter)
    (start : place ≤ w.medium.position) :
    Ends (writeEach pieces)
      (fun _ w' => w'.header = w.header ∧ Behind place w.medium w'.medium) w := by
  induction pieces generalizing w with
  | nil => exact Ends.pure_iff.mpr ⟨rfl, .refl place w.medium⟩
  | cons piece rest ih =>
    refine Ends.bind (ends_writeData_behind piece w start) ?_
    rintro _ u ⟨header, behind, start'⟩
    refine (ih u start').mono ?_
    rintro _ v ⟨header', behind'⟩
    exact ⟨header'.trans header, behind.trans behind'⟩

theorem ends_serve (r : Request) (w : ContainerWriter) :
    Ends (serve r) (fun _ w' => Served r w w') w := by
  cases r with
  | append entry data =>
    refine Ends.bind (ends_append entry data w) ?_
    rintro _ w' ⟨mid, wrote, recorded⟩
    exact Ends.pure_iff.mpr
      ⟨wrote.header ▸ recorded.advance, mid.medium, wrote.behind, recorded.puts,
        fun none => absurd trivial none⟩
  | record entry =>
    refine Ends.bind (ends_record entry w) fun _ w' recorded => Ends.pure_iff.mpr ?_
    exact ⟨recorded.advance, w.medium, .refl _ w.medium, recorded.puts,
      fun none => absurd trivial none⟩
  | stream pieces =>
    refine Ends.bind (ends_stream pieces w) fun _ w' wrote => Ends.pure_iff.mpr ?_
    exact .of_behind wrote.header wrote.behind
  | insist pieces =>
    refine Ends.bind (ends_seekData [] w) ?_
    rintro outcome u ⟨wrote, position⟩
    cases outcome with
    | error e => exact Ends.pure_iff.mpr (.of_behind wrote.header wrote.behind)
    | ok _ =>
      refine (ends_writeEach pieces u (Nat.le_of_eq (position rfl).symm)).mono ?_
      rintro _ w' ⟨header, behind⟩
      exact .of_behind (header.trans wrote.header) (wrote.behind.trans behind)

/-- What is left of a container: its used slots, and every octet of their data. -/
structure Survives (w w' : ContainerWriter) : Prop where
  slot : ∀ (i : Nat) (f : ContainerEntry), w.header.entries.toList[i]? = some f → f.IsUsed →
    w'.header.entries.toList[i]? = some f
  octets : ∀ f ∈ w.header.used, ∀ p, f.offset.toNat ≤ p → p < f.endOffset →
    Keeps p w.medium.content w'.medium.content

theorem Survives.refl (w : ContainerWriter) : Survives w w :=
  ⟨fun _ _ there _ => there, fun _ _ p _ _ => .refl p w.medium.content⟩

theorem Survives.trans (first : Survives w w') (second : Survives w' w'') :
    Survives w w'' where
  slot i f there used := second.slot i f (first.slot i f there used) used
  octets f hf p start finish := by
    obtain ⟨i, there, used⟩ := mem_used.mp hf
    have still : f ∈ w'.header.used := mem_used.mpr ⟨i, first.slot i f there used, used⟩
    exact (first.octets f hf p start finish).trans (second.octets f still p start finish)

/-- Entries stay apart when the directory moves on. -/
theorem Advance.placed {h h' : ContainerHeader} (advance : Advance h h') (placed : h.Placed) :
    h'.Placed := by
  cases advance with
  | stay => exact placed
  | place slot e free here fits =>
    have offset : e.offset.toNat = h.nextOffset := by rw [here, placed.toNat_nextOffset]
    refine placed.place free offset ?_
    rw [ContainerEntry.endOffset, offset]
    exact fits

theorem Advance.getElem? {h h' : ContainerHeader} (advance : Advance h h') {i : Nat}
    {f : ContainerEntry} (there : h.entries.toList[i]? = some f) (used : f.IsUsed) :
    h'.entries.toList[i]? = some f := by
  cases advance with
  | stay => exact there
  | place slot e free here fits => exact getElem?_place_of_used free there used

/-- The data of a used entry lie between the header and the place of the next data, so neither of
the two runs of octets that a request puts touches them. -/
theorem Served.survives {r : Request} (served : Served r w w') (placed : w.header.Placed) :
    Survives w w' where
  slot _ _ there used := served.advance.getElem? there used
  octets f hf p start finish := by
    obtain ⟨mid, data, header, -⟩ := served.puts
    have front : size ≤ f.offset.toNat := (placed.bounds f hf).1
    have back : f.endOffset ≤ w.header.nextOffset := endOffset_le_nextOffset hf
    refine (data.keeps p (by omega)).trans (header.keeps p (Or.inr ?_))
    rw [length_toOctets]
    omega

/-! ### Any number of requests -/

theorem ends_serveAll (requests : List Request) (w : ContainerWriter)
    (placed : w.header.Placed) :
    Ends (serveAll requests) (fun _ w' => w'.header.Placed ∧ Survives w w') w := by
  induction requests generalizing w with
  | nil => exact Ends.pure_iff.mpr ⟨placed, .refl w⟩
  | cons r rest ih =>
    refine Ends.bind (ends_serve r w) fun _ u served => ?_
    have first := served.survives placed
    refine (ih u (served.advance.placed placed)).mono ?_
    rintro _ v ⟨placed', second⟩
    exact ⟨placed', first.trans second⟩

/-- Whether the first header could be written or not, it is that of an empty container. -/
theorem ends_writeHeader_on (medium : Medium) (vendorId productId : UInt16) :
    Ends writeHeader.run (fun _ w => w.header = .empty vendorId productId)
      (on medium vendorId productId) :=
  (ends_writeHeader _).mono fun _ _ wrote => wrote.header

/-- For every medium, whatever its script: after any requests the used entries have their places
behind the header, within reach and apart from each other; whatever is asked later leaves their
slots and their octets as they are; and in whatever is asked then, the writes that bring data stay
behind the header, and the only writes in front of them bring the header. -/
theorem recorded_content_survives (medium : Medium) (vendorId productId : UInt16)
    (before later : List Request) (r : Request) :
    Ends (do
        let _ ← writeHeader.run
        serveAll before
        let w ← get
        serveAll later
        let w' ← get
        serve r
        pure (w, w'))
      (fun (w, w') w'' =>
        w.header.Placed ∧
        (UInt32.ofNat w.header.nextOffset).toNat = w.header.nextOffset ∧
        Survives w w' ∧
        ∃ data header, w''.medium.calls.toList = w'.medium.calls.toList ++ data ++ header ∧
          (∀ position taken, .write position taken ∈ data → size ≤ position) ∧
          Lays 0 w''.header.toOctets header ∧ (¬ r.Records → header = []))
      (on medium vendorId productId) := by
  refine Ends.bind (ends_writeHeader_on medium vendorId productId) fun _ u opened => ?_
  have placed₀ : u.header.Placed := opened ▸ placed_empty vendorId productId
  refine Ends.bind (ends_serveAll before u placed₀) ?_
  rintro _ w ⟨placed, -⟩
  refine Ends.bind_get (Ends.bind (ends_serveAll later w placed) ?_)
  rintro _ w' ⟨placed', survives⟩
  refine Ends.bind_get (Ends.bind (ends_serve r w') fun _ w'' served => Ends.pure_iff.mpr ?_)
  obtain ⟨mid, data, header, quiet⟩ := served.puts
  obtain ⟨first, hfirst, behind⟩ := data.calls
  obtain ⟨second, hsecond, lays⟩ := header.calls
  refine ⟨placed, placed.toNat_nextOffset, survives, first, second, ?_, ?_, lays, ?_⟩
  · rw [hsecond, hfirst]
  · intro position taken ht
    exact Nat.le_trans placed'.size_le_nextOffset (behind position taken ht)
  · intro none
    rw [quiet none] at hsecond
    exact List.append_right_eq_self.mp hsecond.symm

end ContainerWriter

end PlayerLink
