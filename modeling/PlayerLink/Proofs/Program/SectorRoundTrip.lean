import PlayerLink.Program.Run
import PlayerLink.Proofs.Engine.Disk
import PlayerLink.Proofs.Program.Dumping

/-!
# Writing a file to a disk and reading it back

A file is cut into sectors, the last one filled up with zeros, and each goes to its own place on the
disk. No other sector changes, so the sectors that are read back afterwards are those of the file.
-/

namespace PlayerLink

open RunM

/-! ### Cutting -/

/-- The part in front of a place is filled up only if nothing is behind it. -/
theorem zeroPad_add (a b : Nat) (bs : List UInt8) :
    zeroPad (a + b) bs = zeroPad a bs ++ zeroPad b (bs.drop a) := by
  rcases Nat.le_total a bs.length with long | short
  · have rest : a + b - (bs.take (a + b)).length = b - ((bs.drop a).take b).length := by
      rw [List.length_take, List.length_take, List.length_drop]
      omega
    rw [zeroPad_of_le long, zeroPad, zeroPad, rest, List.take_add, List.append_assoc]
  · have zeros : a + b - bs.length = a - bs.length + b := by omega
    rw [zeroPad, zeroPad, zeroPad, List.take_of_length_le (by omega), List.take_of_length_le short,
      List.drop_of_length_le short, List.take_nil, List.nil_append, List.length_nil, Nat.sub_zero,
      zeros, ← List.replicate_append_replicate, List.append_assoc]

theorem zeroPad_of_ge {n : Nat} {bs : List UInt8} (h : bs.length ≤ n) :
    zeroPad n bs = bs ++ List.replicate (n - bs.length) 0 := by
  rw [zeroPad, List.take_of_length_le h]

theorem length_cutSectors (count : Nat) (bs : List UInt8) :
    (cutSectors count bs).length = count := by
  induction count generalizing bs with
  | zero => rfl
  | succ count ih => rw [cutSectors, List.length_cons, ih]

theorem length_of_mem_cutSectors {count : Nat} {bs data : List UInt8}
    (among : data ∈ cutSectors count bs) : data.length = sectorSize := by
  induction count generalizing bs with
  | zero => cases among
  | succ count ih =>
    rcases List.mem_cons.mp among with rfl | behind
    · exact length_zeroPad _ _
    · exact ih behind

theorem flatten_cutSectors (count : Nat) (bs : List UInt8) :
    (cutSectors count bs).flatten = zeroPad (count * sectorSize) bs := by
  induction count generalizing bs with
  | zero => rw [Nat.zero_mul]; rfl
  | succ count ih =>
    rw [cutSectors, List.flatten_cons, ih, Nat.add_mul, Nat.one_mul, Nat.add_comm, zeroPad_add]

theorem length_le_sectorsNeeded (bs : List UInt8) : bs.length ≤ sectorsNeeded bs * sectorSize := by
  rw [sectorsNeeded, sectorSize]
  omega

theorem sectorsNeeded_pos {bs : List UInt8} (filled : bs ≠ []) : 0 < sectorsNeeded bs := by
  have length := List.length_pos_iff.mpr filled
  rw [sectorsNeeded, sectorSize]
  omega

section

variable {folder : Folder} {path : String} {place : Place} {input : List UInt8}
variable (opened : folder.openFile path = .ok place) (read : folder.readAll place = .ok input)

include opened read

/-- A file that can be read is looked at before it is counted. -/
theorem inputSectors_eq :
    inputSectors folder path =
      if input.isEmpty then .error (.inputEmpty path)
      else if sectorsNeeded input > 0xFFFFFFFF then .error (.inputTooLarge path)
      else .ok (input, .ofNat (sectorsNeeded input)) := by
  rw [inputSectors, opened]
  show Except.bind (Except.mapError Failure.file (folder.readAll place)) _ = _
  rw [read]
  rfl

theorem inputSectors_of_empty (empty : input = []) :
    inputSectors folder path = .error (.inputEmpty path) := by
  rw [inputSectors_eq opened read, if_pos (by simpa using empty)]

theorem inputSectors_of_large (large : UInt32.size ≤ sectorsNeeded input) :
    inputSectors folder path = .error (.inputTooLarge path) := by
  have filled : input ≠ [] := by
    rintro rfl
    exact absurd large (by decide)
  have past : sectorsNeeded input > 0xFFFFFFFF := large
  rw [inputSectors_eq opened read, if_neg (by simpa using filled), if_pos past]

/-- A file that is not empty and not too large is counted. -/
theorem inputSectors_of_read (filled : input ≠ []) (few : sectorsNeeded input < UInt32.size) :
    inputSectors folder path = .ok (input, UInt32.ofNat (sectorsNeeded input)) := by
  have fits : ¬ sectorsNeeded input > 0xFFFFFFFF := Nat.not_lt.mpr (Nat.le_of_lt_succ few)
  rw [inputSectors_eq opened read, if_neg (by simpa using filled), if_neg fits]

end

/-! ### On an open disk -/

section

variable {σ : Type} [BulkLink σ] {lun : UInt8} {holds : Image → σ → Prop}

/-- What the reads of a disk give is what it holds, for any list of sectors. -/
theorem Disk.readsImage (disk : Disk lun holds) (image : Image) :
    ReadsImage (fun sector buffer => Engine.readSector (σ := σ) lun sector buffer) image
      (fun _ e => holds image e.link) :=
  fun _ _ _ held _ room => disk.ends_readSector held _ room

end

section

variable {δ : Type} [BulkLink δ] {lun : UInt8} {holds : Image → δ → Prop} {image : Image}

/-- A session with a disk is a disk: the device stays offered, whatever it holds. -/
theorem Disk.session (disk : Disk lun holds) (id : DeviceId) (position : Nat) :
    Disk lun (fun image (s : Session δ) => s.handle.device.position = position ∧
      s.bus.Offers id position (holds image)) where
  write := by
    rintro image s w address data ⟨rfl, offers⟩ command output length whole
    obtain ⟨d, there, -, held⟩ := offers.device
    obtain ⟨l, held', takes⟩ := disk.write held command output length whole
    obtain ⟨s', relinked, takes'⟩ := Session.takes there takes
    have same := congrArg (fun h => h.device.position) relinked.handle
    exact ⟨s', ⟨same, same ▸ relinked.offers offers held'⟩, takes'⟩
  read := by
    rintro image s w address ⟨rfl, offers⟩ command input length
    obtain ⟨d, there, -, held⟩ := offers.device
    obtain ⟨l, held', answers⟩ := disk.read held command input length
    obtain ⟨s', relinked, answers'⟩ := Session.answers there answers
    have same := congrArg (fun h => h.device.position) relinked.handle
    exact ⟨s', ⟨same, same ▸ relinked.offers offers held'⟩, answers'⟩

/-- Sectors are written one behind the other up to the last, or to the first that fails. `inv` holds
of those that were written, and `stop` of them, the one that was not and the reason. -/
theorem ends_writeSectors {parts : List (List UInt8)} {first : Nat}
    (inv : List (List UInt8) → Engine (Session δ) → Prop)
    (stop : List (List UInt8) → List UInt8 → CommandError → Engine (Session δ) → Prop)
    (next : ∀ before data after, before ++ data :: after = parts → ∀ e, inv before e →
      Ends (Engine.writeSector lun (.ofNat (first + before.length)) data)
        (fun result e' => (result = .ok () → inv (before ++ [data]) e') ∧
          ∀ cause, result = .error cause → stop before data cause e') e)
    {e : Engine (Session δ)} (begin : inv [] e) (desk : Desk) :
    Ends (writeSectors lun (.ofNat first) parts).run
      (fun outcome t => (outcome = .ok () ∧ inv parts t.1) ∨
        ∃ before data after cause, before ++ data :: after = parts ∧
          outcome =
            .error (.during (.writeSector (.ofNat (first + before.length))) (.command cause)) ∧
          stop before data cause t.1) (e, desk) := by
  induction parts generalizing first inv stop e with
  | nil => exact Ends.pure_iff.mpr (.inl ⟨rfl, begin⟩)
  | cons data rest ih =>
    refine Ends.bindExcept ((next [] data rest rfl e begin).require _ desk) ?_ ?_
    · rintro _ ⟨u, _⟩ ⟨result, ok, ⟨written, -⟩, rfl⟩
      cases result with
      | error cause => cases ok
      | ok _ =>
        have place (before : List (List UInt8)) :
            first + 1 + before.length = first + (data :: before).length :=
          Nat.succ_add_eq_add_succ first before.length
        rw [← ofNat_succ]
        refine (ih (fun before => inv (data :: before)) (fun before => stop (data :: before)) ?_
          (written rfl)).mono ?_
        · intro before data' after split e begin
          rw [place]
          exact next (data :: before) data' after (congrArg _ split) e begin
        · rintro outcome t (ok | ⟨before, data', after, cause, split, failed, stopped⟩)
          · exact .inl ok
          · rw [place] at failed
            exact .inr ⟨data :: before, data', after, cause, congrArg _ split, failed, stopped⟩
    · rintro _ ⟨u, _⟩ ⟨result, failed, ⟨-, stopped⟩, rfl⟩
      cases result with
      | ok _ => cases failed
      | error cause =>
        cases failed
        exact .inr ⟨[], data, rest, cause, rfl, rfl, stopped cause rfl⟩

/-- Each sector goes behind the one before it. -/
theorem Disk.ends_writeSectors {holds : Image → Session δ → Prop} (disk : Disk lun holds)
    {parts : List (List UInt8)} (whole : ∀ data ∈ parts, data.length = sectorSize) (first : Nat)
    {e : Engine (Session δ)} (held : holds image e.link) (desk : Desk) :
    Ends (writeSectors lun (UInt32.ofNat first) parts).run
      (fun outcome t => outcome = .ok () ∧ holds (image.written first parts) t.1.link)
      (e, desk) := by
  refine (PlayerLink.ends_writeSectors (fun before u => holds (image.written first before) u.link)
    (fun _ _ _ _ => False) ?_ held desk).mono ?_
  · rintro before data after rfl u held
    refine (disk.ends_writeSector held _ (whole data List.mem_append_cons_self)).mono ?_
    rintro _ v ⟨rfl, held'⟩
    rw [Image.written_concat]
    exact ⟨fun _ => held', nofun⟩
  · rintro outcome t (written | ⟨_, _, _, _, _, _, ⟨⟩⟩)
    exact written

/-! ### The two commands -/

variable {target : Target} {bus : Bus δ} {desk : Desk} {position : Nat}

/-- The sectors of the file are on the disk where they were to go, and all others are as they
were. -/
theorem Disk.ends_writeMedium (disk : Disk target.lun holds)
    (named : ¬ (target.device.vendorId = 0 ∧ target.device.productId = 0))
    (offers : bus.Offers target.device position (holds image)) {path : String} {place : Place}
    {input : List UInt8} (opened : desk.folder.openFile path = .ok place)
    (read : desk.folder.readAll place = .ok input) (filled : input ≠ [])
    (few : sectorsNeeded input < UInt32.size) {first : UInt32}
    (inRange : first.toNat + sectorsNeeded input ≤ UInt32.size) :
    Ends (writeMedium target first path).run
      (fun outcome t => outcome = .ok () ∧ t.1.Offers target.device position
        (holds (image.written first.toNat (cutSectors (sectorsNeeded input) input))))
      (bus, desk) := by
  have counted : (UInt32.ofNat (sectorsNeeded input)).toNat = sectorsNeeded input :=
    UInt32.toNat_ofNat_of_lt' few
  have some := sectorsNeeded_pos filled
  have inRange' : first.toNat + ((UInt32.ofNat (sectorsNeeded input)).toNat - 1) < UInt32.size := by
    omega
  obtain ⟨session, opens, place', offers'⟩ := offers.exists_opens named
  have whole : ∀ data ∈ cutSectors (sectorsNeeded input) input, data.length = sectorSize :=
    fun _ among => length_of_mem_cutSectors among
  have held : session.handle.device.position = position ∧
      session.bus.Offers target.device position (holds image) := ⟨place', offers'⟩
  have written := (disk.session target.device position).ends_writeSectors whole first.toNat
    (e := { link := session }) held desk
  rw [UInt32.ofNat_toNat] at written
  refine Ends.bindDesk (Ends.bindEnded (inputSectors_of_read opened read filled few) ?_)
  refine Ends.bindEnded (congrArg _ (SectorRange.make_of_lt inRange')) ?_
  refine ends_withTarget _ opens (Ends.bindExcept_lift ?_)
  simp only [counted]
  refine Ends.bindExcept written ?_ ?_
  · rintro _ t ⟨-, -, offers⟩
    refine Ends.runLift ?_
    exact fun b same => ⟨rfl, same.offers offers⟩
  · rintro e t ⟨failed, -⟩
    cases failed

/-- What is left in the file is what stands on the disk, which is as it was. -/
theorem Disk.ends_dumpMedium (disk : Disk target.lun holds)
    (named : ¬ (target.device.vendorId = 0 ∧ target.device.productId = 0))
    (offers : bus.Offers target.device position (holds image)) {path : String} {place : Place}
    {first count : UInt32} (inRange : first.toNat + (count.toNat - 1) < UInt32.size)
    (creatable : desk.folder.creatable path = .ok place) (writable : place ≠ .device .full) :
    Ends (dumpMedium target first count path).run
      (fun outcome t => outcome = .ok () ∧ t.1.Offers target.device position (holds image) ∧
        Desk.Leaves path (image.octets first.toNat (count.toNat * sectorSize)) desk t.2)
      (bus, desk) := by
  obtain ⟨session, opens, place', offers'⟩ := offers.exists_opens named
  have reads := (disk.session target.device position).readsImage image
  have held : session.handle.device.position = position ∧
      session.bus.Offers target.device position (holds image) := ⟨place', offers'⟩
  refine ends_withTarget _ opens (Ends.bindExcept_lift ?_)
  refine ((reads.ok_dumpSectors [] (s := { link := session }) held inRange creatable
    writable).and (reads.ends_dumpSectors [] held desk)).mono ?_
  rintro outcome t ⟨rfl, left⟩ b same
  obtain ⟨⟨-, offers⟩, leaves⟩ := left rfl
  exact ⟨rfl, same.offers offers, leaves⟩

/-- With a disk on the bus, and a file that is not empty and the sectors of which can be counted and
named from the first one on: writing the file succeeds and changes no sector behind or in front of
them, and reading as many sectors afterwards, to any file that can be created and is not on a full
device, succeeds and leaves there the content of the file, filled up with zeros to whole sectors. -/
theorem written_file_reads_back (disk : Disk target.lun holds)
    (named : ¬ (target.device.vendorId = 0 ∧ target.device.productId = 0))
    (offers : bus.Offers target.device position (holds image)) {path : String} {place : Place}
    {input : List UInt8} (opened : desk.folder.openFile path = .ok place)
    (read : desk.folder.readAll place = .ok input) (filled : input ≠ [])
    (few : sectorsNeeded input < UInt32.size) {first : UInt32}
    (inRange : first.toNat + sectorsNeeded input ≤ UInt32.size) :
    Ends (Invocation.write target first path).run
      (fun outcome t => outcome = .ok () ∧ ∃ image' : Image,
        t.1.Offers target.device position (holds image') ∧
        (∀ a : UInt32, a.toNat < first.toNat ∨ first.toNat + sectorsNeeded input ≤ a.toNat →
          image' a = image a) ∧
        ∀ (desk' : Desk) (path' : String) (place' : Place),
          desk'.folder.creatable path' = .ok place' → place' ≠ .device .full →
            Ends (Invocation.read target first (UInt32.ofNat (sectorsNeeded input)) path').run
              (fun outcome' t' => outcome' = .ok () ∧
                t'.1.Offers target.device position (holds image') ∧
                Desk.Leaves path' (input ++
                  List.replicate (sectorsNeeded input * sectorSize - input.length) 0) desk' t'.2)
              (t.1, desk'))
      (bus, desk) := by
  have counted : (UInt32.ofNat (sectorsNeeded input)).toNat = sectorsNeeded input :=
    UInt32.toNat_ofNat_of_lt' few
  have some := sectorsNeeded_pos filled
  have length := length_cutSectors (sectorsNeeded input) input
  refine (disk.ends_writeMedium named offers opened read filled few inRange).mono ?_
  rintro _ t ⟨rfl, offers'⟩
  refine ⟨rfl, _, offers', ?_, ?_⟩
  · intro a outside
    refine Image.written_of_outside ?_ ?_
    · rw [length]
      exact inRange
    · rw [length]
      exact outside
  · intro desk' path' place' creatable writable
    refine (disk.ends_dumpMedium named offers' (by omega) creatable writable).mono ?_
    rintro _ t' ⟨rfl, offers'', leaves⟩
    refine ⟨rfl, offers'', ?_⟩
    have whole : ∀ data ∈ cutSectors (sectorsNeeded input) input, data.length = sectorSize :=
      fun _ among => length_of_mem_cutSectors among
    have back := image.octets_written (length.symm ▸ inRange) whole
    rw [length, flatten_cutSectors, zeroPad_of_ge (length_le_sectorsNeeded input)] at back
    rw [counted, back] at leaves
    exact leaves

end

/-- A file of one sector and one octet more. -/
def oneSectorMore : List UInt8 := List.replicate (sectorSize + 1) 0xAB

/-- It fits into the last two sectors of a disk. -/
theorem written_file_reads_back_lastSectors :
    Ends (Invocation.write ⟨⟨0x10D6, 0x1101⟩, 0⟩ 0xFFFFFFFE "in.bin").run
      (fun outcome t => outcome = .ok () ∧
        Ends (Invocation.read ⟨⟨0x10D6, 0x1101⟩, 0⟩ 0xFFFFFFFE 2 "out.bin").run
          (fun outcome' t' => outcome' = .ok () ∧ t'.2.folder.content? "out.bin" =
            some (oneSectorMore ++ List.replicate (sectorSize - 1) 0)) (t.1, {}))
      ({ devices := [.plain ⟨0x10D6, 0x1101⟩
          (SimulatedPlayer.idle (SectorStore.mk fun _ => Field.zero sectorSize))] },
        { folder := { files := [("in.bin", oneSectorMore)] } }) := by
  have offers : Bus.Offers ⟨0x10D6, 0x1101⟩ 0
      (fun p => p = SimulatedPlayer.idle (SectorStore.mk fun _ => Field.zero sectorSize))
      { devices := [.plain ⟨0x10D6, 0x1101⟩ (SimulatedPlayer.idle ⟨fun _ => .zero sectorSize⟩)] } :=
    offers_plain _ rfl
  have two : sectorsNeeded oneSectorMore = 2 := by decide +kernel
  have few : sectorsNeeded oneSectorMore < UInt32.size := by rw [two]; decide
  have inRange : (0xFFFFFFFE : UInt32).toNat + sectorsNeeded oneSectorMore ≤ UInt32.size := by
    rw [two]; decide
  have read : Folder.readAll { files := [("in.bin", oneSectorMore)] } (.file "in.bin") =
      .ok oneSectorMore := rfl
  refine Ends.mono (written_file_reads_back (SimulatedPlayer.disk 0) (by decide) offers rfl read
    (by decide +kernel) few inRange) ?_
  rintro outcome t ⟨ok, image', -, -, readable⟩
  refine ⟨ok, ?_⟩
  have gap : 2 * sectorSize - oneSectorMore.length = sectorSize - 1 := by
    rw [oneSectorMore, List.length_replicate]
    omega
  rw [two, gap] at readable
  refine (readable {} "out.bin" (.file "out.bin") rfl nofun).mono ?_
  rintro outcome' t' ⟨ok', -, place, created, -, left⟩
  cases created
  exact ⟨ok', left "out.bin" rfl⟩

end PlayerLink
