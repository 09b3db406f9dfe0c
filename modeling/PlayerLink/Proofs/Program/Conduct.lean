import PlayerLink.Program.Run
import PlayerLink.Proofs.Container.Operations
import PlayerLink.Proofs.Engine.Dialogue

/-!
# What is asked of a player in service mode

Each kind of work in service mode holds a dialogue with the device, and says no command in it but
those of its kind: reads of sectors of the flash memory, reads of the memory, or the one command to
go on at an entry point. The rules follow the constructors of the monads and the pieces that runs
are made of.
-/

namespace PlayerLink

open Text RunM

/-- Steps of an engine beside something hold a dialogue, in which no command is said but those that
are asked for. -/
abbrev ConductsBeside {σ π α : Type} [BulkLink σ] (asks : Command → Prop)
    (step : BesideM (Engine σ) π α) : Prop :=
  Conducts (fun x : Engine σ × π => x.1.link) (fun x => (x.1.tag, x.2)) (Says asks) step

/-- The same of steps of a run on an engine. -/
abbrev ConductsRun {σ α : Type} [BulkLink σ] (asks : Command → Prop) (steps : RunM (Engine σ) α) :
    Prop :=
  ConductsBeside asks steps.run

section

variable {σ π α β ε : Type} [BulkLink σ] {asks : Command → Prop}

theorem Conducts.onDevice {step : EngineM σ α} {talk : List LinkCall → Prop}
    (h : Engine.Conducts talk step) :
    Conducts (fun x : Engine σ × π => x.1.link) (fun x => (x.1.tag, x.2)) talk
      (BesideM.onDevice step) := by
  obtain ⟨d, keeps, holds⟩ := h
  refine ⟨fun k => (d k.1).andThen fun r => .done (r.1, (r.2, k.2)), ?_, ?_⟩
  · intro k calls a course
    obtain ⟨x, y, r, rfl, first, last⟩ := course.of_andThen
    cases last
    rw [List.append_nil]
    exact keeps k.1 x r first
  · rintro ⟨e, p⟩
    refine ((holds e).onDevice p).mono ?_
    rintro a ⟨e', _⟩ ⟨held, rfl⟩
    rw [Dialogue.hold_andThen, held]
    rfl

theorem Conducts.onSide (change : π → π) :
    ConductsBeside asks (BesideM.onSide change : BesideM (Engine σ) π Unit) :=
  .of_gives (.nil asks) (fun k => ((), (k.1, change k.2))) fun x =>
    (Ends.onSide change x.1 x.2).mono fun _ _ same => by rw [same]; exact ⟨rfl, rfl⟩

namespace ConductsRun

theorem pure (a : α) : ConductsRun (σ := σ) asks (pure a) := Conducts.ended _

theorem throw (f : Failure) : ConductsRun asks (throw f : RunM (Engine σ) α) :=
  Conducts.ended _

theorem bind {steps : RunM (Engine σ) α} {next : α → RunM (Engine σ) β}
    (first : ConductsRun asks steps) (rest : ∀ a, ConductsRun asks (next a)) :
    ConductsRun asks (steps >>= next) := by
  change ConductsBeside asks (steps.run >>= ExceptT.bindCont next)
  refine first.andThen ?_
  intro outcome
  cases outcome with
  | ok a => exact rest a
  | error f => exact Conducts.ended _

theorem ite {c : Prop} [Decidable c] {yes no : RunM (Engine σ) α} (first : ConductsRun asks yes)
    (second : ConductsRun asks no) : ConductsRun asks (if c then yes else no) := by
  split
  · exact first
  · exact second

theorem lift {steps : BesideM (Engine σ) Desk α} (h : ConductsBeside asks steps) :
    ConductsRun asks (ExceptT.lift steps) :=
  h.andThen fun _ => Conducts.ended _

theorem onDesk (change : Desk → Desk) :
    ConductsRun asks (onDesk change : RunM (Engine σ) Unit) :=
  lift (Conducts.onSide change)

theorem desk : ConductsRun asks (desk : RunM (Engine σ) Desk) :=
  Conducts.of_gives (.nil asks) (fun k => (.ok k.2, k)) fun _ _ => ⟨rfl, rfl⟩

theorem ended (outcome : Except Failure α) :
    ConductsRun asks (ended outcome : RunM (Engine σ) α) :=
  Conducts.ended _

/-- Steps that know nothing of the device, and end the same whatever stands in the log. -/
theorem settled {step : LogM α} {a : α} (given : After step (· = a)) :
    ConductsRun asks (liftM step : RunM (Engine σ) α) := by
  refine Conducts.of_gives (.nil asks) (fun k => (.ok a, k)) ?_
  intro x log
  rw [← given log]
  exact ⟨rfl, rfl⟩

theorem log (text : LogM Unit) : ConductsRun asks (liftM text : RunM (Engine σ) Unit) :=
  have given : After text (· = ()) := fun _ => rfl
  settled given

theorem say (text : String) : ConductsRun asks (say text : RunM (Engine σ) Unit) := onDesk _

theorem sayAll (texts : List String) : ConductsRun asks (sayAll texts : RunM (Engine σ) Unit) := by
  induction texts with
  | nil => exact pure ()
  | cons text rest ih => exact (say text).bind fun _ => ih

theorem require {step : EngineM σ (Except ε α)} (h : Engine.Conducts (Says asks) step)
    (fail : ε → Failure) : ConductsRun asks (require step fail) :=
  h.onDevice.andThen fun _ => Conducts.ended _

end ConductsRun

end

/-! ### Reading flash memory -/

namespace Firmware

variable {σ π : Type} [BulkLink σ] [Progress π] {asks : Command → Prop} {lun : UInt8}
variable (reads : ∀ sector, asks (.readSector lun sector .logical))
include reads

theorem conducts_readSector (sector : UInt32) (buffer : List UInt8) :
    Engine.Conducts (σ := σ) (Says asks) (readSector lun sector buffer) := by
  refine ((Engine.conducts_fill _ buffer).asked (reads sector)).andThen ?_
  intro filled
  cases filled.result with
  | error e => exact .ended _
  | ok _ => exact .ended _

theorem conducts_readSectors (count : Nat) (sector : UInt32) (buffer : List UInt8)
    (done : List (List UInt8)) :
    Engine.Conducts (σ := σ) (Says asks) (readSectors lun count sector buffer done) := by
  induction count generalizing sector buffer done with
  | zero => exact .ended _
  | succ count ih =>
    refine (conducts_readSector reads sector buffer).andThen ?_
    intro outcome
    cases outcome with
    | error e => exact .ended _
    | ok read => exact ih (sector + 1) read (read :: done)

theorem conducts_readRun (first : UInt32) (count : Nat) :
    Engine.Conducts (σ := σ) (Says asks) (readRun lun first count) := by
  refine (conducts_readSectors reads count first blankSector []).andThen ?_
  intro outcome
  cases outcome with
  | error e => exact .ended _
  | ok sectors => exact .ended _

theorem conducts_readHeader (start : UInt32) :
    Engine.Conducts (σ := σ) (Says asks) (readHeader lun start) := by
  refine .ite (.ended _) ((conducts_readRun reads start _).andThen ?_)
  intro outcome
  cases outcome with
  | error e => exact .ended _
  | ok octets =>
    refine .ite (.ended _) ?_
    exact .andThen (.logged _) fun _ => .ended _

theorem conducts_readEntry (start : UInt32) (entry : DirectoryEntry) :
    Engine.Conducts (σ := σ) (Says asks) (readEntry lun start entry) := by
  refine .ite (.ended _) ((conducts_readRun reads _ _).andThen ?_)
  intro outcome
  cases outcome with
  | error e => exact .ended _
  | ok octets => exact .ended _

theorem conducts_search (count : Nat) (sector : UInt32) (buffer : List UInt8) :
    ConductsBeside (σ := σ) (π := π) asks (search lun count sector buffer) := by
  induction count generalizing sector buffer with
  | zero => exact .ended _
  | succ count ih =>
    refine (conducts_readSector reads sector buffer).onDevice.andThen ?_
    intro outcome
    cases outcome with
    | error e => exact .ended _
    | ok read =>
      refine .ite (.ended _) ?_
      exact (Conducts.onSide _).andThen fun _ => ih (sector + 1) read

theorem conducts_locateAlternate (limit : UInt32) :
    ConductsBeside (σ := σ) (π := π) asks (locateAlternate lun limit) := by
  refine (Conducts.onSide _).andThen fun _ => (conducts_search reads _ _ _).andThen ?_
  have finished {α : Type} (text : LogM Unit) (a : α) :
      ConductsBeside (σ := σ) (π := π) asks (do
        BesideM.onSide Progress.finish
        liftM text
        pure a) :=
    (Conducts.onSide _).andThen fun _ => .andThen (.logged _) fun _ => .ended _
  intro outcome
  rcases outcome with e | (_ | sector)
  · exact .ended _
  · exact finished _ _
  · exact finished _ _

end Firmware

/-! ### Reading memory -/

namespace SystemInfo

variable {σ : Type} [BulkLink σ] {asks : Command → Prop}
variable (reads : ∀ sector length, asks (.readMemory sector length))
include reads

theorem conducts_readBlock (sector : UInt32) :
    Engine.Conducts (σ := σ) (Says asks) (readBlock sector) := by
  refine ((Engine.conducts_fill _ _).asked (reads sector _)).andThen ?_
  intro filled
  cases filled.result with
  | error e => exact .ended _
  | ok _ => exact .ended _

theorem conducts_read : Engine.Conducts (σ := σ) (Says asks) read := by
  refine (conducts_readBlock reads _).andThen ?_
  intro outcome
  cases outcome with
  | error e => exact .ended _
  | ok octets => exact .ended _

theorem conducts_allowsMemoryReads :
    Engine.Conducts (σ := σ) (Says asks) allowsMemoryReads := by
  refine (conducts_readBlock reads _).andThen ?_
  intro outcome
  cases outcome with
  | error e => exact .ended _
  | ok octets => exact .andThen (.logged _) fun _ => .ended _

end SystemInfo

/-! ### The pieces of work -/

section

variable {σ δ : Type} [BulkLink σ] [BulkLink δ] {asks : Command → Prop} {lun : UInt8}

theorem conducts_headerSector (reads : ∀ sector, asks (.readSector lun sector .logical))
    (choice : HeaderChoice) :
    ConductsRun (σ := Session δ) asks (headerSector lun choice) := by
  refine .ite (.pure _) (.bind (.say _) fun _ => .bind (.onDesk _) fun _ => ?_)
  refine .bind (.lift (Firmware.conducts_locateAlternate reads choice.limit)) fun found => ?_
  refine .bind (.ended _) fun sector => ?_
  cases sector with
  | none => exact .throw _
  | some sector => exact .bind (.say _) fun _ => .pure _

theorem conducts_fetchHeader (reads : ∀ sector, asks (.readSector lun sector .logical))
    (start : UInt32) : ConductsRun (σ := Session δ) asks (fetchHeader lun start) :=
  .require (Firmware.conducts_readHeader reads start) _

theorem conducts_copySectors {read : SectorReader (Engine σ)}
    (reads : ∀ sector buffer, Engine.Conducts (Says asks) (read sector buffer)) (count : Nat)
    (sector : UInt32) (buffer : List UInt8) (file : OutputFile) :
    ConductsBeside asks (copySectors read count sector buffer file) := by
  induction count generalizing sector buffer file with
  | zero => exact .ended _
  | succ count ih =>
    refine (reads sector buffer).onDevice.andThen ?_
    intro filled
    cases filled.result with
    | error e => exact .ended _
    | ok _ =>
      cases file.write filled.buffer with
      | error e => exact .ended _
      | ok file => exact (Conducts.onSide _).andThen fun _ => ih (sector + 1) filled.buffer file

theorem conducts_dumpSectors {read : SectorReader (Engine σ)}
    (reads : ∀ sector buffer, Engine.Conducts (Says asks) (read sector buffer)) (path : String)
    (first count : UInt32) : ConductsRun asks (dumpSectors path first count read) := by
  refine .bind (.ended _) fun range => .bind .desk fun desk => .bind (.ended _) fun place => ?_
  refine .bind (.onDesk _) fun _ => .bind (.onDesk _) fun _ => ?_
  refine .bind (.lift (conducts_copySectors reads _ _ _ _)) fun copied => ?_
  refine .bind (.onDesk _) fun _ => .bind (.ended _) fun _ => ?_
  exact .bind (.onDesk _) fun _ => .log _

end

/-! ### Packing -/

section

variable {δ α β : Type} [BulkLink δ] {asks : Command → Prop} {lun : UInt8}

/-- The same of steps of a packing. -/
def ConductsPacking (asks : Command → Prop) (steps : PackingM δ α) : Prop :=
  ∀ w, ConductsBeside asks (steps.run w)

theorem ConductsPacking.bind {steps : PackingM δ α} {next : α → PackingM δ β}
    (first : ConductsPacking asks steps) (rest : ∀ a, ConductsPacking asks (next a)) :
    ConductsPacking asks (steps >>= next) := by
  intro w
  change ConductsBeside asks (steps.run w >>= fun r => ExceptT.bindCont next r.1 r.2)
  refine (first w).andThen ?_
  rintro ⟨outcome, w'⟩
  cases outcome with
  | ok a => exact rest a w'
  | error f => exact .ended _

theorem ConductsPacking.apart {steps : ServiceM δ α} (h : ConductsRun asks steps) :
    ConductsPacking asks (PlayerLink.apart steps) :=
  fun _ => Conducts.andThen h fun _ => .ended _

/-- A step of the writer leaves the device alone, and nothing in it depends on the log. -/
theorem ConductsPacking.packing {step : WriterM α} (blind : Blind step.run) :
    ConductsPacking (δ := δ) asks (packing step) := by
  intro w
  obtain ⟨a, w', given⟩ := blind w
  refine Conducts.of_gives (.nil asks) (fun k => ((a.mapError .container, w'), k)) ?_
  intro x log
  obtain ⟨outcome, writer⟩ := given log
  rw [← outcome, ← writer]
  exact ⟨rfl, rfl⟩

theorem conducts_packEntries (reads : ∀ sector, asks (.readSector lun sector .logical))
    (start : UInt32) (entries : List DirectoryEntry) :
    ConductsPacking (δ := δ) asks (packEntries lun start entries) := by
  have each (e : DirectoryEntry) : ConductsPacking (δ := δ) asks (packEntry lun start e) := by
    refine .bind (.apart (.require (Firmware.conducts_readEntry reads start e) _)) fun data => ?_
    refine .bind (.packing (ContainerWriter.blind_append _ data)) fun slot => ?_
    exact .apart (.say _)
  have all : ConductsPacking (δ := δ) asks (entries.forM (packEntry lun start)) := by
    induction entries with
    | nil => exact fun w => .ended _
    | cons e rest ih => exact .bind (each e) fun _ => ih
  exact .bind all fun _ => .packing ContainerWriter.blind_finish

end

/-! ### Sessions in service mode -/

section

variable {δ α : Type} [BulkLink δ] {asks : Command → Prop} {work : ServiceM δ α}

/-- All of a session up to the end of the work is one dialogue. -/
theorem conducts_session (conducts : ConductsRun asks work) :
    ConductsRun (fun _ => True) (do enterServiceMode; work : ServiceM δ α) := by
  refine .bind (.bind (.require ?_ _) fun identity => .bind (.log _) fun _ => .require ?_ _) ?_
  · exact Engine.conducts_identify.asked True.intro
  · exact Engine.conducts_initialise.asked True.intro
  · exact fun _ => conducts.mono fun _ said => said.mono fun _ _ => True.intro

end

/-! ### Invocations -/

/-- The device that an invocation works on in service mode, if it does. -/
def Invocation.service? : Invocation → Option ServiceTarget
  | .headerInfo service .. | .readFlash service .. | .readMemory service .. | .systemInfo service
  | .dumpImage service .. | .dumpContainer service .. | .enter service _ => some service
  | .enumerate | .inquiry _ | .capacity _ | .read .. | .write .. => none

/-- The commands that the work of an invocation in service mode is made of. -/
def Invocation.Asks : Invocation → Command → Prop
  | .headerInfo service .., c | .dumpImage service .., c | .dumpContainer service .., c =>
    ∃ sector, c = .readSector service.target.lun sector .logical
  | .readFlash service area .., c => ∃ sector, c = .readSector service.target.lun sector area
  | .readMemory .., c | .systemInfo _, c => ∃ sector length, c = .readMemory sector length
  | .enter _ address, c => c = .enter (UInt16.ofNat address.toNat)
  | _, _ => False

/-- An invocation gets as far as a device unless it names an entry point that no parameter can
hold. -/
def Invocation.Usable : Invocation → Prop
  | .enter _ address => address.toNat ≤ 0xFFFF
  | _ => True

/-- A run is work on a player in service mode, in which no command is said but those asked for. -/
def Serves {δ : Type} [BulkLink δ] (service : ServiceTarget) (asks : Command → Prop)
    (run : ProgramM δ Unit) : Prop :=
  ∃ work : ServiceM δ Unit, run = withServiceMode service work ∧ ConductsRun asks work

section

variable {δ : Type} [BulkLink δ] {asks : Command → Prop} (service : ServiceTarget)

section

variable (reads : ∀ sector, asks (.readSector service.target.lun sector .logical))
include reads

theorem serves_headerInfo (showDirectory : Bool) (choice : HeaderChoice) :
    Serves (δ := δ) service asks (headerInfo service showDirectory choice) := by
  refine ⟨_, rfl, .bind (conducts_headerSector reads choice) fun start => ?_⟩
  refine .bind (.say _) fun _ => .bind (conducts_fetchHeader reads start) fun header => ?_
  refine .bind (.sayAll _) fun _ => .ite ?_ (.say _)
  refine .bind (.say _) fun _ => .bind (.sayAll _) fun _ => ?_
  exact .bind (.say _) fun _ => .say _

theorem serves_dumpImage (choice : HeaderChoice) (path : String) :
    Serves (δ := δ) service asks (dumpImage service choice path) := by
  refine ⟨_, rfl, .bind (conducts_headerSector reads choice) fun start => ?_⟩
  refine .bind (conducts_fetchHeader reads start) fun header => ?_
  refine .ite (.throw _) (.bind (.log _) fun _ => conducts_dumpSectors ?_ path start _)
  intro sector buffer
  exact (Engine.conducts_fill _ buffer).asked (reads sector)

theorem serves_dumpContainer (choice : HeaderChoice) (path : String) :
    Serves (δ := δ) service asks (dumpContainer service choice path) := by
  refine ⟨_, rfl, .bind (conducts_headerSector reads choice) fun start => ?_⟩
  refine .bind (conducts_fetchHeader reads start) fun header => ?_
  refine .bind .desk fun desk => .bind (.ended _) fun place => ?_
  obtain ⟨_, _, given⟩ := ContainerWriter.blind_writeHeader
    (.on (Folder.medium place) service.target.device.vendorId service.target.device.productId)
  refine .bind (.settled given.after) ?_
  rintro ⟨opened, writer⟩
  cases opened with
  | error e =>
    refine .bind (.pure _) fun packed => .bind (.onDesk _) fun _ => ?_
    exact .bind (.ended _) fun _ => .log _
  | ok _ =>
    refine .bind (.lift (conducts_packEntries reads start header.entries writer)) fun packed => ?_
    exact .bind (.onDesk _) fun _ => .bind (.ended _) fun _ => .log _

end

theorem serves_dumpFlash (area : FlashArea)
    (reads : ∀ sector, asks (.readSector service.target.lun sector area)) (first count : UInt32)
    (path : String) : Serves (δ := δ) service asks (dumpFlash service area first count path) := by
  refine ⟨_, rfl, .bind (.log _) fun _ => conducts_dumpSectors ?_ path first count⟩
  intro sector buffer
  exact (Engine.conducts_fill _ buffer).asked (reads sector)

section

variable (reads : ∀ sector length, asks (.readMemory sector length))
include reads

theorem serves_dumpMemory (first count : UInt32) (path : String) :
    Serves (δ := δ) service asks (dumpMemory service first count path) := by
  refine ⟨_, rfl, .bind (.require (SystemInfo.conducts_allowsMemoryReads reads) _) ?_⟩
  refine fun allowed => .ite (.throw _) (.bind (.log _) fun _ => ?_)
  refine conducts_dumpSectors (fun sector buffer => ?_) path first count
  exact (Engine.conducts_fill _ buffer).asked (reads sector _)

theorem serves_showSystemInfo : Serves (δ := δ) service asks (showSystemInfo service) := by
  refine ⟨_, rfl, .bind (.require (SystemInfo.conducts_read reads) _) fun info => ?_⟩
  refine .bind (.say _) fun _ => .bind (.sayAll _) fun _ => .bind (.sayAll _) fun _ => ?_
  exact .bind (.require (SystemInfo.conducts_allowsMemoryReads reads) _) fun allowed => .say _

end

theorem serves_enterAt {address : UInt32} (fits : address.toNat ≤ 0xFFFF)
    (enters : asks (.enter (UInt16.ofNat address.toNat))) :
    Serves (δ := δ) service asks (enterAt service address) := by
  rw [enterAt, if_neg (Nat.not_lt.mpr fits)]
  refine ⟨_, rfl, .bind (.require ?_ _) fun _ => .say _⟩
  exact (Engine.conducts_perform _).asked enters

/-- What an invocation does in service mode is work that says no commands but its own. -/
theorem Invocation.serves {invocation : Invocation} {service : ServiceTarget}
    (asked : invocation.service? = some service) (usable : invocation.Usable) :
    Serves (δ := δ) service invocation.Asks invocation.run := by
  cases invocation with
  | headerInfo _ showDirectory choice =>
    cases asked
    exact serves_headerInfo service (fun sector => ⟨sector, rfl⟩) showDirectory choice
  | readFlash _ area first count path =>
    cases asked
    exact serves_dumpFlash service area (fun sector => ⟨sector, rfl⟩) first count path
  | readMemory _ first count path =>
    cases asked
    exact serves_dumpMemory service (fun sector length => ⟨sector, length, rfl⟩) first count path
  | systemInfo _ =>
    cases asked
    exact serves_showSystemInfo service fun sector length => ⟨sector, length, rfl⟩
  | dumpImage _ choice path =>
    cases asked
    exact serves_dumpImage service (fun sector => ⟨sector, rfl⟩) choice path
  | dumpContainer _ choice path =>
    cases asked
    exact serves_dumpContainer service (fun sector => ⟨sector, rfl⟩) choice path
  | enter _ address =>
    cases asked
    exact serves_enterAt service usable rfl
  | enumerate => cases asked
  | inquiry _ => cases asked
  | capacity _ => cases asked
  | read _ _ _ _ => cases asked
  | write _ _ _ => cases asked

end

end PlayerLink
