import PlayerLink.CommandLine.Parsing
import PlayerLink.Program.Enumeration
import PlayerLink.Program.Firmware
import PlayerLink.Program.Medium
import PlayerLink.Program.Memory

/-!
# Running an invocation

A request is run on a bus, in a folder. What an operator sees of it are the texts printed and
the complaints, the log up to the level asked for, and the failure, if there was one, with what
caused it.
-/

namespace PlayerLink

variable {δ : Type} [BulkLink δ]

/-- Does what an invocation asks for. -/
def Invocation.run : Invocation → ProgramM δ Unit
  | .enumerate => PlayerLink.enumerate
  | .inquiry target => showInquiry target
  | .capacity target => showCapacity target
  | .headerInfo service showDirectory header => PlayerLink.headerInfo service showDirectory header
  | .read target first count file => dumpMedium target first count file
  | .write target first file => writeMedium target first file
  | .readFlash service area first count file => dumpFlash service area first count file
  | .readMemory service first count file => dumpMemory service first count file
  | .systemInfo service => showSystemInfo service
  | .dumpImage service header file => PlayerLink.dumpImage service header file
  | .dumpContainer service header file => PlayerLink.dumpContainer service header file
  | .enter service address => enterAt service address

/-- The level of the log that a request asks to see. -/
def CommandLine.Request.level (r : CommandLine.Request) : Level :=
  if r.verbose then .debug else .info

/-! ### The report -/

/-- The lines that report a failure. -/
def Failure.report (failure : Failure) : List String :=
  let causes := failure.causes.map ("    " ++ ·)
  s!"Error: {failure.message}" :: if causes.isEmpty then [] else "" :: "Caused by:" :: causes

/-- A log entry as it is shown. -/
def LogEntry.line (e : LogEntry) : String := s!"{e.level.label} {e.text}"

/-- What is left of a run. -/
structure Report where
  printed : List String
  /-- Complaints, the log and the failure. -/
  complaints : List String
  /-- The files that were not there before or have another content. -/
  changed : List (String × List UInt8)
  succeeded : Bool

/-- Runs a request on a bus, in a folder. -/
def CommandLine.Request.report (r : CommandLine.Request) (bus : Bus δ)
    (folder : Folder) : Report :=
  let ((outcome, (_, desk)), log) := r.invocation.run.run (bus, { folder }) {}
  let failure := match outcome with
    | .ok () => []
    | .error failure => failure.report
  { printed := desk.printed.toList
    complaints := desk.complaints.toList ++ (log.upTo r.level).map LogEntry.line ++ failure
    changed := desk.folder.files.filter fun (name, content) => folder.content? name ≠ some content
    succeeded := failure.isEmpty }

/-- The file that an invocation reads. -/
def Invocation.input? : Invocation → Option String
  | .write _ _ file => some file
  | _ => none

end PlayerLink
