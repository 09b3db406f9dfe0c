import PlayerLink.CommandLine.Parsing
import PlayerLink.Program.Run
import PlayerLink.Simulation.Playback

/-!
# The program

The outermost layer: it reads the command line, looks up the one file that a run may read,
has the run done, and shows and stores what the run left. Nothing is decided here. No
controller is bound to the bus of this program, so the bus has no devices; a binding gives its
devices to `CommandLine.Request.report`.
-/

open PlayerLink

/-- The folder with the file that an invocation reads, if it can be read. -/
def loadFolder (invocation : Invocation) : IO Folder := do
  match invocation.input? with
  | none => pure {}
  | some name =>
    match ← (IO.FS.readBinFile name).toBaseIO with
    | .ok content => pure { files := [(name, content.toList)] }
    | .error _ => pure {}

/-- Reads the command line and runs what it asks for. -/
def main (args : List String) : IO UInt32 := do
  match CommandLine.read args with
  | .error refusal =>
    match refusal with
    | .help => CommandLine.usage.forM IO.println
    | .version => IO.println CommandLine.version
    | .error => CommandLine.usage.forM IO.eprintln
    pure refusal.exitCode
  | .ok request =>
    let folder ← loadFolder request.invocation
    let report := request.report ({ devices := [] } : Bus Playback) folder
    report.printed.forM IO.println
    report.complaints.forM IO.eprintln
    for (name, content) in report.changed do
      IO.FS.writeBinFile name ⟨content.toArray⟩
    pure (if report.succeeded then 0 else 1)
