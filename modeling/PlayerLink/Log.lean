/-!
# The log

Work on a device leaves a log: texts with a level, in the order in which they were written.
Everything that talks to a device runs in a monad over `LogM`, so the log is one value that
no step can reorder.
-/

namespace PlayerLink

/-- How severe a log entry is. -/
inductive Level where
  | error | warn | info | debug
  deriving DecidableEq, Repr

namespace Level

/-- Lower is more severe. -/
def rank : Level → Nat
  | error => 0
  | warn => 1
  | info => 2
  | debug => 3

/-- The level as written in front of an entry. -/
def label : Level → String
  | error => "ERROR"
  | warn => "WARN"
  | info => "INFO"
  | debug => "DEBUG"

end Level

/-- One text in the log. -/
structure LogEntry where
  level : Level
  text : String
  deriving DecidableEq, Repr

/-- The entries written so far, oldest first. -/
structure Log where
  entries : Array LogEntry := #[]
  deriving DecidableEq, Repr

namespace Log

/-- The entries at a level or more severe ones, oldest first. -/
def upTo (log : Log) (level : Level) : List LogEntry :=
  log.entries.toList.filter fun e => e.level.rank ≤ level.rank

end Log

/-- Steps that may write to the log. -/
abbrev LogM := StateM Log

namespace LogM

/-- Writes one entry. -/
def write (level : Level) (text : String) : LogM Unit :=
  modify fun log => { log with entries := log.entries.push ⟨level, text⟩ }

def debug (text : String) : LogM Unit := write .debug text

def info (text : String) : LogM Unit := write .info text

def warn (text : String) : LogM Unit := write .warn text

end LogM

end PlayerLink
