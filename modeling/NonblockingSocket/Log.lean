/-!
# Log lines

- `Severity`: how serious a line is;
- `Verbosity`: which severities are written;
- `LogLine`: one written line.

The severities are the levels of SPEC_FULL, section 10.1.
-/

namespace NonblockingSocket

/-- How serious a log line is. -/
inductive Severity where
  | error
  | info
  | debug
  deriving DecidableEq, Repr

/-- The name of a severity. -/
def Severity.name : Severity → String
  | .error => "ERROR"
  | .info => "INFO"
  | .debug => "DEBUG"

/-- Up to which severity lines are written. -/
inductive Verbosity where
  | off
  | error
  | info
  | debug
  deriving DecidableEq, Repr

/-- Whether lines of a severity are written. -/
def Verbosity.shows : Verbosity → Severity → Bool
  | .off, _ => false
  | .error, severity => severity == .error
  | .info, severity => severity != .debug
  | .debug, _ => true

/-- One line of the log. -/
structure LogLine where
  severity : Severity
  text : String
  deriving DecidableEq, Repr

end NonblockingSocket
