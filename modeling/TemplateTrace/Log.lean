/-!
# Log records

What the program notes about its own work. A record has a level, a place in the program that
it comes from, and a text. Only records at or above a chosen level are written; the number of
verbosity flags on the command line chooses it.
-/

namespace TemplateTrace

/-- How much a record matters. -/
inductive LogLevel where
  | error
  | warn
  | info
  | debug
  | trace
  deriving DecidableEq, Repr, Inhabited

namespace LogLevel

/-- The name of a level. -/
def name : LogLevel → String
  | .error => "ERROR"
  | .warn => "WARN"
  | .info => "INFO"
  | .debug => "DEBUG"
  | .trace => "TRACE"

/-- Levels that matter more have lower ranks. -/
def rank : LogLevel → Nat
  | .error => 0
  | .warn => 1
  | .info => 2
  | .debug => 3
  | .trace => 4

/-- The last level that is written with the given number of verbosity flags. -/
def ofVerbosity : Nat → LogLevel
  | 0 => .warn
  | 1 => .info
  | 2 => .debug
  | _ => .trace

end LogLevel

/-- The parts of the program that write records. -/
inductive LogOrigin where
  | builder
  | navigator
  | shell
  | source
  | traceCommand
  deriving DecidableEq, Repr, Inhabited

/-- The name under which a part of the program writes its records. -/
def LogOrigin.name : LogOrigin → String
  | .builder => "metashell_lib::metaprogram::builder"
  | .navigator => "metashell_lib::metaprogram::navigator"
  | .shell => "metashell_lib::mdb::shell"
  | .source => "metashell::commands::source"
  | .traceCommand => "metashell::commands::trace"

/-- One note of the program about its own work. -/
structure LogRecord where
  level : LogLevel
  origin : LogOrigin
  message : String
  deriving DecidableEq, Repr, Inhabited

/-- The line that writes a record. -/
def LogRecord.line (record : LogRecord) : String :=
  "[" ++ record.level.name ++ " " ++ record.origin.name ++ "] " ++ record.message

/-- Whether a record is written when the last written level is `threshold`. -/
def LogRecord.passes (record : LogRecord) (threshold : LogLevel) : Bool :=
  record.level.rank ≤ threshold.rank

end TemplateTrace
