import TemplateTrace.Location
import TemplateTrace.Number.Binary64

/-!
# Events of a trace

The compiler reports when it begins to instantiate a template and when it is done, so a trace
is a sequence of opening and closing events, nested like brackets.
-/

namespace TemplateTrace

/-- What the compiler reports when it begins an instantiation. -/
structure Instantiation where
  kind : Kind
  /-- What is instantiated, as the compiler writes it. -/
  context : String
  location : Location
  /-- Seconds. -/
  time : Number.Binary64
  /-- Bytes in use. -/
  memory : UInt64
  deriving DecidableEq, Repr, Inhabited

/-- One event of a trace. -/
inductive Event where
  | begins (instantiation : Instantiation)
  | ends (kind : Kind) (time : Number.Binary64) (memory : UInt64)
  deriving DecidableEq, Repr, Inhabited

end TemplateTrace
