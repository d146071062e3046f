import TemplateTrace.Frame
import TemplateTrace.Pattern.Reader

/-!
# Breakpoints

A breakpoint stops a walk at the frames whose name a test accepts. The debugger's tests are
regular expressions, of which the breakpoint keeps the text for the messages about it; the walk
needs to know nothing about them.
-/

namespace TemplateTrace

/-- A test on names, and the text that it was made from. -/
structure Breakpoint where
  pattern : String
  accepts : String → Bool

namespace Breakpoint

/-- The breakpoint for the names that a regular expression matches somewhere. -/
def read? (pattern : String) : Option Breakpoint :=
  (Pattern.read? pattern).map fun p => { pattern, accepts := p.isIn }

/-- Whether the breakpoint stops at a frame. -/
def stopsAt (b : Breakpoint) (frame : Frame) : Bool := b.accepts frame.name

end Breakpoint

end TemplateTrace
