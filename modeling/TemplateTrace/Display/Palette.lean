/-!
# Colours

The escape sequences that colour the output on a terminal, or empty texts where the output is
to be plain. Tree art takes its colours from five of them in turn, by depth; the others mark
errors and the numbers of a backtrace.
-/

namespace TemplateTrace

/-- The colours of the output. -/
structure Palette where
  red : String := ""
  green : String := ""
  yellow : String := ""
  blue : String := ""
  cyan : String := ""
  white : String := ""
  brightRed : String := ""
  /-- Ends the effect of a colour. -/
  reset : String := ""
  deriving DecidableEq, Repr, Inhabited

namespace Palette

/-- No colours. -/
def plain : Palette := {}

/-- The standard colours of terminals. -/
def terminal : Palette :=
  { red := "\x1b[31m", green := "\x1b[32m", yellow := "\x1b[33m", blue := "\x1b[34m",
    cyan := "\x1b[36m", white := "\x1b[37m", brightRed := "\x1b[91m", reset := "\x1b[0m" }

/-- Colours if they are wanted. -/
def ofFlag (colored : Bool) : Palette := if colored then terminal else plain

/-- Whether there are colours at all. -/
def isColored (p : Palette) : Bool := p.reset != ""

/-- The colour of tree art at a depth. -/
def forDepth (p : Palette) (depth : Nat) : String :=
  match depth % 5 with
  | 0 => p.red
  | 1 => p.green
  | 2 => p.yellow
  | 3 => p.blue
  | _ => p.cyan

end Palette

end TemplateTrace
