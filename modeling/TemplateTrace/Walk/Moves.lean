import TemplateTrace.Graph.CallGraph
import TemplateTrace.Log
import TemplateTrace.Walk.Cursor

/-!
# Moves

The moves of a debugger, made of single steps: so many steps forward or back, over what the
current frame instantiates, out of the current frame, and on or back to a frame that a test
accepts.

A walk ends, since the way from the root holds each vertex once: below an edge that waits there
are at most as many levels as vertices, and at each level at most as many choices as edges.
`Cursor.stepBound` is the number of steps that follows from it, and the moves that run until
something happens take it for their bound.
-/

namespace TemplateTrace

/-- What became of a move. -/
inductive Outcome where
  /-- The cursor moved. -/
  | moved
  /-- A move forward was asked for after the end. -/
  | alreadyFinished
  /-- A move back was asked for at the start, or a move out of the root. -/
  | atRoot
  deriving DecidableEq, Repr, Inhabited

namespace Cursor

/-- No walk takes more steps than this from the cursor on. -/
def stepBound (g : Metaprogram) (c : Cursor) : Nat :=
  (c.pending.length + 1) * Nat.pow (g.edgeCount + 1) (g.vertexCount + 1) + 1

/-- The cursor after `n` steps forward, or after all that there are. -/
def advance (g : Metaprogram) : Nat → Cursor → Cursor
  | 0, c => c
  | n + 1, c => match c.step? g with
    | none => c
    | some next => advance g n next

/-- The cursor after `n` steps back, or after all that there are. -/
def retreat (g : Metaprogram) : Nat → Cursor → Cursor
  | 0, c => c
  | n + 1, c => match c.stepBack? g with
    | none => c
    | some previous => retreat g n previous

/-- The first cursor that `stop` accepts after at least one and at most `bound` steps forward. -/
def advanceUntil (g : Metaprogram) (stop : Cursor → Bool) : (bound : Nat) → Cursor → Cursor
  | 0, c => c
  | bound + 1, c => match c.step? g with
    | none => c
    | some next => if stop next then next else advanceUntil g stop bound next

/-- The first cursor that `stop` accepts after at least one and at most `bound` steps back. -/
def retreatUntil (g : Metaprogram) (stop : Cursor → Bool) : (bound : Nat) → Cursor → Cursor
  | 0, c => c
  | bound + 1, c => match c.stepBack? g with
    | none => c
    | some previous => if stop previous then previous else retreatUntil g stop bound previous

/-- So many steps forward, as far as there are any. -/
def stepInto (g : Metaprogram) (count : Nat) (c : Cursor) : Outcome × Cursor :=
  if c.finished && 0 < count then (.alreadyFinished, c) else (.moved, c.advance g count)

/-- So many steps back, as far as there are any. -/
def stepBackBy (g : Metaprogram) (count : Nat) (c : Cursor) : Outcome × Cursor :=
  if c.history.isEmpty && 0 < count then (.atRoot, c) else (.moved, c.retreat g count)

/-- On to the next frame that is not inside the current one. -/
def stepOver (g : Metaprogram) (c : Cursor) : Outcome × Cursor :=
  if c.finished then (.alreadyFinished, c)
  else (.moved, c.advanceUntil g (·.depth ≤ c.depth) (c.stepBound g))

/-- On to the next frame above the current one; nothing lies above the root. -/
def stepOut (g : Metaprogram) (c : Cursor) : Outcome × Cursor :=
  if c.finished then (.alreadyFinished, c)
  else if c.isAtRoot then (.atRoot, c)
  else (.moved, c.advanceUntil g (·.depth < c.depth) (c.stepBound g))

/-- Whether the walk is not finished and the test accepts the current frame. -/
def frameSatisfies (g : Metaprogram) (test : Frame → Bool) (c : Cursor) : Bool :=
  (c.frame? g).any test

/-- On to the next frame that the test accepts, or to the end. -/
def continueUntil (g : Metaprogram) (test : Frame → Bool) (c : Cursor) : Outcome × Cursor :=
  if c.finished then (.alreadyFinished, c)
  else (.moved, c.advanceUntil g (frameSatisfies g test) (c.stepBound g))

/-- Back to the last frame that the test accepts, or to the start. -/
def continueBackUntil (g : Metaprogram) (test : Frame → Bool) (c : Cursor) : Outcome × Cursor :=
  if c.history.isEmpty then (.atRoot, c)
  else (.moved, c.retreatUntil g (frameSatisfies g test) c.history.length)

/-- What the current frame instantiates; nothing once the walk is finished. -/
def callGraph (g : Metaprogram) (mode : Mode) (maxDepth : Option Nat) (c : Cursor) :
    List CallNode :=
  if c.finished then []
  else g.callGraph (endOf g c.path) (frameOf g c.path) mode maxDepth

/-- The note about one step forward. -/
def stepRecord (g : Metaprogram) : Undo → LogRecord
  | .finish => { level := .trace, origin := .navigator, message := "metaprogram finished" }
  | .follow popped _ _ _ =>
      { level := .trace, origin := .navigator,
        message := "stepped to " ++ g.name (g.target popped.edge) ++ " at depth " ++
          Number.text popped.depth }

/-- The notes about the steps that lead from the cursor `before` to the cursor `after`, if
those are steps forward; steps back are not noted. -/
def stepLog (g : Metaprogram) (before after : Cursor) : List LogRecord :=
  ((after.history.take (after.history.length - before.history.length)).map
    (stepRecord g)).reverse

end Cursor

end TemplateTrace
