import TemplateTrace.Graph.Metaprogram
import TemplateTrace.Graph.VertexSet

/-!
# Walking a metaprogram

A cursor stands at one point of a depth-first walk through a metaprogram. It keeps the edges
that lead from the root to where it stands, the edges that wait to be followed, and the
vertices that it has discovered. In normal mode the edges that leave a vertex are followed at
its first discovery only, in full mode at every visit; a vertex that is already on the way from
the root is never entered again.

Every step forward records what it changed, and no more than that, so that a step back can
restore the cursor exactly.
-/

namespace TemplateTrace

/-- An edge that waits to be followed, and the depth of the vertex it leads to. -/
structure Pending where
  edge : EdgeId
  depth : Nat
  deriving DecidableEq, Repr, Inhabited

/-- What one step forward changed. -/
inductive Undo where
  /-- No edge was waiting. -/
  | finish
  /-- The edge `popped` was followed: the edges `unwound` left the way from the root, `pushed`
  edges joined those that wait, and the vertex was discovered then if `discovered` is set. -/
  | follow (popped : Pending) (unwound : List EdgeId) (pushed : Nat) (discovered : Bool)
  deriving DecidableEq, Repr, Inhabited

/-- A point of a walk through a metaprogram. -/
structure Cursor where
  /-- The edges from the root to the current vertex, the last one first. -/
  path : List EdgeId
  /-- The edges that wait to be followed, the next one first. -/
  pending : List Pending
  discovered : VertexSet
  finished : Bool
  /-- What the steps so far changed, the last one first. -/
  history : List Undo
  deriving DecidableEq, Repr, Inhabited

namespace Cursor

/-- The edges that leave a vertex, waiting to be followed. -/
def pendingFrom (g : Metaprogram) (v : VertexId) (depth : Nat) : List Pending :=
  (g.outEdges v).map fun edge => { edge, depth }

/-- The cursor at the start of the walk. -/
def start (g : Metaprogram) : Cursor :=
  { path := []
    pending := pendingFrom g Metaprogram.root 1
    discovered := (VertexSet.empty g.vertexCount).insert Metaprogram.root
    finished := false
    history := [] }

/-- The number of edges between the root and the current vertex. -/
def depth (c : Cursor) : Nat := c.path.length

/-- Whether the cursor stands at the root. -/
def isAtRoot (c : Cursor) : Bool := !c.finished && c.path.isEmpty

/-- The vertex that a path leads to. -/
def endOf (g : Metaprogram) : List EdgeId → VertexId
  | [] => Metaprogram.root
  | e :: _ => g.target e

/-- The current vertex, unless the walk is finished. -/
def vertex? (g : Metaprogram) (c : Cursor) : Option VertexId :=
  if c.finished then none else some (endOf g c.path)

/-- The frame that a path leads to. -/
def frameOf (g : Metaprogram) : List EdgeId → Frame
  | [] => g.rootFrame
  | e :: _ => g.edgeFrame e

/-- The current frame, unless the walk is finished. -/
def frame? (g : Metaprogram) (c : Cursor) : Option Frame :=
  if c.finished then none else some (frameOf g c.path)

/-- The frames from the root to the current one; none once the walk is finished. -/
def backtrace (g : Metaprogram) (c : Cursor) : Backtrace :=
  if c.finished then {} else ⟨g.rootFrame :: c.path.reverse.map g.edgeFrame⟩

/-- Whether the vertex lies on the way from the root along a path. -/
def onPath (g : Metaprogram) (path : List EdgeId) (v : VertexId) : Bool :=
  v == Metaprogram.root || path.any (g.target · == v)

/-- Follows the edge `next`, the edges `rest` being those that wait after it. -/
def follow (g : Metaprogram) (c : Cursor) (next : Pending) (rest : List Pending) : Cursor :=
  let leaving := c.path.length - (next.depth - 1)
  let kept := c.path.drop leaving
  let target := g.target next.edge
  let isNew := !c.discovered.contains target
  let children :=
    if !onPath g kept target && (g.mode == .full || isNew)
    then pendingFrom g target (next.depth + 1) else []
  { path := next.edge :: kept
    pending := children ++ rest
    discovered := c.discovered.insert target
    finished := false
    history := .follow next (c.path.take leaving) children.length isNew :: c.history }

/-- One step forward: follows the next edge, or finishes the walk if there is none. A finished
walk has no next step. -/
def step? (g : Metaprogram) (c : Cursor) : Option Cursor :=
  if c.finished then none
  else match c.pending with
    | [] => some { c with finished := true, history := .finish :: c.history }
    | next :: rest => some (c.follow g next rest)

/-- One step back: undoes the last step forward, if there was one. -/
def stepBack? (g : Metaprogram) (c : Cursor) : Option Cursor :=
  match c.history with
  | [] => none
  | .finish :: history => some { c with finished := false, history }
  | .follow popped unwound pushed discovered :: history =>
      some { c with
        path := unwound ++ c.path.tail
        pending := popped :: c.pending.drop pushed
        discovered :=
          if discovered then c.discovered.erase (g.target popped.edge) else c.discovered
        history }

end Cursor

end TemplateTrace
