import TemplateTrace.CallNode
import TemplateTrace.Graph.Metaprogram
import TemplateTrace.Graph.VertexSet

/-!
# Call graphs of a metaprogram

What a vertex instantiates, directly or not, as an ordered tree of frames. The tree follows the
edges in the order of the trace, and three rules keep it finite and readable: a vertex on the
way from the start is not entered again, in normal mode no vertex is entered twice, and nothing
is entered below a given depth. A vertex that is not entered is a leaf of the tree.

A way from the start holds each vertex once, so it is no longer than there are vertices; that
is the bound by which the recursion ends.
-/

namespace TemplateTrace

/-- Visits the elements of a list in order, handing a state from each to the next. -/
def visitAll {α β σ : Type} (visit : α → σ → β × σ) : List α → σ → List β × σ
  | [], state => ([], state)
  | a :: rest, state =>
      let (b, state) := visit a state
      let (bs, state) := visitAll visit rest state
      (b :: bs, state)

namespace Metaprogram

/-- Whether a traversal enters the vertex `v`, having come by the vertices of `path` and seen
those of `seen`, when `limit` more levels are wanted. -/
def enters (mode : Mode) (limit : Option Nat) (path : List VertexId) (seen : VertexSet)
    (v : VertexId) : Bool :=
  limit != some 0 && !path.contains v && (mode == .full || !seen.contains v)

/-- The tree below the vertex `v`, and the vertices seen after it. `room` vertices may still
follow on the way down. -/
def grow (g : Metaprogram) (mode : Mode) :
    (room : Nat) → (limit : Option Nat) → (path : List VertexId) → (frame : Frame) →
      (v : VertexId) → VertexSet → CallTree × VertexSet
  | 0, _, _, frame, v, seen => (.node frame [], seen.insert v)
  | room + 1, limit, path, frame, v, seen =>
      if enters mode limit path seen v then
        let (children, seen) := visitAll
          (fun e => grow g mode room (limit.map (· - 1)) (v :: path) (g.edgeFrame e) (g.target e))
          (g.outEdges v) (seen.insert v)
        (.node frame children, seen)
      else (.node frame [], seen.insert v)

/-- The call graph of a vertex as a tree, with the given frame at its root. -/
def callTree (g : Metaprogram) (start : VertexId) (frame : Frame) (mode : Mode)
    (maxDepth : Option Nat) : CallTree :=
  (g.grow mode g.vertexCount maxDepth [] frame start (.empty g.vertexCount)).1

/-- The call graph of a vertex as the list of its nodes in pre-order. -/
def callGraph (g : Metaprogram) (start : VertexId) (frame : Frame) (mode : Mode)
    (maxDepth : Option Nat) : List CallNode :=
  (g.callTree start frame mode maxDepth).nodes

end Metaprogram

end TemplateTrace
