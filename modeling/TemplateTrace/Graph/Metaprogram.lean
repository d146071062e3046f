import TemplateTrace.Frame
import TemplateTrace.Trace.Event

/-!
# Metaprograms

The graph of the instantiations that one evaluation made. Its vertices are the things that were
instantiated, the evaluated expression being the first; its edges are the instantiations, each
from the thing that caused it to the thing that was made. A thing instantiated more than once
is one vertex, so the graph need not be a tree and may hold cycles.

Vertices and edges are numbered in the order in which the trace first holds them, and each
vertex lists the edges that leave it in that order.
-/

namespace TemplateTrace

/-- The number of a vertex. -/
abbrev VertexId := Nat

/-- The number of an edge. -/
abbrev EdgeId := Nat

/-- How a thing that was instantiated more than once is shown. -/
inductive Mode where
  /-- What lies below it is shown at its first visit only. -/
  | normal
  /-- What lies below it is shown at every visit. -/
  | full
  deriving DecidableEq, Repr, Inhabited

/-- The name of a mode. -/
def Mode.name : Mode → String
  | .normal => "Normal"
  | .full => "Full"

/-- The mode that a flag for full traces asks for. -/
def Mode.ofFull (full : Bool) : Mode := if full then .full else .normal

/-- A thing that was instantiated. -/
structure Vertex where
  name : String
  outEdges : Array EdgeId := #[]
  deriving DecidableEq, Repr, Inhabited

/-- One instantiation. -/
structure Edge where
  source : VertexId
  target : VertexId
  kind : Kind
  location : Location
  time : Number.Binary64
  memory : UInt64
  deriving DecidableEq, Repr, Inhabited

/-- The graph of the instantiations of one evaluation. -/
structure Metaprogram where
  vertices : Array Vertex
  edges : Array Edge
  mode : Mode
  /-- The type that the evaluation resulted in. -/
  result : String
  deriving DecidableEq, Repr, Inhabited

namespace Metaprogram

/-- The vertex of the evaluated expression. -/
def root : VertexId := 0

/-- The metaprogram that instantiates nothing. -/
def rootOnly (mode : Mode) (rootName result : String) : Metaprogram :=
  { vertices := #[{ name := rootName }], edges := #[], mode, result }

/-- The metaprogram with one more vertex. -/
def addVertex (g : Metaprogram) (name : String) : Metaprogram :=
  { g with vertices := g.vertices.push { name } }

/-- The metaprogram with one more edge, listed last by the vertex that it leaves. -/
def addEdge (g : Metaprogram) (edge : Edge) : Metaprogram :=
  { g with
    vertices := g.vertices.modify edge.source fun v =>
      { v with outEdges := v.outEdges.push g.edges.size }
    edges := g.edges.push edge }

/-- The number of vertices. -/
def vertexCount (g : Metaprogram) : Nat := g.vertices.size

/-- The number of edges. -/
def edgeCount (g : Metaprogram) : Nat := g.edges.size

/-- The name of a vertex. -/
def name (g : Metaprogram) (v : VertexId) : String :=
  match g.vertices[v]? with
  | some vertex => vertex.name
  | none => ""

/-- The edges that leave a vertex, in the order of the trace. -/
def outEdges (g : Metaprogram) (v : VertexId) : List EdgeId :=
  match g.vertices[v]? with
  | some vertex => vertex.outEdges.toList
  | none => []

/-- The vertex that an edge leads to. -/
def target (g : Metaprogram) (e : EdgeId) : VertexId :=
  match g.edges[e]? with
  | some edge => edge.target
  | none => root

/-- The name of the evaluated expression. -/
def rootName (g : Metaprogram) : String := g.name root

/-- The frame of the evaluated expression, which has no kind. -/
def rootFrame (g : Metaprogram) : Frame := { name := g.rootName }

/-- The frame of what an edge instantiates. -/
def edgeFrame (g : Metaprogram) (e : EdgeId) : Frame :=
  { name := g.name (g.target e), kind := (g.edges[e]?).map Edge.kind }

end Metaprogram

end TemplateTrace
