import Std.Data.HashMap
import TemplateTrace.Graph.Metaprogram
import TemplateTrace.Log
import TemplateTrace.Trace.Error

/-!
# Building a metaprogram from events

The events of a trace are replayed as a stack of open instantiations. An opening event adds an
edge from the innermost open instantiation, or from the root, to the vertex of its context; a
closing event closes the innermost open instantiation. A context is one vertex, whatever way
leads to it, and the root is no context.

A closing event may name another kind than the event that it closes; such mismatches change
nothing and are only noted. A closing event fails if nothing is open, and then the builder is
as it was, so a caller may go on after an error.
-/

namespace TemplateTrace

/-- An instantiation that was closed under another kind than it was opened with. -/
structure KindMismatch where
  closedAs : Kind
  context : String
  openedAs : Kind
  deriving DecidableEq, Repr, Inhabited

/-- The note about a mismatch. -/
def KindMismatch.record (m : KindMismatch) : LogRecord :=
  { level := .warn, origin := .builder,
    message := "TemplateEnd (" ++ m.closedAs.name ++ ") closes " ++ m.context ++
      " opened as " ++ m.openedAs.name }

/-- A metaprogram in the making. -/
structure Builder where
  program : Metaprogram
  /-- The open instantiations, the innermost first: a vertex and the kind it was opened with. -/
  opened : List (VertexId × Kind) := []
  /-- The vertex of every context. -/
  contexts : Std.HashMap String VertexId := ∅
  /-- The mismatches so far, the last one first. -/
  mismatches : List KindMismatch := []

namespace Builder

/-- A builder that has seen no event. -/
def new (mode : Mode) (rootName result : String) : Builder :=
  { program := .rootOnly mode rootName result }

/-- The builder with a vertex for the context, and that vertex. -/
def withVertex (b : Builder) (context : String) : Builder × VertexId :=
  match b.contexts[context]? with
  | some v => (b, v)
  | none =>
      let v := b.program.vertexCount
      ({ b with
          program := b.program.addVertex context
          contexts := b.contexts.insert context v }, v)

/-- The vertex that the next instantiation is made by. -/
def innermost (b : Builder) : VertexId :=
  match b.opened with
  | [] => Metaprogram.root
  | (v, _) :: _ => v

/-- Opens an instantiation. -/
def begin (b : Builder) (i : Instantiation) : Builder :=
  let source := b.innermost
  let (b, target) := b.withVertex i.context
  { b with
    program := b.program.addEdge
      { source, target, kind := i.kind, location := i.location, time := i.time,
        memory := i.memory }
    opened := (target, i.kind) :: b.opened }

/-- Closes the innermost open instantiation. -/
def close (b : Builder) (kind : Kind) : Except TraceError Builder :=
  match b.opened with
  | [] => .error .mismatched
  | (v, openedAs) :: rest =>
      let mismatches :=
        if openedAs = kind then b.mismatches
        else { closedAs := kind, context := b.program.name v, openedAs } :: b.mismatches
      .ok { b with opened := rest, mismatches }

/-- Takes one event. -/
def handle (b : Builder) : Event → Except TraceError Builder
  | .begins i => .ok (b.begin i)
  | .ends kind _ _ => b.close kind

/-- The metaprogram, if everything that was opened is closed. -/
def finish (b : Builder) : Except TraceError Metaprogram :=
  if b.opened.isEmpty then .ok b.program else .error .unterminated

/-- Takes events up to the first that fails, and returns its error beside the builder. -/
def replay (b : Builder) : List Event → Builder × Option TraceError
  | [] => (b, none)
  | event :: rest =>
      match b.handle event with
      | .ok b => b.replay rest
      | .error error => (b, some error)

/-- The notes about the mismatches so far, in their order. -/
def mismatchLog (b : Builder) : List LogRecord := b.mismatches.reverse.map KindMismatch.record

end Builder

namespace Metaprogram

/-- The note about a metaprogram that was built. -/
def builtRecord (g : Metaprogram) : LogRecord :=
  { level := .debug, origin := .builder,
    message := "metaprogram built: " ++ Number.text g.vertexCount ++ " vertices, " ++
      Number.text g.edgeCount ++ " edges, " ++ g.mode.name ++ " mode" }

/-- Builds a metaprogram from the events of a trace, and returns the notes made meanwhile. -/
def build (events : List Event) (mode : Mode) (rootName result : String) :
    Except TraceError Metaprogram × List LogRecord :=
  match (Builder.new mode rootName result).replay events with
  | (b, some error) => (.error error, b.mismatchLog)
  | (b, none) =>
      match b.finish with
      | .ok g => (.ok g, b.mismatchLog ++ [g.builtRecord])
      | .error error => (.error error, b.mismatchLog)

/-- Builds a metaprogram from the events of a trace. -/
def ofEvents (events : List Event) (mode : Mode) (rootName result : String) :
    Except TraceError Metaprogram :=
  (build events mode rootName result).1

end Metaprogram

end TemplateTrace
