import TemplateTrace.Log
import TemplateTrace.Trace.Reader

/-!
# Sources of traces

To evaluate an expression the debugger asks a source for the trace of its evaluation. A source
may have a state, so two answers for one expression may differ; all that a source notes for the
log is part of its answer. The source that the command line uses reads one file whatever the
expression is.
-/

namespace TemplateTrace

/-- The trace of one evaluation, and the type that it resulted in. -/
structure Evaluation where
  events : List Event
  result : String
  deriving DecidableEq, Repr, Inhabited

/-- What a source says to an expression. -/
structure SourceAnswer where
  evaluation : Except TraceError Evaluation
  log : List LogRecord := []

/-- A source of traces with states of type `σ`. -/
structure TraceSource (σ : Type) where
  answer : σ → String → SourceAnswer × σ

/-- The texts of files, or why they have none. -/
abbrev Files := String → Except FileError String

/-- Reads the events of a trace from a file. -/
def Event.ofFile (files : Files) (path : String) : Except TraceError (List Event) :=
  match files path with
  | .error cause => .error (.unreadable path cause)
  | .ok text => Event.readTrace text

/-- A source that takes every trace from one file, if it has a file at all. -/
structure FileSource where
  path : Option String
  /-- The type that every evaluation results in. -/
  result : String
  deriving DecidableEq, Repr, Inhabited

namespace FileSource

/-- What the source says to an expression. -/
def answer (source : FileSource) (files : Files) (expression : String) : SourceAnswer :=
  match source.path with
  | none => { evaluation := .error (.evaluation "no templight trace file given") }
  | some path =>
      { evaluation := (Event.ofFile files path).map fun events =>
          { events, result := source.result }
        log := [{ level := .info, origin := .source,
                  message := "evaluating " ++ expression ++ " from " ++ path }] }

/-- The source without any state. -/
def toTraceSource (source : FileSource) (files : Files) : TraceSource Unit :=
  { answer := fun _ expression => (source.answer files expression, ()) }

end FileSource

end TemplateTrace
