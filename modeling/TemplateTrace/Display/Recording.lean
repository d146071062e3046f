import TemplateTrace.Display.Console

/-!
# Recordings

A recording keeps what was shown, sorted by the kind of document, for a program that looks at
the output of the debugger instead of printing it.
-/

namespace TemplateTrace

/-- What was shown, in order for each kind of document. -/
structure Recording where
  rawTexts : List String := []
  errors : List String := []
  typeNames : List String := []
  comments : List Comment := []
  codes : List String := []
  frames : List Frame := []
  backtraces : List Backtrace := []
  callGraphs : List (List CallNode) := []
  deriving DecidableEq, Repr, Inhabited

namespace Recording

/-- Records a document, unless it shows nothing. -/
def add (r : Recording) (document : Document) : Recording :=
  if document.isVoid then r
  else match document with
    | .rawText text => { r with rawTexts := r.rawTexts ++ [text] }
    | .error text => { r with errors := r.errors ++ [text] }
    | .typeName name => { r with typeNames := r.typeNames ++ [name] }
    | .comment prose => { r with comments := r.comments ++ [prose] }
    | .code text => { r with codes := r.codes ++ [text] }
    | .frame shown => { r with frames := r.frames ++ [shown] }
    | .backtrace trace => { r with backtraces := r.backtraces ++ [trace] }
    | .callGraph nodes => { r with callGraphs := r.callGraphs ++ [nodes] }

/-- Records documents in order. -/
def addAll (r : Recording) (documents : List Document) : Recording := documents.foldl add r

/-- Whether nothing was shown. -/
def isEmpty (r : Recording) : Bool := r = {}

end Recording

end TemplateTrace
