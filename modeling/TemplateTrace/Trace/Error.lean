import TemplateTrace.Kind
import TemplateTrace.Xml.Flaw

/-!
# What can be wrong with a trace

Every reason for which no metaprogram comes out of a trace, and its wording. The file, the
document, its elements and the order of its events are each judged at a stage of their own, so
a trace with several faults has the error of the first stage that finds one.
-/

namespace TemplateTrace

/-- Why a file cannot be read as text. -/
inductive FileError where
  | notFound
  | isDirectory
  | notADirectory
  | nameTooLong
  | notUtf8
  /-- Whatever else the system says. -/
  | other (description : String)
  deriving DecidableEq, Repr, Inhabited

/-- The wording of a file error. -/
def FileError.message : FileError → String
  | .notFound => "No such file or directory (os error 2)"
  | .isDirectory => "Is a directory (os error 21)"
  | .notADirectory => "Not a directory (os error 20)"
  | .nameTooLong => "File name too long (os error 36)"
  | .notUtf8 => "stream did not contain valid UTF-8"
  | .other description => description

/-- The two elements that a trace is made of. -/
inductive EventTag where
  | begins
  | ends
  deriving DecidableEq, Repr, Inhabited

/-- The element name of an event. -/
def EventTag.name : EventTag → String
  | .begins => "TemplateBegin"
  | .ends => "TemplateEnd"

/-- Why no metaprogram comes out of a trace. -/
inductive TraceError where
  /-- A kind or a location is no such thing. -/
  | token (cause : TokenError)
  /-- The text is not a well-formed XML document. -/
  | malformed (cause : Xml.Malformation)
  /-- The document is not a trace. -/
  | missingTraceElement
  /-- An element of the trace is no event. -/
  | unknownElement (name : String)
  /-- An event lacks an element, an attribute or a text. -/
  | missingField (event : EventTag) (field : String)
  /-- An attribute is not the number that it should be. -/
  | invalidNumber (field value : String)
  /-- An event closes an instantiation and none is open. -/
  | mismatched
  /-- Instantiations are still open at the end. -/
  | unterminated
  /-- The source of traces has none for an expression. -/
  | evaluation (message : String)
  /-- The file of the trace cannot be read. -/
  | unreadable (path : String) (cause : FileError)
  deriving DecidableEq, Repr, Inhabited

/-- The wording of a trace error. -/
def TraceError.message : TraceError → String
  | .token cause => "templight xml parse failed: " ++ cause.message
  | .malformed cause => "templight xml parse failed: " ++ cause.message
  | .missingTraceElement => "templight xml parse failed (missing <Trace> root element)"
  | .unknownElement name => "unknown templight xml node \"" ++ name ++ "\""
  | .missingField event field =>
      "templight xml parse failed (" ++ event.name ++ " without " ++ field ++ ")"
  | .invalidNumber field value =>
      "templight xml parse failed (invalid " ++ field ++ ": \"" ++ value ++ "\")"
  | .mismatched => "mismatched Templight TemplateBegin and TemplateEnd events"
  | .unterminated => "some Templight TemplateEnd events are missing"
  | .evaluation message => message
  | .unreadable path cause =>
      "can't open templight file '" ++ path ++ "': " ++ cause.message

end TemplateTrace
