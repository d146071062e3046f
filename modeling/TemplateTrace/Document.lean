import TemplateTrace.Json.DataModel
import TemplateTrace.Json.Reader
import TemplateTrace.Json.Writer

/-!
# Output documents

One thing shown to a machine: a JSON object whose `type` member, written first, says what the
other members are. When a document is read the tag may stand anywhere in the object, and a
document may also be an array of the tag and the fields.
-/

namespace TemplateTrace

/-- One output document. -/
inductive Document where
  | rawText (text : String)
  | error (text : String)
  | typeName (name : String)
  | comment (prose : Comment)
  | code (text : String)
  | frame (shown : Frame)
  | backtrace (trace : Backtrace)
  | callGraph (nodes : List CallNode)
  deriving DecidableEq, Repr, Inhabited

namespace Document

open Json

/-- The tag of a document. -/
def tag : Document → String
  | .rawText _ => "raw_text"
  | .error _ => "error"
  | .typeName _ => "type"
  | .comment _ => "comment"
  | .code _ => "cpp_code"
  | .frame _ => "frame"
  | .backtrace _ => "backtrace"
  | .callGraph _ => "call_graph"

/-- The members of a document other than its tag. -/
def members : Document → List (String × Json)
  | .rawText text => [("value", .ofText text)]
  | .error text => [("msg", .ofText text)]
  | .typeName text => [("name", .ofText text)]
  | .comment prose => [("paragraphs", prose.paragraphsToJson)]
  | .code text => [("code", .ofText text)]
  | .frame shown => shown.members
  | .backtrace trace => [("frames", trace.toJson)]
  | .callGraph nodes => [("nodes", .array (nodes.map CallNode.toFlatJson))]

/-- The JSON form of a document. -/
def toJson (document : Document) : Json :=
  .ofMembers (("type", .ofText document.tag) :: document.members)

/-- The line of text that is written for a document. -/
def render (document : Document) : String := document.toJson.render

/-- Reads the record of a document from its only field. -/
def single? {α : Type} (name : String) (read? : Json → Option α) (record : Json) :
    Option α := do
  let [some value] ← fields? [name] record | none
  read? value

/-- Reads a document from its tag and the record of its other members. -/
def ofRecord? (tag : String) (record : Json) : Option Document :=
  match tag with
  | "raw_text" => (single? "value" text? record).map .rawText
  | "error" => (single? "msg" text? record).map .error
  | "type" => (single? "name" text? record).map .typeName
  | "comment" => (single? "paragraphs" (list? Paragraph.ofJson?) record).map (.comment ⟨·⟩)
  | "cpp_code" => (single? "code" text? record).map .code
  | "frame" => (Frame.ofJson? true record).map .frame
  | "backtrace" => (single? "frames" (Backtrace.ofJson? true) record).map .backtrace
  | "call_graph" =>
      (single? "nodes" (list? (CallNode.ofFlatJson? true)) record).map .callGraph
  | _ => none

/-- Reads a document from its JSON form. -/
def ofJson? : Json → Option Document
  | .array (.string (some tag) :: rest) => ofRecord? tag (.array rest)
  | .object members =>
      match valuesOf members "type" with
      | [.string (some tag)] =>
          ofRecord? tag (.object (members.filter (·.1 ≠ some "type")))
      | _ => none
  | _ => none

/-- How many values may lie inside each other in the text of a document. -/
def maxNesting : Nat := 127

/-- Reads a document from its text. All of the text has to be plain, also the members that
are no fields of the document. -/
def read? (text : String) : Option Document := do
  let json ← Json.read? text
  if json.isPlain maxNesting then ofJson? json else none

end Document

end TemplateTrace
