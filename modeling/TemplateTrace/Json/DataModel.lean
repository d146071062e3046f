import TemplateTrace.CallNode
import TemplateTrace.Comment
import TemplateTrace.Json.Decode
import TemplateTrace.Location

/-!
# The data model in JSON

For each type of the data model its JSON form and the reader of that form. A type name is a
string, a kind is its name, a backtrace is the array of its frames, and all others are records.
A frame without a kind has no `kind` member. A kind may also be read from an object whose only
key is its name and whose value is null.

Inside a document (`TemplateTrace.Document`) an empty object may stand for that null; the
readers that can meet a kind there take a flag that allows it.
-/

namespace TemplateTrace

open Json

/-- The JSON form of a kind. -/
def Kind.toJson (kind : Kind) : Json := .ofText kind.name

/-- Whether a value stands for the absence of one. -/
def Json.isUnit (emptyObject : Bool) : Json → Bool
  | .null => true
  | .object [] => emptyObject
  | _ => false

/-- Reads a kind. -/
def Kind.ofJson? (emptyObject : Bool) : Json → Option Kind
  | .string (some name) => Kind.ofName? name
  | .object [(some name, value)] => if value.isUnit emptyObject then Kind.ofName? name else none
  | _ => none

/-- The members that hold a name and an optional kind. -/
def Frame.members (frame : Frame) : List (String × Json) :=
  ("name", .ofText frame.name) :: (frame.kind.map fun kind => ("kind", kind.toJson)).toList

/-- The JSON form of a frame. -/
def Frame.toJson (frame : Frame) : Json := .ofMembers frame.members

/-- Reads a frame. -/
def Frame.ofJson? (emptyObject : Bool) (json : Json) : Option Frame := do
  let [some name, kind] ← fields? ["name", "kind"] json | none
  return { name := ← name.text?, kind := ← optional? (Kind.ofJson? emptyObject) kind }

/-- The JSON form of a backtrace. -/
def Backtrace.toJson (trace : Backtrace) : Json := .array (trace.frames.map Frame.toJson)

/-- Reads a backtrace. -/
def Backtrace.ofJson? (emptyObject : Bool) (json : Json) : Option Backtrace :=
  (list? (Frame.ofJson? emptyObject) json).map Backtrace.mk

/-- The JSON form of a location. -/
def Location.toJson (location : Location) : Json :=
  .ofMembers [("file", .ofText location.file), ("line", .ofInt location.line.toInt),
    ("column", .ofInt location.column.toInt)]

/-- Reads a location. -/
def Location.ofJson? (json : Json) : Option Location := do
  let [some file, some line, some column] ← fields? ["file", "line", "column"] json | none
  return { file := ← file.text?, line := ← line.int32?, column := ← column.int32? }

/-- The JSON form of a paragraph. -/
def Paragraph.toJson (paragraph : Paragraph) : Json :=
  .ofMembers [("first_line_indentation", .ofText paragraph.firstIndent),
    ("rest_of_lines_indentation", .ofText paragraph.restIndent),
    ("content", .ofText paragraph.content)]

/-- Reads a paragraph. -/
def Paragraph.ofJson? (json : Json) : Option Paragraph := do
  let [some first, some rest, some content] ←
    fields? ["first_line_indentation", "rest_of_lines_indentation", "content"] json | none
  return { firstIndent := ← first.text?, restIndent := ← rest.text?, content := ← content.text? }

/-- The JSON form of paragraphs. -/
def Comment.paragraphsToJson (comment : Comment) : Json :=
  .array (comment.paragraphs.map Paragraph.toJson)

/-- The JSON form of a comment. -/
def Comment.toJson (comment : Comment) : Json :=
  .ofMembers [("paragraphs", comment.paragraphsToJson)]

/-- Reads a comment. -/
def Comment.ofJson? (json : Json) : Option Comment := do
  let [some paragraphs] ← fields? ["paragraphs"] json | none
  return ⟨← list? Paragraph.ofJson? paragraphs⟩

/-- The JSON form of a node with its frame as a record of its own. -/
def CallNode.toJson (node : CallNode) : Json :=
  .ofMembers [("frame", node.frame.toJson), ("depth", .ofNat node.depth),
    ("number_of_children", .ofNat node.children)]

/-- Reads a node with its frame as a record of its own. -/
def CallNode.ofJson? (json : Json) : Option CallNode := do
  let [some frame, some depth, some children] ←
    fields? ["frame", "depth", "number_of_children"] json | none
  return { frame := ← Frame.ofJson? false frame, depth := ← depth.count?,
           children := ← children.count? }

/-- A node with its frame taken apart, which documents use. -/
structure FlatNode where
  name : String
  kind : Option Kind := none
  depth : Nat
  children : Nat
  deriving DecidableEq, Repr, Inhabited

/-- The node with its frame taken apart. -/
def CallNode.flat (node : CallNode) : FlatNode :=
  { name := node.frame.name, kind := node.frame.kind, depth := node.depth,
    children := node.children }

/-- The node with its frame put together. -/
def FlatNode.node (flat : FlatNode) : CallNode :=
  { frame := { name := flat.name, kind := flat.kind }, depth := flat.depth,
    children := flat.children }

@[simp] theorem CallNode.node_flat (node : CallNode) : node.flat.node = node := rfl

/-- The JSON form of a flat node. -/
def FlatNode.toJson (flat : FlatNode) : Json :=
  .ofMembers (Frame.members { name := flat.name, kind := flat.kind } ++
    [("depth", .ofNat flat.depth), ("children", .ofNat flat.children)])

/-- Reads a flat node. -/
def FlatNode.ofJson? (emptyObject : Bool) (json : Json) : Option FlatNode := do
  let [some name, kind, some depth, some children] ←
    fields? ["name", "kind", "depth", "children"] json | none
  return { name := ← name.text?, kind := ← optional? (Kind.ofJson? emptyObject) kind,
           depth := ← depth.count?, children := ← children.count? }

/-- The JSON form of a node as a flat one. -/
def CallNode.toFlatJson (node : CallNode) : Json := node.flat.toJson

/-- Reads a node from a flat one. -/
def CallNode.ofFlatJson? (emptyObject : Bool) (json : Json) : Option CallNode :=
  (FlatNode.ofJson? emptyObject json).map FlatNode.node

end TemplateTrace
