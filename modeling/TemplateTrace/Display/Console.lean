import TemplateTrace.Display.TreeArt
import TemplateTrace.Document
import TemplateTrace.Text.Wrap

/-!
# Output on a console

How a document is shown to people. What is shown is a sequence of writes, so that a console that
stops taking them can be described: each text is one write, and so is the end of a line.

Errors, type names and code show nothing if they are empty.
-/

namespace TemplateTrace

/-- One write to a console. -/
inductive Write where
  | text (content : String)
  | newLine
  deriving DecidableEq, Repr, Inhabited

/-- The text that a write adds to the output. -/
def Write.content : Write → String
  | .text content => content
  | .newLine => "\n"

/-- Whether a write takes anything to the output at all. -/
def Write.isEmpty (w : Write) : Bool := w.content = ""

/-- The output that writes make. -/
def Write.output (writes : List Write) : String := String.join (writes.map Write.content)

namespace Document

/-- Whether a document shows nothing, whatever the output. -/
def isVoid : Document → Bool
  | .error text | .typeName text | .code text => text = ""
  | _ => false

/-- The comment as code, with its paragraphs wrapped. -/
def commentText (width : Nat) (prose : Comment) : String :=
  let opening : Text.Block := { width, margin := " * ", lines := ["/*"] }
  let body := prose.paragraphs.foldl (fun block p =>
    if p.content = "" then block.addEmpty
    else block.addWrapped (" * " ++ p.firstIndent) (" * " ++ p.restIndent) p.content) opening
  (body.addLine " */").text

/-- The writes of a text in a colour, or just of the text if there are no colours. -/
def coloredWrites (palette : Palette) (color text : String) : List Write :=
  if palette.isColored then [.text color, .text text, .text palette.reset] else [.text text]

/-- The writes of the label of a frame, and of the end of its line. -/
def frameWrites (shown : Frame) : List Write :=
  .text shown.name ::
    (match shown.kind with
      | none => [.newLine]
      | some kind => [.text (" (" ++ kind.name ++ ")"), .newLine])

/-- The writes that show a document on a console. -/
def writes (width : Nat) (palette : Palette) (document : Document) : List Write :=
  if document.isVoid then []
  else match document with
    | .rawText text | .typeName text | .code text => [.text text, .newLine]
    | .error text => coloredWrites palette palette.brightRed text ++ [.newLine]
    | .comment prose => [.text (commentText width prose), .newLine]
    | .frame shown => frameWrites shown
    | .backtrace trace =>
        (trace.frames.zipIdx).flatMap fun (shown, i) =>
          coloredWrites palette palette.white ("#" ++ Number.text i ++ " ") ++ frameWrites shown
    | .callGraph nodes =>
        (TreeArt.render width palette nodes).flatMap fun line => [.text line, .newLine]

/-- The writes that show a document as a line of JSON. -/
def jsonWrites (document : Document) : List Write :=
  if document.isVoid then [] else [.text document.render, .newLine]

end Document

/-- Where documents are shown. -/
inductive Sink where
  /-- A console of the given width. -/
  | console (width : Nat) (colored : Bool)
  /-- A stream with one JSON document on each line. -/
  | json
  deriving DecidableEq, Repr, Inhabited

/-- The width of a console whose size is unknown. -/
def defaultWidth : Nat := 80

/-- The writes that show a document. -/
def Sink.writes (sink : Sink) (document : Document) : List Write :=
  match sink with
  | .console width colored => document.writes width (.ofFlag colored)
  | .json => document.jsonWrites

/-- The text that shows documents. -/
def Sink.output (sink : Sink) (documents : List Document) : String :=
  Write.output (documents.flatMap sink.writes)

/-- The writes that get through if only so many do, and how many more would. A write of nothing
is none. -/
def Write.firstOf : (capacity : Nat) → List Write → List Write × Nat
  | capacity, [] => ([], capacity)
  | capacity, w :: rest =>
      if w.isEmpty then firstOf capacity rest
      else match capacity with
        | 0 => ([], 0)
        | capacity + 1 =>
            let (written, left) := firstOf capacity rest
            (w :: written, left)

end TemplateTrace
