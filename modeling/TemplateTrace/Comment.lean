import TemplateTrace.Text.Lines

/-!
# Structured comments

Prose to be shown as a comment: paragraphs, each with an indentation for its first line and
one for its other lines.
-/

namespace TemplateTrace

/-- A block of prose with a hanging indentation. -/
structure Paragraph where
  firstIndent : String := ""
  restIndent : String := ""
  content : String
  deriving DecidableEq, Repr, Inhabited

/-- Prose made of paragraphs. -/
structure Comment where
  paragraphs : List Paragraph := []
  deriving DecidableEq, Repr, Inhabited

/-- One paragraph without indentation for every line of a text. -/
def Comment.ofLines (text : String) : Comment :=
  ⟨(Text.lines text.toList).map fun line => { content := String.ofList line }⟩

end TemplateTrace
