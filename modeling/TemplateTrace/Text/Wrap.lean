import TemplateTrace.Text.Blank

/-!
# Word wrap

Words are filled into lines from the left: a word goes to the current line if the line, a space
and the word fit into the width, and begins a new line otherwise. A word that is too long for
any line has a line of its own and is not split. The first line starts with an indentation of
its own, all others with a common one, and both count towards the width.
-/

namespace TemplateTrace.Text

/-- Fills words into lines, given the current line and whether it holds a word already. -/
def fill (width : Nat) (indent : List Char) :
    (line : List Char) → (hasWord : Bool) → List (List Char) → List (List Char)
  | line, _, [] => [line]
  | line, false, word :: rest => fill width indent (line ++ word) true rest
  | line, true, word :: rest =>
      if width < line.length + 1 + word.length
      then line :: fill width indent (indent ++ word) true rest
      else fill width indent (line ++ ' ' :: word) true rest

/-- The lines of a text wrapped at its words. -/
def wrap (width : Nat) (firstIndent restIndent text : List Char) : List (List Char) :=
  fill width restIndent firstIndent false (words text)

/-- A block of lines that is built up line by line. -/
structure Block where
  width : Nat
  /-- What an empty line of the block consists of, up to the blanks at its end. -/
  margin : String
  lines : List String := []
  deriving DecidableEq, Repr, Inhabited

namespace Block

/-- Adds a line as it stands. -/
def addLine (b : Block) (line : String) : Block := { b with lines := b.lines ++ [line] }

/-- Adds an empty line. -/
def addEmpty (b : Block) : Block := b.addLine (String.ofList (trimEnd b.margin.toList))

/-- Adds a text wrapped at its words. -/
def addWrapped (b : Block) (firstIndent restIndent text : String) : Block :=
  { b with
    lines := b.lines ++
      (wrap b.width firstIndent.toList restIndent.toList text.toList).map String.ofList }

/-- The lines of the block, with a line feed between them. -/
def text (b : Block) : String := "\n".intercalate b.lines

end Block

end TemplateTrace.Text
