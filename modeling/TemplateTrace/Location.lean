import TemplateTrace.Kind
import TemplateTrace.Number.Integer

/-!
# Points of instantiation

A place in a source file. A trace writes it as `file|line|column`, where the file name is any
text without a bar; people are shown `file:line:column`.
-/

namespace TemplateTrace

/-- A line and a column of a source file. -/
structure Location where
  file : String
  line : Int32
  column : Int32
  deriving DecidableEq, Repr, Inhabited

namespace Location

/-- Reads the three parts that bars separate. -/
def ofParts? : List (List Char) → Option Location
  | [file, line, column] => do
      let line ← Number.int32? line
      let column ← Number.int32? column
      return { file := String.ofList file, line, column }
  | _ => none

/-- Reads the form that a trace writes. -/
def read (text : String) : Except TokenError Location :=
  match ofParts? (text.toList.splitOn '|') with
  | some location => .ok location
  | none => .error (.invalidLocation text)

/-- The form shown to people. -/
def label (location : Location) : String :=
  location.file ++ ":" ++ Number.signedText location.line.toInt ++ ":" ++
    Number.signedText location.column.toInt

end Location

end TemplateTrace
