/-!
# Lines of a text

A line ends at a line feed, which may have a carriage return directly before it; neither is
part of the line. What stands after the last line feed is a line of its own if it is not
empty, and it keeps a carriage return at its end, since no line feed follows.
-/

namespace TemplateTrace.Text

/-- The line without the carriage return that belongs to its line end. -/
def dropReturn (line : List Char) : List Char :=
  if line.getLast? = some '\r' then line.dropLast else line

/-- The lines of a text, without their ends. -/
def lines (s : List Char) : List (List Char) :=
  let pieces := s.splitOn '\n'
  let ended := pieces.dropLast.map dropReturn
  match pieces.getLast? with
  | none | some [] => ended
  | some rest => ended ++ [rest]

end TemplateTrace.Text
