/-!
# Blanks, trimming and words

A *blank* is a character with the Unicode property White_Space. Every other notion of
blankness in this library is built from this one: trimming drops blanks at the ends of a
text, and the words of a text are its maximal runs without a blank.

All functions work on `List Char`; a caller that holds a `String` converts at its own edge.
-/

namespace TemplateTrace.Text

/-- The characters with the Unicode property White_Space. -/
def isBlank (c : Char) : Bool :=
  let n := c.toNat
  (0x09 ≤ n && n ≤ 0x0D) || n == 0x20 || n == 0x85 || n == 0xA0 || n == 0x1680 ||
    (0x2000 ≤ n && n ≤ 0x200A) || n == 0x2028 || n == 0x2029 || n == 0x202F ||
    n == 0x205F || n == 0x3000

/-- The text without its leading blanks. -/
def trimStart (s : List Char) : List Char := s.dropWhile isBlank

/-- The text without its trailing blanks. -/
def trimEnd (s : List Char) : List Char := (s.reverse.dropWhile isBlank).reverse

/-- The text without its blanks at both ends. -/
def trim (s : List Char) : List Char := trimEnd (trimStart s)

/-- The first word of a text that starts with no blank, and what follows it. -/
def splitWord (s : List Char) : List Char × List Char :=
  (s.takeWhile (!isBlank ·), s.dropWhile (!isBlank ·))

/-- The maximal runs of characters other than blanks, in order. -/
def words (s : List Char) : List (List Char) :=
  (s.splitOnP isBlank).filter (!·.isEmpty)

/-- The `String` form of `trim`. -/
def trimmed (s : String) : String := String.ofList (trim s.toList)

end TemplateTrace.Text
