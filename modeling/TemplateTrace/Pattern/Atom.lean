import TemplateTrace.Json.Reader
import TemplateTrace.Pattern.CharClass

/-!
# The atoms of a regular expression

An atom is what stands for one character or asks for one place: a character that means itself,
the dot, the marks of lines, and all that a backslash begins. Where the flag for it is on, blanks
and comments may stand between the parts of an expression and even inside some escapes.
-/

namespace TemplateTrace.PatternNotation

open Unicode (CharSet)

/-- Skips blanks and comments; a comment goes on to the end of its line. -/
def skipSpace : (inComment : Bool) → List Char → List Char
  | _, [] => []
  | true, c :: rest => skipSpace (c != '\n') rest
  | false, c :: rest =>
      if Text.isBlank c then skipSpace false rest
      else if c = '#' then skipSpace true rest
      else c :: rest

/-- Skips what may stand between two parts. -/
def skip (flags : PatternFlags) (s : List Char) : List Char :=
  if flags.spaced then skipSpace false s else s

/-- An atom. -/
inductive Atom where
  /-- A character; `asByte` tells that it was written as two hexadecimal digits. -/
  | literal (c : Char) (asByte : Bool)
  | chars (set : CharSet)
  | assertion (asked : Assertion)

/-- The characters that mean something else unless a backslash stands before them. -/
def metaChars : List Char := "\\.+*?()|[]\x7b\x7d^$#&-~".toList

/-- The characters of ASCII that mean themselves after a backslash, whether it is needed or
not. -/
def isEscapable (c : Char) : Bool :=
  metaChars.contains c || (c.toNat < 0x80 && !c.isAlphanum && c ≠ '<' && c ≠ '>')

/-- The character with the number that hexadecimal digits give. -/
def hexChar? (digits : List Nat) : Option Char :=
  let n := digits.foldl (fun n d => 16 * n + d) 0
  if n.isValidChar then some (Char.ofNat n) else none

/-- Reads a fixed number of hexadecimal digits. -/
def fixedHex? (flags : PatternFlags) : (count : Nat) → List Char → Option (List Nat × List Char)
  | 0, s => some ([], s)
  | _ + 1, [] => none
  | count + 1, c :: rest => do
      let digit ← Json.hexValue? c
      let (digits, rest) ← fixedHex? flags count (skip flags rest)
      return (digit :: digits, rest)

/-- What stands before a closing brace, less the blanks where those do not count, and what
follows the brace. -/
def upToBrace? (flags : PatternFlags) : (inComment : Bool) → List Char →
    Option (List Char × List Char)
  | _, [] => none
  | true, c :: rest => upToBrace? flags (c != '\n') rest
  | false, c :: rest =>
      if flags.spaced && Text.isBlank c then upToBrace? flags false rest
      else if flags.spaced && c = '#' then upToBrace? flags true rest
      else if c = '\x7d' then some ([], rest)
      else (upToBrace? flags false rest).map fun (inside, rest) => (c :: inside, rest)

/-- Reads the number of a character, after the letter that says how many digits it has. -/
def hexEscape? (flags : PatternFlags) (letter : Char) (s : List Char) :
    Option (Atom × List Char) :=
  match skip flags s with
  | '\x7b' :: rest => do
      let (inside, rest) ← upToBrace? flags false rest
      if inside.isEmpty then none
      let c ← hexChar? (← inside.mapM Json.hexValue?)
      return (.literal c false, skip flags rest)
  | s => do
      let (digits, rest) ←
        fixedHex? flags (if letter = 'x' then 2 else if letter = 'u' then 4 else 8) s
      return (.literal (← hexChar? digits) (letter = 'x'), rest)

/-- Reads the query of a property of characters. -/
def propertyEscape? (flags : PatternFlags) (negated : Bool) (s : List Char) :
    Option (Atom × List Char) := do
  let (query, rest) ← match skip flags s with
    | [] => none
    | '\x7b' :: rest => upToBrace? flags false rest
    | c :: rest => if c = '\\' then none else some ([c], skip flags rest)
  if !flags.unicode then none
  let asked ← Unicode.query? query
  return (.chars (← (asked.set.fold flags).negateIf? flags (negated != asked.negated)), rest)

/-- A letter or a hyphen, as in the names of the places beside a word. -/
def isPlaceChar (c : Char) : Bool := c.isAlpha || c = '-'

/-- Takes the name of a place up to its closing brace. -/
def placeName? (flags : PatternFlags) : (inComment : Bool) → List Char →
    Option (List Char × List Char)
  | _, [] => none
  | true, c :: rest => placeName? flags (c != '\n') rest
  | false, c :: rest =>
      if flags.spaced && Text.isBlank c then placeName? flags false rest
      else if flags.spaced && c = '#' then placeName? flags true rest
      else if c = '\x7d' then some ([], rest)
      else if isPlaceChar c then
        (placeName? flags false rest).map fun (name, rest) => (c :: name, rest)
      else none

/-- Reads what may follow the escape of a word boundary: the name of a place in braces. Braces
that begin with anything but a letter or a hyphen are left for a repetition. -/
def wordPlace? (flags : PatternFlags) (s : List Char) : Option (WordPlace × List Char) :=
  match s with
  | '\x7b' :: inside =>
      match skip flags inside with
      | [] => none
      | c :: _ =>
          if !isPlaceChar c then some (.boundary, s)
          else do
            let (name, rest) ← placeName? flags false inside
            match String.ofList name with
            | "start" => return (.start, rest)
            | "end" => return (.stop, rest)
            | "start-half" => return (.startHalf, rest)
            | "end-half" => return (.stopHalf, rest)
            | _ => none
  | _ => some (.boundary, s)

/-- Reads what follows a backslash. -/
def escape? (flags : PatternFlags) : List Char → Option (Atom × List Char)
  | [] => none
  | c :: rest =>
      let place (p : WordPlace) : Option (Atom × List Char) :=
        some (.assertion (.word p flags.unicode), rest)
      if isEscapable c then some (.literal c false, rest)
      else match c with
        | 'x' | 'u' | 'U' => hexEscape? flags c rest
        | 'p' | 'P' => propertyEscape? flags (c = 'P') rest
        | 'd' | 's' | 'w' | 'D' | 'S' | 'W' => do
            let set ← Unicode.lettered? flags.unicode c.toLower
            return (.chars (← set.negateIf? flags c.isUpper), rest)
        | 'a' => some (.literal '\x07' false, rest)
        | 'f' => some (.literal '\x0c' false, rest)
        | 't' => some (.literal '\t' false, rest)
        | 'n' => some (.literal '\n' false, rest)
        | 'r' => some (.literal '\r' false, rest)
        | 'v' => some (.literal '\x0b' false, rest)
        | 'A' => some (.assertion .textStart, rest)
        | 'z' => some (.assertion .textEnd, rest)
        | 'b' => do
            let (p, rest) ← wordPlace? flags rest
            return (.assertion (.word p flags.unicode), rest)
        | 'B' => place .noBoundary
        | '<' => place .start
        | '>' => place .stop
        | _ => none

/-- The characters that the dot stands for. -/
def dotSet (flags : PatternFlags) : CharSet :=
  if flags.dotAll then .all
  else if flags.returns then (CharSet.ofRanges [(0x0A, 0x0A), (0x0D, 0x0D)]).complement
  else (CharSet.single '\n').complement

/-- What the mark of the start of a line asks for. -/
def startMark (flags : PatternFlags) : Assertion :=
  if !flags.multiLine then .textStart else if flags.returns then .returnLineStart else .lineStart

/-- What the mark of the end of a line asks for. -/
def endMark (flags : PatternFlags) : Assertion :=
  if !flags.multiLine then .textEnd else if flags.returns then .returnLineEnd else .lineEnd

/-- Reads an atom outside of brackets. -/
def atom? (flags : PatternFlags) : List Char → Option (Atom × List Char)
  | [] => none
  | '\\' :: rest => escape? flags rest
  | '.' :: rest => if flags.unicode then some (.chars (dotSet flags), rest) else none
  | '^' :: rest => some (.assertion (startMark flags), rest)
  | '$' :: rest => some (.assertion (endMark flags), rest)
  | c :: rest => some (.literal c false, rest)

/-- What an atom asks of a text. A character that is written as a byte is no character beyond
ASCII where Unicode is off. -/
def Atom.pattern? (flags : PatternFlags) : Atom → Option Pattern
  | .literal c asByte =>
      if !flags.unicode && asByte && 0x80 ≤ c.toNat then none
      else some (.ofSet ((CharSet.single c).fold flags))
  | .chars set => some (.ofSet set)
  | .assertion asked => some (.assertion asked)

end TemplateTrace.PatternNotation
