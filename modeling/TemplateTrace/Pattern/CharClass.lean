import TemplateTrace.Pattern.Match
import TemplateTrace.Text.Blank
import TemplateTrace.Unicode.Age
import TemplateTrace.Unicode.CaseFolding
import TemplateTrace.Unicode.Script
import TemplateTrace.Unicode.Segmentation

/-!
# Named sets of characters

The sets that a regular expression can name: the single letters for digits, blanks and word
characters, the names between colons inside brackets, and the properties of Unicode. Where
Unicode is switched off only ASCII counts: a set that would hold anything else, such as the
complement of any set, does not exist, because text is never looked at byte by byte.
-/

namespace TemplateTrace

/-- The flags of a regular expression. -/
structure PatternFlags where
  ignoreCase : Bool := false
  /-- Lines have starts and ends of their own. -/
  multiLine : Bool := false
  /-- The dot stands for a line feed too. -/
  dotAll : Bool := false
  unicode : Bool := true
  /-- Repetitions prefer few copies, and those with a mark prefer many. -/
  prefersFew : Bool := false
  /-- Carriage returns end lines too. -/
  returns : Bool := false
  /-- Blanks and comments may stand between the parts of the expression. -/
  spaced : Bool := false
  deriving DecidableEq, Repr, Inhabited

namespace PatternFlags

/-- Switches the flag with the given letter. -/
def switch? (flags : PatternFlags) (on : Bool) : Char → Option PatternFlags
  | 'i' => some { flags with ignoreCase := on }
  | 'm' => some { flags with multiLine := on }
  | 's' => some { flags with dotAll := on }
  | 'u' => some { flags with unicode := on }
  | 'R' => some { flags with returns := on }
  | 'x' => some { flags with spaced := on }
  | 'U' => some { flags with prefersFew := on }
  | _ => none

end PatternFlags

namespace Unicode

/-- The set with both cases of each of its ASCII letters. -/
def CharSet.foldAsciiCase (set : CharSet) : CharSet :=
  let letters : CharSet := .ofRanges [(0x41, 0x5A), (0x61, 0x7A)]
  let partners := (set.inter letters).ranges.flatMap fun (low, high) =>
    (List.range (high + 1 - low)).map fun i =>
      let n := low + i
      let partner := if n < 0x60 then n + 0x20 else n - 0x20
      (partner, partner)
  .ofRanges (set.ranges ++ partners)

/-- The set with the other cases of its characters if case is ignored. -/
def CharSet.fold (flags : PatternFlags) (set : CharSet) : CharSet :=
  if !flags.ignoreCase then set
  else if flags.unicode then set.foldCase
  else set.foldAsciiCase

/-- The complement of the set if that is asked for and exists. -/
def CharSet.negateIf? (flags : PatternFlags) (negated : Bool) (set : CharSet) : Option CharSet :=
  if !negated then some set
  else if flags.unicode then some set.complement
  else none

/-- The name of a property without what does not matter in it: case, separators, a leading `is`
and all that is not ASCII. -/
def plainName (name : List Char) : String :=
  let isMarked := (name.take 2).map Char.toLower = ['i', 's']
  let kept := ((if isMarked then name.drop 2 else name).filter fun c =>
    c.toNat < 0x80 && c ≠ ' ' && c ≠ '_' && c ≠ '-').map Char.toLower
  -- The one name in which the first letters belong to the word.
  if isMarked && kept = ['c'] then "isc" else String.ofList kept

/-- The characters of the property, general category or script with the given plain name. -/
def named? (name : String) : Option CharSet :=
  match property? name with
  | some p => some p.members
  | none => (category? name).or ((script? name).map Script.own)

/-- The characters with the given value of a property, both given by their plain names. -/
def valued? (property value : String) : Option CharSet :=
  if property = "gc" || property = "generalcategory" then category? value
  else if property = "sc" || property = "script" then (script? value).map Script.own
  else if property = "scx" || property = "scriptextensions" then
    (script? value).map Script.extended
  else if property = "age" then age? value
  else if property = "gcb" || property = "graphemeclusterbreak" then
    breakValue? graphemeBreaks value
  else if property = "wb" || property = "wordbreak" then breakValue? wordBreaks value
  else if property = "sb" || property = "sentencebreak" then breakValue? sentenceBreaks value
  else none

/-- The end of a text after the first place where it has the given part, and what is before. -/
def splitAtPart? (part : List Char) : List Char → Option (List Char × List Char)
  | [] => none
  | c :: rest =>
      if (c :: rest).take part.length = part then some ([], (c :: rest).drop part.length)
      else (splitAtPart? part rest).map fun (before, after) => (c :: before, after)

/-- What a query asks for: the characters with a property or with a value of one, or all others
if the mark between property and value is `!=`. -/
structure Query where
  negated : Bool
  set : CharSet

/-- Reads a query: a name, or a property and its value with a mark between them. -/
def query? (query : List Char) : Option Query :=
  match splitAtPart? ['!', '='] query with
  | some (property, value) =>
      (valued? (plainName property) (plainName value)).map (⟨true, ·⟩)
  | none =>
      match (splitAtPart? [':'] query).or (splitAtPart? ['='] query) with
      | some (property, value) =>
          (valued? (plainName property) (plainName value)).map (⟨false, ·⟩)
      | none => (named? (plainName query)).map (⟨false, ·⟩)

/-- The decimal digits. -/
def digitChars : CharSet := categorySet "nd"

/-- The blanks. -/
def blankChars : CharSet := having "whitespace"

/-- The set that a single letter names. -/
def lettered? (unicode : Bool) (letter : Char) : Option CharSet :=
  match letter with
  | 'd' => some (if unicode then digitChars else .ofRanges [(0x30, 0x39)])
  | 's' => some (if unicode then blankChars else .ofRanges [(0x09, 0x0D), (0x20, 0x20)])
  | 'w' => some (if unicode then wordChars else asciiWordChars)
  | _ => none

/-- The sets of ASCII characters that names between colons stand for. -/
def colonNames : List (String × List (Nat × Nat)) :=
  [("alnum", [(0x30, 0x39), (0x41, 0x5A), (0x61, 0x7A)]),
    ("alpha", [(0x41, 0x5A), (0x61, 0x7A)]),
    ("ascii", [(0x00, 0x7F)]),
    ("blank", [(0x09, 0x09), (0x20, 0x20)]),
    ("cntrl", [(0x00, 0x1F), (0x7F, 0x7F)]),
    ("digit", [(0x30, 0x39)]),
    ("graph", [(0x21, 0x7E)]),
    ("lower", [(0x61, 0x7A)]),
    ("print", [(0x20, 0x7E)]),
    ("punct", [(0x21, 0x2F), (0x3A, 0x40), (0x5B, 0x60), (0x7B, 0x7E)]),
    ("space", [(0x09, 0x0D), (0x20, 0x20)]),
    ("upper", [(0x41, 0x5A)]),
    ("word", [(0x30, 0x39), (0x41, 0x5A), (0x5F, 0x5F), (0x61, 0x7A)]),
    ("xdigit", [(0x30, 0x39), (0x41, 0x46), (0x61, 0x66)])]

end Unicode

end TemplateTrace
