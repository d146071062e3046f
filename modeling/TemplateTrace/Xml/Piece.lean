import TemplateTrace.Xml.Character

/-!
# Pieces of markup

A document is a sequence of pieces: tags, runs of character data, sections whose text is taken
as it stands, comments and processing instructions. Each reader here takes one kind of piece
off the front of the text and returns the rest, or says what is wrong with the piece.
Declarations of document types are not among the pieces, so a document with one is refused.
-/

namespace TemplateTrace.Xml

/-- Takes an expected beginning off. -/
def strip? (expected : String) (s : List Char) : Option (List Char) :=
  let expected := expected.toList
  if expected.isPrefixOf s then some (s.drop expected.length) else none

/-- Takes a beginning off that has to be there. -/
def expect (expected : String) (s : List Char) : Reading (List Char) :=
  match strip? expected s with
  | some rest => .ok rest
  | none => fail (.missing expected) s

/-- Takes a character off that has to be there. -/
def expectChar (expected : Char) : List Char → Reading (List Char)
  | [] => fail .endOfText []
  | c :: rest => if c = expected then .ok rest else fail (.otherThan expected c) (c :: rest)

/-- Splits the text where a mark stands. -/
def splitAt? (mark : List Char) : List Char → Option (List Char × List Char)
  | [] => none
  | c :: rest =>
      if mark.isPrefixOf (c :: rest) then some ([], c :: rest)
      else (splitAt? mark rest).map fun (before, after) => (c :: before, after)

/-- Whether a text holds another one. -/
def holds (part : String) (s : List Char) : Bool := (splitAt? part.toList s).isSome

/-- Refuses a text with a character that must not stand in a document; `after` follows it. -/
def checkChars (text after : List Char) : Reading Unit :=
  match text.dropWhile isXmlChar with
  | [] => .ok ()
  | c :: rest => fail (.badChar c) (c :: rest ++ after)

/-- Splits the text at a mark, and drops the mark. -/
def splitAtMark (mark : String) (s : List Char) : Reading (List Char × List Char) := do
  let (before, after) := (splitAt? mark.toList s).getD (s, [])
  checkChars before after
  return (before, ← expect mark after)

/-- Reads a comment, given what is left after its opening mark. Two hyphens end it and must not
stand in it. -/
def comment (s : List Char) : Reading (List Char) := do
  let (content, rest) ← splitAtMark "-->" s
  if holds "--" content || content.getLast? = some '-' then
    fail .hyphensInComment ("<!--".toList ++ s)
  else return rest

/-- Reads a processing instruction, given what is left after its opening mark. The declaration of
the document is no instruction. -/
def instruction (s : List Char) : Reading (List Char) := do
  if (strip? "xml " s).isSome then fail .lateDeclaration ("<?".toList ++ s)
  else
    match splitName? s with
    | none => fail .badName s
    | some (_, rest) => do
        let (_, rest) ← splitAtMark "?>" (skipSpace rest)
        return rest

/-- Reads an equals sign with blanks around it. -/
def equals (s : List Char) : Reading (List Char) := (expectChar '=' (skipSpace s)).map skipSpace

/-- Reads a quoted value as it stands, up to the quote that ends it. No value holds the mark that
begins a tag. -/
def quotedValue : List Char → Reading (List Char × List Char)
  | [] => fail .endOfText []
  | quote :: rest =>
      if quote = '"' || quote = '\'' then do
        let ends (c : Char) : Bool := c = quote || c = '<'
        let value := rest.takeWhile (!ends ·)
        let after := rest.dropWhile (!ends ·)
        checkChars value after
        let _ ← expectChar quote after
        return (value, after)
      else fail (.otherThanKind "a quote" quote) (quote :: rest)

/-- Reads a name, an equals sign and a quoted value as it stands, up to the quote that ends it. -/
def rawAttribute (s : List Char) : Reading (QName × List Char × List Char) := do
  let (name, rest) ← splitQName s
  let (value, rest) ← quotedValue (← equals rest)
  return (name, value, rest)

/-- An attribute as it stands in a tag. -/
structure TagAttribute where
  name : QName
  value : String
  /-- What is left of the text from its name on. -/
  left : List Char
  deriving DecidableEq, Repr, Inhabited

/-- What may follow the attributes of a tag. -/
inductive TagEnd where
  /-- The content of the element. -/
  | content
  /-- The end of the element. -/
  | element
  /-- The end of the text, in the middle of the tag. -/
  | text
  deriving DecidableEq, Repr, Inhabited

/-- A part of a tag after its name. -/
inductive TagPart where
  | attribute (a : TagAttribute)
  | tagEnd (e : TagEnd)
  deriving DecidableEq, Repr, Inhabited

/-- Reads a part of a tag. A blank stands before every attribute. -/
def tagPart (s : List Char) : Reading (TagPart × List Char) :=
  match s, skipSpace s with
  | [], _ => .ok (.tagEnd .text, [])
  | _, [] => fail .endOfText []
  | _, '>' :: rest => .ok (.tagEnd .content, rest)
  | _, '/' :: rest => (expectChar '>' rest).map fun rest => (.tagEnd .element, rest)
  | first :: _, c :: rest =>
      if isSpace first then do
        let inner := c :: rest
        let (name, raw, after) ← rawAttribute inner
        let value ← decodeAttribute raw after
        return (.attribute { name, value := String.ofList value, left := inner }, after.drop 1)
      else fail (.otherThanKind "a whitespace" c) (c :: rest)

/-- Reads the tag that ends an element, after its opening mark. -/
def closingTag (s : List Char) : Reading (QName × List Char) := do
  let (name, rest) ← splitQName s
  return (name, ← expectChar '>' (skipSpace rest))

/-- Reads a run of character data, which ends where a tag begins. -/
def characterData (s : List Char) : Reading (List Char × List Char) := do
  let raw := s.takeWhile (· != '<')
  let rest := s.dropWhile (· != '<')
  checkChars raw rest
  if holds "]]>" raw then fail .sectionEndInText rest
  else return (← decodeText raw rest, rest)

/-- Reads a section whose text is taken as it stands, after its opening mark. -/
def verbatim (s : List Char) : Reading (List Char × List Char) := do
  let (content, rest) ← splitAtMark "]]>" s
  return (normalizeLineEnds content, rest)

end TemplateTrace.Xml
