import TemplateTrace.Text.Quoted

/-!
# What can be wrong with a document

Every reason for which a text is no well-formed document, with the place where it shows. A
reader works on what is left of the text, so it reports a place by what is left from there on;
for people the place is a line and a column, counted from one.
-/

namespace TemplateTrace.Xml

/-- Why a text is no well-formed document. -/
inductive Cause where
  /-- The qualifier of XML itself is declared for another namespace. -/
  | wrongXmlSpace
  /-- The namespace of XML itself is declared for another qualifier. -/
  | xmlSpaceElsewhere
  /-- The namespace of declarations is declared. -/
  | xmlnsSpace
  /-- An element has the qualifier of declarations. -/
  | xmlnsElement
  | repeatedDeclaration (qualifier : String)
  | undeclared (qualifier : String)
  | repeatedAttribute (name : String)
  | wrongClosingTag (expected found : String)
  | unknownEntity (name : String)
  | malformedReference
  | noElement
  | unclosedElement
  | lateDeclaration
  | documentType
  | badName
  | badChar (c : Char)
  /-- Another character stands where a certain one has to stand. -/
  | otherThan (expected found : Char)
  /-- Another character stands where one of several has to stand. -/
  | otherThanKind (expected : String) (found : Char)
  /-- A certain text does not stand where it has to stand. -/
  | missing (expected : String)
  | hyphensInComment
  | sectionEndInText
  | unknownMarkup
  | endOfText
  deriving DecidableEq, Repr, Inhabited

/-- A cause, and what is left of the text from the place where it shows. -/
structure Flaw where
  cause : Cause
  left : List Char
  deriving DecidableEq, Repr, Inhabited

/-- What comes of reading. -/
abbrev Reading := Except Flaw

/-- Reports a cause at the front of a text. -/
def fail {α : Type} (cause : Cause) (s : List Char) : Reading α := .error ⟨cause, s⟩

/-- A place in a text. -/
structure Place where
  line : Nat
  column : Nat
  deriving DecidableEq, Repr, Inhabited

namespace Place

/-- The place after a text. -/
def after (s : List Char) : Place :=
  { line := s.count '\n' + 1, column := (s.reverse.takeWhile (· ≠ '\n')).length + 1 }

/-- The wording of a place. -/
def text (p : Place) : String := toString p.line ++ ":" ++ toString p.column

end Place

/-- A cause and the place where it shows. -/
structure Malformation where
  cause : Cause
  place : Place
  deriving DecidableEq, Repr, Inhabited

namespace Malformation

/-- The malformation that a flaw of a text is. -/
def ofFlaw (s : List Char) (flaw : Flaw) : Malformation :=
  ⟨flaw.cause, .after (s.take (s.length - flaw.left.length))⟩

/-- A character as it is shown where it is refused: by the first of its bytes. -/
def shown (c : Char) : String :=
  match String.utf8EncodeChar c with
  | byte :: _ => String.singleton (Char.ofNat byte.toNat)
  | [] => ""

/-- A character between quotes. -/
def quoted (c : Char) : String := "'" ++ String.ofList (Text.quotedChar c) ++ "'"

/-- The wording of a malformation. -/
def message (m : Malformation) : String :=
  let place := m.place.text
  match m.cause with
  | .wrongXmlSpace => "'xml' namespace prefix mapped to wrong URI at " ++ place
  | .xmlSpaceElsewhere => "the 'xml' namespace URI is used for not 'xml' prefix at " ++ place
  | .xmlnsSpace => "the 'xmlns' URI is used at " ++ place ++ ", but it must not be declared"
  | .xmlnsElement => "the 'xmlns' prefix is used at " ++ place ++ ", but it must not be"
  | .repeatedDeclaration qualifier =>
      "namespace '" ++ qualifier ++ "' at " ++ place ++ " is already defined"
  | .undeclared qualifier => "an unknown namespace prefix '" ++ qualifier ++ "' at " ++ place
  | .repeatedAttribute name => "attribute '" ++ name ++ "' at " ++ place ++ " is already defined"
  | .wrongClosingTag expected found =>
      "expected '" ++ expected ++ "' tag, not '" ++ found ++ "' at " ++ place
  | .unknownEntity name => "unknown entity reference '" ++ name ++ "' at " ++ place
  | .malformedReference => "malformed entity reference at " ++ place
  | .noElement => "the document does not have a root node"
  | .unclosedElement => "the root node was opened but never closed"
  | .lateDeclaration => "unexpected XML declaration at " ++ place
  | .documentType => "XML with DTD detected"
  | .badName => "invalid name token at " ++ place
  | .badChar c => "a non-XML character " ++ quoted c ++ " found at " ++ place
  | .otherThan expected found =>
      "expected '" ++ shown expected ++ "' not '" ++ shown found ++ "' at " ++ place
  | .otherThanKind expected found =>
      "expected " ++ expected ++ " not '" ++ shown found ++ "' at " ++ place
  | .missing expected => "expected '" ++ expected ++ "' at " ++ place
  | .hyphensInComment => "comment at " ++ place ++ " contains '--'"
  | .sectionEndInText => "']]>' at " ++ place ++ " is not allowed inside a character data"
  | .unknownMarkup => "unknown token at " ++ place
  | .endOfText => "unexpected end of stream"

end Malformation

end TemplateTrace.Xml
