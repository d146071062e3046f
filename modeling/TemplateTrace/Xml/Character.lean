import TemplateTrace.Xml.Flaw

/-!
# Characters and names of XML

The character classes of XML 1.0, the names made of them, and the two things that are undone
when character data is read: line ends of other systems and references to characters.
-/

namespace TemplateTrace.Xml

/-- The blanks of XML. -/
def isSpace (c : Char) : Bool := c = ' ' || c = '\t' || c = '\n' || c = '\r'

/-- The text without its leading blanks. -/
def skipSpace (s : List Char) : List Char := s.dropWhile isSpace

/-- The characters that may stand in a document. -/
def isXmlChar (c : Char) : Bool :=
  if c.toNat < 0x20 then isSpace c else c.toNat != 0xFFFE && c.toNat != 0xFFFF

/-- Whether a number lies in one of the given ranges. -/
def inRanges (n : Nat) (ranges : List (Nat × Nat)) : Bool :=
  ranges.any fun (low, high) => low ≤ n && n ≤ high

/-- The characters beyond ASCII that may begin a name. -/
def nameStartRanges : List (Nat × Nat) :=
  [(0xC0, 0xD6), (0xD8, 0xF6), (0xF8, 0x2FF), (0x370, 0x37D), (0x37F, 0x1FFF),
    (0x200C, 0x200D), (0x2070, 0x218F), (0x2C00, 0x2FEF), (0x3001, 0xD7FF), (0xF900, 0xFDCF),
    (0xFDF0, 0xFFFD), (0x10000, 0xEFFFF)]

/-- The characters that may begin a name. -/
def isNameStart (c : Char) : Bool :=
  c.isAlpha || c = ':' || c = '_' || inRanges c.toNat nameStartRanges

/-- The characters that may stand in a name. -/
def isNameChar (c : Char) : Bool :=
  isNameStart c || c.isDigit || c = '-' || c = '.' ||
    inRanges c.toNat [(0xB7, 0xB7), (0x300, 0x36F), (0x203F, 0x2040)]

/-- A name with an optional qualifier, which is empty if there is none. -/
structure QName where
  qualifier : String
  name : String
  deriving DecidableEq, Repr, Inhabited

/-- A name as it was written. -/
def QName.text (n : QName) : String :=
  if n.qualifier = "" then n.name else n.qualifier ++ ":" ++ n.name

/-- Splits a name off, of which a colon is a part like any other. -/
def splitName? (s : List Char) : Option (List Char × List Char) :=
  match s with
  | c :: _ => if isNameStart c then some (s.takeWhile isNameChar, s.dropWhile isNameChar) else none
  | [] => none

/-- The name that two parts make, the qualifier being allowed to be empty. -/
def qualified? (qualifier name : List Char) : Option QName :=
  match name with
  | [] => none
  | c :: _ =>
      if isNameStart c && qualifier.head?.all isNameStart
      then some { qualifier := String.ofList qualifier, name := String.ofList name }
      else none

/-- Splits a qualified name off, in which at most one colon stands. -/
def splitQName (s : List Char) : Reading (QName × List Char) :=
  let name? := match (s.takeWhile isNameChar).splitOn ':' with
    | [name] => qualified? [] name
    | [qualifier, name] => qualified? qualifier name
    | _ => none
  match name? with
  | some name => .ok (name, s.dropWhile isNameChar)
  | none => fail .badName s

/-- Makes every line end a single line feed. -/
def normalizeLineEnds : List Char → List Char
  | [] => []
  | '\r' :: '\n' :: rest => '\n' :: normalizeLineEnds rest
  | '\r' :: rest => '\n' :: normalizeLineEnds rest
  | c :: rest => c :: normalizeLineEnds rest

/-- The value of a digit in the given base, which is ten or sixteen. -/
def digitInBase? (base : Nat) (c : Char) : Option Nat :=
  if c.isDigit then some (c.toNat - '0'.toNat)
  else if base = 10 then none
  else if 'a' ≤ c && c ≤ 'f' then some (c.toNat - 'a'.toNat + 10)
  else if 'A' ≤ c && c ≤ 'F' then some (c.toNat - 'A'.toNat + 10)
  else none

/-- The character with the number that digits give. A number beyond 32 bits is refused; one
that is no character stands for the replacement character. -/
def numberedChar? (base : Nat) (s : List Char) : Option Char := do
  let digits ← s.mapM (digitInBase? base)
  let n := digits.foldl (fun n d => base * n + d) 0
  if digits.isEmpty || 0x100000000 ≤ n then none
  else
    let c := if n.isValidChar then Char.ofNat n else '\uFFFD'
    if isXmlChar c then some c else none

/-- The character that a reference stands for, given what stands between its marks. -/
def reference (body : List Char) : Except Cause Char :=
  let numbered (base : Nat) (digits : List Char) : Except Cause Char :=
    match numberedChar? base digits with
    | some c => .ok c
    | none => .error .malformedReference
  match body with
  | '#' :: 'x' :: digits => numbered 16 digits
  | '#' :: digits => numbered 10 digits
  | _ =>
      if body = "quot".toList then .ok '"'
      else if body = "amp".toList then .ok '&'
      else if body = "apos".toList then .ok '\''
      else if body = "lt".toList then .ok '<'
      else if body = "gt".toList then .ok '>'
      else match splitName? body with
        | some (name, []) => .error (.unknownEntity (String.ofList name))
        | _ => .error .malformedReference

/-- A character of a text that was read. -/
inductive TextUnit where
  /-- It stood in the text. -/
  | plain (c : Char)
  /-- A reference stood for it. -/
  | referred (c : Char)
  deriving DecidableEq, Repr, Inhabited

/-- Replaces the references in a text. Inside a reference, `body` is what was read of it so far,
the last character first. -/
def expandReferences : (body : Option (List Char)) → List Char → Reading (List TextUnit)
  | none, [] => .ok []
  | some body, [] => fail .malformedReference ('&' :: body.reverse)
  | none, '&' :: rest => expandReferences (some []) rest
  | none, c :: rest => (expandReferences none rest).map (.plain c :: ·)
  | some body, ';' :: rest =>
      match reference body.reverse with
      | .error cause => fail cause ('&' :: (body.reverse ++ ';' :: rest))
      | .ok c => (expandReferences none rest).map (.referred c :: ·)
  | some body, c :: rest => expandReferences (some (c :: body)) rest

/-- Replaces the references in a text that `after` follows. -/
def units (raw after : List Char) : Reading (List TextUnit) :=
  (expandReferences none raw).mapError fun flaw => { flaw with left := flaw.left ++ after }

/-- Makes every line end of a text a line feed, except for a carriage return directly before a
reference, and one between a reference and the end of the text. References stand for the
characters they name and make no line ends. -/
def unitsText : (afterReference : Bool) → List TextUnit → List Char
  | _, [] => []
  | _, .referred c :: rest => c :: unitsText true rest
  | afterReference, [.plain '\r'] => [if afterReference then '\r' else '\n']
  | _, .plain '\r' :: .plain '\n' :: rest => '\n' :: unitsText false rest
  | _, .plain '\r' :: .referred c :: rest => '\r' :: c :: unitsText true rest
  | _, .plain '\r' :: rest => '\n' :: unitsText false rest
  | _, .plain c :: rest => c :: unitsText false rest

/-- The text that character data stands for. -/
def decodeText (raw after : List Char) : Reading (List Char) :=
  (units raw after).map (unitsText false)

/-- The value of an attribute: a blank is a space, and so is a carriage return with the line feed
after it, unless a reference says otherwise. -/
def unitsValue : List TextUnit → List Char
  | [] => []
  | .referred c :: rest => c :: unitsValue rest
  | .plain '\r' :: .plain '\n' :: rest => ' ' :: unitsValue rest
  | .plain c :: rest => (if isSpace c then ' ' else c) :: unitsValue rest

/-- The value that the text of an attribute stands for. -/
def decodeAttribute (raw after : List Char) : Reading (List Char) :=
  (units raw after).map unitsValue

end TemplateTrace.Xml
