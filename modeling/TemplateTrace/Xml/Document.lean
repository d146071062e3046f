import TemplateTrace.Xml.Element
import TemplateTrace.Xml.Piece

/-!
# Reading XML documents

The pieces of a document become the tree of its elements: tags have to match like brackets,
every qualifier has to be declared, and no element has two attributes of one resolved name.
Around the root element stand only comments, processing instructions and blanks, and before all
of them perhaps a byte order mark and a declaration of the document.
-/

namespace TemplateTrace.Xml

/-- The namespaces in force at some place: what each qualifier stands for, the nearest
declaration first. The empty qualifier is the one of names without any. -/
abbrev Scope := List (String × String)

/-- The namespace that the qualifier `xml` stands for everywhere. -/
def xmlSpace : String := "http://www.w3.org/XML/1998/namespace"

/-- The namespace of the declarations of namespaces, which nothing else may use. -/
def xmlnsSpace : String := "http://www.w3.org/2000/xmlns/"

/-- Whether an attribute declares a namespace. -/
def isDeclaration (name : QName) : Bool := name.qualifier = "xmlns" || name.name = "xmlns"

/-- Adds the declaration that an attribute is to those of the same tag before it. -/
def declare (declared : Scope) (a : TagAttribute) : Reading Scope :=
  let refuse (cause : Cause) : Reading Scope := fail cause a.left
  if a.value = xmlnsSpace then refuse .xmlnsSpace
  else if a.name.qualifier = "xmlns" then
    -- The qualifier and the namespace of XML itself belong together.
    if a.name.name = "xml" && a.value ≠ xmlSpace then refuse .wrongXmlSpace
    else if a.name.name ≠ "xml" && a.value = xmlSpace then refuse .xmlSpaceElsewhere
    else if declared.any (·.1 = a.name.name) then refuse (.repeatedDeclaration a.name.name)
    else if a.value = xmlSpace then .ok declared
    else .ok (declared ++ [(a.name.name, a.value)])
  else if a.value = xmlSpace then refuse .xmlSpaceElsewhere
  else .ok (declared ++ [("", a.value)])

/-- The namespace that a qualifier stands for, which has to be declared unless it is empty. The
qualifier stands at the front of `left`. -/
def Scope.resolve (scope : Scope) (left : List Char) (qualifier : String) :
    Reading (Option String) :=
  match scope.lookup qualifier with
  | some space => .ok (some space)
  | none => if qualifier = "" then .ok none else fail (.undeclared qualifier) left

/-- The namespace of an attribute with the given qualifier; a name without one has none. -/
def Scope.resolveAttribute (scope : Scope) (left : List Char) (qualifier : String) :
    Reading (Option String) :=
  if qualifier = "" then .ok none
  else if qualifier = "xml" then .ok (some xmlSpace)
  else scope.resolve left qualifier

/-- Resolves an attribute and adds it to those before it. No two of them may have one name in one
namespace. -/
def addAttribute (scope : Scope) (before : List Attribute) (a : TagAttribute) :
    Reading (List Attribute) := do
  let space ← scope.resolveAttribute a.left a.name.qualifier
  if before.any (fun b => b.space = space && b.name = a.name.name) then
    fail (.repeatedAttribute a.name.name) a.left
  else return before ++ [{ space, name := a.name.name, value := a.value }]

/-- A tag that begins an element. -/
structure Tag where
  name : QName
  /-- What is left of the text from its name on. -/
  left : List Char
  /-- The namespaces that it declares. -/
  declared : Scope
  attributes : List TagAttribute
  stop : TagEnd

/-- Reads the attributes and the end of a tag, given what was declared before. Each attribute
takes at least one character, so the length of the text bounds their number. -/
def tagTail : (bound : Nat) → Scope → List Char →
    Reading (Scope × List TagAttribute × TagEnd × List Char)
  | 0, _, s => fail .endOfText s
  | bound + 1, declared, s => do
      let (part, rest) ← tagPart s
      match part with
      | .tagEnd stop => return (declared, [], stop, rest)
      | .attribute a =>
          if isDeclaration a.name then tagTail bound (← declare declared a) rest
          else do
            let (declared, attributes, stop, rest) ← tagTail bound declared rest
            return (declared, a :: attributes, stop, rest)

/-- Reads the tag that begins an element, after its opening mark. The text is no longer than
`bound`. -/
def openingTag (bound : Nat) (s : List Char) : Reading (Tag × List Char) := do
  let (name, rest) ← splitQName s
  if name.qualifier = "xmlns" then fail .xmlnsElement s
  else do
    let (declared, attributes, stop, rest) ← tagTail (bound + 1) [] rest
    return ({ name, left := s, declared, attributes, stop }, rest)

/-- An element that is being read. -/
structure Unfinished where
  /-- The name as it was written, which the closing tag repeats. -/
  written : QName
  space : Option String
  attributes : List Attribute
  /-- The namespaces in force inside the element. -/
  scope : Scope
  /-- The content so far, the last part first. -/
  reversed : List Node

namespace Unfinished

/-- The element that a tag begins, where the given namespaces are in force. -/
def ofTag (scope : Scope) (tag : Tag) : Reading Unfinished := do
  let scope := tag.declared ++ scope
  let attributes ← tag.attributes.foldlM (addAttribute scope) []
  let space ← scope.resolve tag.left tag.name.qualifier
  return { written := tag.name, space, attributes, scope, reversed := [] }

/-- The element, its content being complete. -/
def complete (e : Unfinished) : Element :=
  .mk e.space e.written.name e.attributes e.reversed.reverse

/-- Adds a part to the content. -/
def add (e : Unfinished) (node : Node) : Unfinished := { e with reversed := node :: e.reversed }

/-- Adds character data to the content, joining it to a text that ends the content. -/
def addText (e : Unfinished) (content : String) : Unfinished :=
  match e.reversed with
  | .text before :: rest => { e with reversed := .text (before ++ content) :: rest }
  | _ => e.add (.text content)

end Unfinished

/-- What a piece makes of the elements that are being read, the innermost first: more of them,
or the complete root element. -/
inductive Progress where
  | reading (innermost : Unfinished) (outer : List Unfinished)
  | done (root : Element)

/-- Ends the innermost element. -/
def closeInnermost (innermost : Unfinished) : List Unfinished → Progress
  | [] => .done innermost.complete
  | parent :: outer => .reading (parent.add (.element innermost.complete)) outer

/-- Begins an element inside others, or ends it too if its tag says so. A text that ends within
the tag leaves the outermost element open, or none at all. -/
def beginElement (innermost : Option Unfinished) (outer : List Unfinished) (tag : Tag) :
    Reading Progress := do
  let e ← match tag.stop with
    | .text => fail (if innermost.isNone then .noElement else .unclosedElement) []
    | _ => Unfinished.ofTag ((innermost.map Unfinished.scope).getD []) tag
  let outer := innermost.toList ++ outer
  return if tag.stop = .element then closeInnermost e outer else .reading e outer

/-- Reads the piece at the front of the content of the innermost element. The text is no longer
than `bound`. -/
def piece (bound : Nat) (innermost : Unfinished) (outer : List Unfinished) (s : List Char) :
    Reading (Progress × List Char) :=
  let interrupted (rest : List Char) : Progress × List Char :=
    (.reading (innermost.add .interruption) outer, rest)
  let said (content rest : List Char) : Progress × List Char :=
    (.reading (innermost.addText (String.ofList content)) outer, rest)
  match s with
  | [] => fail .unclosedElement []
  | ['<'] => fail .unknownMarkup s
  | '<' :: '!' :: '-' :: '-' :: rest => (comment rest).map interrupted
  | '<' :: '!' :: rest =>
      match strip? "[CDATA[" rest with
      | some rest => (verbatim rest).map fun (content, rest) => said content rest
      | none => fail .unknownMarkup s
  | '<' :: '?' :: rest => (instruction rest).map interrupted
  | '<' :: '/' :: rest => do
      let (name, rest) ← closingTag rest
      if name = innermost.written then return (closeInnermost innermost outer, rest)
      else fail (.wrongClosingTag innermost.written.text name.text) s
  | '<' :: rest => do
      let (tag, rest) ← openingTag bound rest
      return (← beginElement (some innermost) outer tag, rest)
  | _ => (characterData s).map fun (content, rest) => said content rest

/-- Reads pieces until the root element is complete. Every piece takes at least one character
off, so the length of the text bounds their number. -/
def content : (bound : Nat) → Unfinished → List Unfinished → List Char →
    Reading (Element × List Char)
  | 0, _, _, s => fail .unclosedElement s
  | bound + 1, innermost, outer, s => do
      let (progress, rest) ← piece bound innermost outer s
      match progress with
      | .done root => return (root, rest)
      | .reading innermost outer => content bound innermost outer rest

/-- Reads the root element, after its opening mark. -/
def root (s : List Char) : Reading (Element × List Char) := do
  let (tag, rest) ← openingTag s.length s
  match ← beginElement none [] tag with
  | .done root => return (root, rest)
  | .reading e outer => content (s.length + 1) e outer rest

/-- Skips what may stand beside the root element. -/
def skipMisc : (bound : Nat) → List Char → Reading (List Char)
  | 0, s => .ok s
  | bound + 1, s =>
      match skipSpace s with
      | '<' :: '!' :: '-' :: '-' :: rest => do skipMisc bound (← comment rest)
      | '<' :: '?' :: rest => do skipMisc bound (← instruction rest)
      | rest => .ok rest

/-- Skips the blanks that end a part of the declaration of the document; there are some unless
the declaration ends. -/
def skipSeparator (s : List Char) : Reading (List Char) :=
  match s with
  | [] => .ok []
  | c :: _ =>
      if isSpace c then .ok (skipSpace s)
      else if (strip? "?>" s).isSome then .ok s
      else fail (.otherThanKind "a whitespace" c) s

/-- Skips an attribute of the declaration. -/
def skipDeclared (s : List Char) : Reading (List Char) := do
  let (_, _, after) ← rawAttribute s
  return after.drop 1

/-- Skips the declaration of the document, if there is one. It gives a version, and perhaps an
encoding and whether the document stands alone; of each name only the beginning matters. -/
def skipDeclaration (s : List Char) : Reading (List Char) :=
  match strip? "<?xml " s with
  | none => .ok s
  | some rest => do
      let s := skipSpace rest
      if (strip? "version" s).isNone then fail (.missing "version") s
      else do
        let s ← skipSeparator (← skipDeclared s)
        let s ← if (strip? "encoding" s).isNone then .ok s
          else do skipSeparator (← skipDeclared s)
        let s ← if (strip? "standalone" s).isNone then .ok s else skipDeclared s
        expect "?>" (skipSpace s)

/-- The text without a byte order mark. -/
def skipMark : List Char → List Char
  | '\uFEFF' :: rest => rest
  | s => s

/-- Reads a document, given as its characters. -/
def document (s : List Char) : Reading Element := do
  let s ← skipDeclaration (skipMark s)
  let s ← skipMisc (s.length + 1) s
  match s with
  | [] => fail .noElement s
  | '<' :: rest =>
      if (strip? "<!DOCTYPE" s).isSome then fail .documentType s
      else do
        let (root, s) ← root rest
        let s ← skipMisc (s.length + 1) s
        if s.isEmpty then return root else fail .unknownMarkup s
  | _ => fail .unknownMarkup s

/-- Reads a document and returns its root element. -/
def read (text : String) : Except Malformation Element :=
  let s := text.toList
  (document s).mapError (Malformation.ofFlaw s)

end TemplateTrace.Xml
