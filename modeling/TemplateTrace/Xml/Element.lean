/-!
# XML elements

A document as the tree of its elements. Character data is decoded, and a run of it that no
element, comment or processing instruction interrupts is one text; comments and instructions
are kept as mere interruptions. Names are resolved: each carries the namespace it belongs to,
and the declarations of namespaces are no attributes.
-/

namespace TemplateTrace.Xml

/-- An attribute of an element. -/
structure Attribute where
  /-- The namespace, if the name belongs to one. -/
  space : Option String
  name : String
  value : String
  deriving DecidableEq, Repr, Inhabited

mutual

/-- An element with its content. -/
inductive Element where
  | mk (space : Option String) (name : String) (attributes : List Attribute)
    (children : List Node)

/-- A part of the content of an element. -/
inductive Node where
  | element (element : Element)
  | text (content : String)
  /-- A comment or a processing instruction. -/
  | interruption

end

instance : Inhabited Element := ⟨.mk none "" [] []⟩

instance : Inhabited Node := ⟨.interruption⟩

/-- The element of a node that is one. -/
def Node.element? : Node → Option Element
  | .element e => some e
  | _ => none

namespace Element

/-- The name of an element within its namespace. -/
def name : Element → String
  | .mk _ name _ _ => name

/-- The attributes of an element. -/
def attributes : Element → List Attribute
  | .mk _ _ attributes _ => attributes

/-- The content of an element. -/
def children : Element → List Node
  | .mk _ _ _ children => children

/-- The elements directly inside an element. -/
def elements (e : Element) : List Element := e.children.filterMap Node.element?

/-- The first element inside with the given name, in any namespace. -/
def child? (e : Element) (name : String) : Option Element := e.elements.find? (·.name = name)

/-- The text with which the content of an element begins. -/
def text? (e : Element) : Option String :=
  match e.children with
  | .text content :: _ => some content
  | _ => none

/-- The value of the attribute with the given name that belongs to no namespace. -/
def attribute? (e : Element) (name : String) : Option String :=
  (e.attributes.find? fun a => a.space.isNone && a.name = name).map Attribute.value

end Element

end TemplateTrace.Xml
