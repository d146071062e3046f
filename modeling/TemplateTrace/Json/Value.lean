/-!
# JSON values

A JSON text as a value, with nothing decided that its reader may want to decide: numbers keep
the way they were written, objects keep the order of their members and a key that comes twice,
and a string token is kept even if it spells no text, which happens when one of its escapes is
half of a surrogate pair.
-/

namespace TemplateTrace

/-- A number as it was written. -/
inductive Numeral where
  /-- Digits alone, after an optional minus sign. -/
  | integer (negative : Bool) (magnitude : Nat)
  /-- With a point or an exponent: what is before the point, the digits after it, and the power
  of ten that all of it is to be multiplied by. -/
  | scaled (negative : Bool) (whole : Nat) (fraction : List (Fin 10)) (exponent : Int)
  deriving DecidableEq, Repr, Inhabited

/-- A JSON value. -/
inductive Json where
  | null
  | bool (value : Bool)
  | number (numeral : Numeral)
  /-- The text that a string token spells, or `none` if it spells none. -/
  | string (text : Option String)
  | array (items : List Json)
  | object (members : List (Option String × Json))
  deriving Repr, Inhabited

namespace Json

/-- A string token for the given text. -/
def ofText (text : String) : Json := .string (some text)

/-- A natural number. -/
def ofNat (n : Nat) : Json := .number (.integer false n)

/-- An integer. -/
def ofInt (n : Int) : Json := .number (.integer (n < 0) n.natAbs)

/-- An object whose keys are the given texts. -/
def ofMembers (members : List (String × Json)) : Json :=
  .object (members.map fun (key, value) => (some key, value))

end Json

end TemplateTrace
