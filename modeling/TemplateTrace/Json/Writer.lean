import TemplateTrace.Json.Value
import TemplateTrace.Number.Integer

/-!
# Writing JSON

JSON text is written without blanks. In strings, quotes, backslashes and the characters below
U+0020 are escaped, with the short escape where there is one; everything else stands for
itself.
-/

namespace TemplateTrace.Json

/-- A hexadecimal digit in lower case. -/
def hexDigit (n : Nat) : Char := Nat.digitChar (n % 16)

/-- A character inside a string token. -/
def escapeChar (c : Char) : List Char :=
  if c = '"' then ['\\', '"']
  else if c = '\\' then ['\\', '\\']
  else if c = '\x08' then ['\\', 'b']
  else if c = '\x0c' then ['\\', 'f']
  else if c = '\n' then ['\\', 'n']
  else if c = '\r' then ['\\', 'r']
  else if c = '\t' then ['\\', 't']
  else if c.toNat < 0x20 then ['\\', 'u', '0', '0', hexDigit (c.toNat / 16), hexDigit c.toNat]
  else [c]

/-- The token of a text. A string that spells no text is written as half a surrogate pair. -/
def writeString : Option String → List Char
  | some text => '"' :: (text.toList.flatMap escapeChar ++ ['"'])
  | none => "\"\\ud800\"".toList

/-- The digits after a point, with the point if there are any. -/
def writeFraction (fraction : List (Fin 10)) : List Char :=
  if fraction.isEmpty then []
  else '.' :: fraction.map fun (digit : Fin 10) => Nat.digitChar digit.val

/-- The token of a number. -/
def writeNumeral : Numeral → List Char
  | .integer negative magnitude => (if negative then ['-'] else []) ++ Number.digits magnitude
  | .scaled negative whole fraction exponent =>
      (if negative then ['-'] else []) ++ Number.digits whole ++ writeFraction fraction ++
        'e' :: Number.signedDigits exponent

mutual

/-- The compact text of a value. -/
def write : Json → List Char
  | .null => "null".toList
  | .bool true => "true".toList
  | .bool false => "false".toList
  | .number numeral => writeNumeral numeral
  | .string text => writeString text
  | .array [] => ['[', ']']
  | .array (item :: rest) => '[' :: (write item ++ writeItems rest)
  | .object [] => ['\x7b', '\x7d']
  | .object ((key, value) :: rest) =>
      '\x7b' :: (writeString key ++ ':' :: (write value ++ writeMembers rest))

/-- The items of an array after the first, and the closing bracket. -/
def writeItems : List Json → List Char
  | [] => [']']
  | item :: rest => ',' :: (write item ++ writeItems rest)

/-- The members of an object after the first, and the closing brace. -/
def writeMembers : List (Option String × Json) → List Char
  | [] => ['\x7d']
  | (key, value) :: rest => ',' :: (writeString key ++ ':' :: (write value ++ writeMembers rest))

end

/-- The compact text of a value. -/
def render (json : Json) : String := String.ofList json.write

end TemplateTrace.Json
