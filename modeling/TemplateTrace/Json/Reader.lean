import TemplateTrace.Json.Value
import TemplateTrace.Number.Integer

/-!
# Reading JSON

A reader for JSON text, by recursive descent over the characters. Each part returns what it
read and the rest of the text, or nothing if the text breaks the grammar. The parts that call
each other take a bound on the number of calls; `Json.read?` gives one that no text can use up,
since every call takes at least one character off.
-/

namespace TemplateTrace.Json

/-- The blanks of JSON. -/
def isSpace (c : Char) : Bool := c = ' ' || c = '\n' || c = '\r' || c = '\t'

/-- The text without its leading blanks. -/
def skipSpace (s : List Char) : List Char := s.dropWhile isSpace

/-- Takes an expected beginning off. -/
def expect? (expected s : List Char) : Option (List Char) :=
  if s.take expected.length = expected then some (s.drop expected.length) else none

/-- The value of a hexadecimal digit. -/
def hexValue? (c : Char) : Option Nat :=
  if Number.isDigit c then some (Number.digitValue c)
  else if 'a' ≤ c && c ≤ 'f' then some (c.toNat - 'a'.toNat + 10)
  else if 'A' ≤ c && c ≤ 'F' then some (c.toNat - 'A'.toNat + 10)
  else none

/-- What one part of a string token stands for: a character, or a number of 16 bits that is a
character only together with its neighbour. -/
inductive Symbol where
  | char (c : Char)
  | unit (code : Nat)
  deriving DecidableEq, Repr

/-- The character of a short escape. -/
def shortEscape? : Char → Option Char
  | '"' => some '"'
  | '\\' => some '\\'
  | '/' => some '/'
  | 'b' => some '\x08'
  | 'f' => some '\x0c'
  | 'n' => some '\n'
  | 'r' => some '\r'
  | 't' => some '\t'
  | _ => none

/-- The symbols up to the closing quote. -/
def symbols? : List Char → Option (List Symbol × List Char)
  | [] => none
  | '"' :: rest => some ([], rest)
  | '\\' :: 'u' :: a :: b :: c :: d :: rest => do
      let a ← hexValue? a
      let b ← hexValue? b
      let c ← hexValue? c
      let d ← hexValue? d
      let (symbols, rest) ← symbols? rest
      return (.unit (((a * 16 + b) * 16 + c) * 16 + d) :: symbols, rest)
  | '\\' :: c :: rest => do
      let c ← shortEscape? c
      let (symbols, rest) ← symbols? rest
      return (.char c :: symbols, rest)
  | c :: rest =>
      if c.toNat < 0x20 || c = '\\' then none
      else do
        let (symbols, rest) ← symbols? rest
        return (.char c :: symbols, rest)

/-- The first half of a surrogate pair. -/
def isHighSurrogate (code : Nat) : Bool := 0xD800 ≤ code && code < 0xDC00

/-- The second half of a surrogate pair. -/
def isLowSurrogate (code : Nat) : Bool := 0xDC00 ≤ code && code < 0xE000

/-- The text that symbols spell, if no half of a surrogate pair stands alone. -/
def spell? : List Symbol → Option (List Char)
  | [] => some []
  | .char c :: rest => (spell? rest).map (c :: ·)
  | .unit high :: .unit low :: rest =>
      if isHighSurrogate high then
        if isLowSurrogate low then
          (spell? rest).map
            (Char.ofNat (0x10000 + (high - 0xD800) * 0x400 + (low - 0xDC00)) :: ·)
        else none
      else if isLowSurrogate high then none
      else (spell? (.unit low :: rest)).map (Char.ofNat high :: ·)
  | .unit code :: rest =>
      if isHighSurrogate code || isLowSurrogate code then none
      else (spell? rest).map (Char.ofNat code :: ·)

/-- Reads a string token after its opening quote. -/
def stringTail? (s : List Char) : Option (Option String × List Char) :=
  (symbols? s).map fun (symbols, rest) => ((spell? symbols).map String.ofList, rest)

/-- Splits a run of digits off. -/
def splitDigits (s : List Char) : List Char × List Char :=
  (s.takeWhile Number.isDigit, s.dropWhile Number.isDigit)

/-- Reads an exponent after its mark. -/
def exponentTail? (s : List Char) : Option (Int × List Char) :=
  let (negative, s) := match s with
    | '-' :: rest => (true, rest)
    | '+' :: rest => (false, rest)
    | _ => (false, s)
  match splitDigits s with
  | ([], _) => none
  | (digits, rest) =>
      let n : Int := Number.digitsValue digits
      some (if negative then -n else n, rest)

/-- Reads an optional exponent. -/
def exponent? : List Char → Option (Option Int × List Char)
  | 'e' :: rest | 'E' :: rest => (exponentTail? rest).map fun (e, rest) => (some e, rest)
  | s => some (none, s)

/-- Reads an optional fraction: the digits after a point. -/
def fraction? : List Char → Option (List (Fin 10) × List Char)
  | '.' :: rest => match splitDigits rest with
    | ([], _) => none
    | (digits, rest) => some (digits.map Number.digit, rest)
  | s => some ([], s)

/-- Reads a number after its sign. A zero is followed by no digit. -/
def unsignedNumeral? (negative : Bool) (s : List Char) : Option (Numeral × List Char) := do
  let (whole, rest) ← match s with
    | '0' :: rest => some (['0'], rest)
    | _ => match splitDigits s with
      | ([], _) => none
      | (digits, rest) => some (digits, rest)
  let (fraction, rest) ← fraction? rest
  let (exponent, rest) ← exponent? rest
  if fraction.isEmpty && exponent.isNone then
    return (.integer negative (Number.digitsValue whole), rest)
  else
    return (.scaled negative (Number.digitsValue whole) fraction (exponent.getD 0), rest)

/-- Reads a number. -/
def numeral? : List Char → Option (Numeral × List Char)
  | '-' :: rest => unsignedNumeral? true rest
  | s => unsignedNumeral? false s

/-- Reads a key and the colon after it. -/
def key? (s : List Char) : Option (Option String × List Char) :=
  match skipSpace s with
  | '"' :: rest => do
      let (key, rest) ← stringTail? rest
      match skipSpace rest with
      | ':' :: rest => return (key, rest)
      | _ => none
  | _ => none

mutual

/-- Reads a value. -/
def value? : Nat → List Char → Option (Json × List Char)
  | 0, _ => none
  | bound + 1, s => match skipSpace s with
    | 'n' :: rest => (expect? "ull".toList rest).map (Json.null, ·)
    | 't' :: rest => (expect? "rue".toList rest).map (Json.bool true, ·)
    | 'f' :: rest => (expect? "alse".toList rest).map (Json.bool false, ·)
    | '"' :: rest => (stringTail? rest).map fun (text, rest) => (Json.string text, rest)
    | '[' :: rest => match skipSpace rest with
      | ']' :: rest => some (Json.array [], rest)
      | _ => (items? bound rest).map fun (items, rest) => (Json.array items, rest)
    | '\x7b' :: rest => match skipSpace rest with
      | '\x7d' :: rest => some (Json.object [], rest)
      | _ => (members? bound rest).map fun (members, rest) => (Json.object members, rest)
    | rest => (numeral? rest).map fun (numeral, rest) => (Json.number numeral, rest)

/-- Reads the items of an array, at least one, and the closing bracket. -/
def items? : Nat → List Char → Option (List Json × List Char)
  | 0, _ => none
  | bound + 1, s => match value? bound s with
    | none => none
    | some (item, rest) => match skipSpace rest with
      | ',' :: rest => (items? bound rest).map fun (items, rest) => (item :: items, rest)
      | ']' :: rest => some ([item], rest)
      | _ => none

/-- Reads the members of an object, at least one, and the closing brace. -/
def members? : Nat → List Char → Option (List (Option String × Json) × List Char)
  | 0, _ => none
  | bound + 1, s => match key? s with
    | none => none
    | some (key, rest) => match value? bound rest with
      | none => none
      | some (value, rest) => match skipSpace rest with
        | ',' :: rest => (members? bound rest).map fun (members, rest) =>
            ((key, value) :: members, rest)
        | '\x7d' :: rest => some ([(key, value)], rest)
        | _ => none

end

/-- Reads a text that is one value, with blanks around it. Between two nested calls that take
no character there is at least one that does. -/
def read? (text : String) : Option Json := do
  let s := text.toList
  let (json, rest) ← value? (2 * s.length + 2) s
  if (skipSpace rest).isEmpty then return json else none

end TemplateTrace.Json
