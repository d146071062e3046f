import TemplateTrace.Number.Binary64
import TemplateTrace.Number.Integer

/-!
# Reading decimal fractions

The written form of a number in the format binary64: an optional sign, then digits with an
optional point among or beside them, then an optional exponent. At least one digit is needed
before the exponent, and one in it. The words `inf`, `infinity` and `nan` are read too, in any
case of letters.
-/

namespace TemplateTrace.Number

/-- Splits a sign off. -/
def splitSign : List Char → Bool × List Char
  | '-' :: rest => (true, rest)
  | '+' :: rest => (false, rest)
  | s => (false, s)

/-- Reads what follows the digits: nothing, or a mark `e` and a signed run of digits. -/
def exponent? : List Char → Option Int
  | [] => some 0
  | c :: rest =>
      if c = 'e' || c = 'E' then
        let (negative, digits) := splitSign rest
        (natural? digits).map fun n => if negative then -(n : Int) else n
      else none

/-- Reads digits, an optional point with more digits, and an optional exponent. -/
def unsignedDecimal? (s : List Char) : Option (Nat × Int) :=
  let whole := s.takeWhile isDigit
  let afterWhole := s.dropWhile isDigit
  let (fraction, rest) := match afterWhole with
    | '.' :: tail => (tail.takeWhile isDigit, tail.dropWhile isDigit)
    | _ => ([], afterWhole)
  if whole.isEmpty && fraction.isEmpty then none
  else (exponent? rest).map fun e => (digitsValue (whole ++ fraction), e - fraction.length)

/-- Reads a number in the format binary64. -/
def binary64? (s : List Char) : Option Binary64 :=
  let (negative, magnitude) := splitSign s
  let word := magnitude.map Char.toLower
  if word = "inf".toList || word = "infinity".toList then some (Binary64.infinity negative)
  else if word = "nan".toList then some Binary64.nan
  else (unsignedDecimal? magnitude).map fun (digits, e) => Binary64.ofDecimal negative digits e

end TemplateTrace.Number
