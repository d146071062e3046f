/-!
# Reading integers

An integer is written as an optional sign and at least one ASCII digit, with nothing around
them: no blanks, no separators, no digits of other scripts. A minus sign is refused where
only natural numbers are meant, even before a zero. A value outside the range of its type is
refused like any other text that is no number.
-/

namespace TemplateTrace.Number

/-- An ASCII digit. -/
def isDigit (c : Char) : Bool := '0' ≤ c && c ≤ '9'

/-- The value of an ASCII digit. -/
def digitValue (c : Char) : Nat := c.toNat - '0'.toNat

/-- The digit that a character is. -/
def digit (c : Char) : Fin 10 := ⟨digitValue c % 10, Nat.mod_lt _ (by decide)⟩

/-- The value of a run of decimal digits. -/
def digitsValue (s : List Char) : Nat := s.foldl (fun n c => 10 * n + digitValue c) 0

/-- Reads a non-empty run of digits. -/
def natural? (s : List Char) : Option Nat :=
  if !s.isEmpty && s.all isDigit then some (digitsValue s) else none

/-- Reads a natural number below `bound`, with an optional plus sign. -/
def unsigned? (bound : Nat) (s : List Char) : Option Nat :=
  let digits := match s with
    | '+' :: rest => rest
    | _ => s
  (natural? digits).filter (· < bound)

/-- Reads an integer from `-bound` to `bound - 1`, with an optional sign. -/
def signed? (bound : Nat) (s : List Char) : Option Int :=
  match s with
  | '-' :: rest => ((natural? rest).filter (· ≤ bound)).map (fun n => -(n : Int))
  | '+' :: rest => ((natural? rest).filter (· < bound)).map Int.ofNat
  | _ => ((natural? s).filter (· < bound)).map Int.ofNat

/-- The digits of a natural number. -/
def digits (n : Nat) : List Char := Nat.toDigits 10 n

/-- The written form of an integer. -/
def signedDigits (n : Int) : List Char :=
  if n < 0 then '-' :: digits n.natAbs else digits n.natAbs

/-- The text of a natural number. -/
def text (n : Nat) : String := String.ofList (digits n)

/-- The text of an integer. -/
def signedText (n : Int) : String := String.ofList (signedDigits n)

/-- Counts are the natural numbers below this one, which is 2^64. -/
def countBound : Nat := 0x10000000000000000

/-- The least number that 32 bits with a sign cannot hold. -/
def int32Bound : Nat := 0x80000000

/-- The least number that 64 bits with a sign cannot hold. -/
def int64Bound : Nat := 0x8000000000000000

/-- Reads a count. -/
def count? (s : List Char) : Option Nat := unsigned? countBound s

/-- Reads a 32-bit signed integer. -/
def int32? (s : List Char) : Option Int32 := (signed? int32Bound s).map Int32.ofInt

/-- Reads a 64-bit signed integer. -/
def int64? (s : List Char) : Option Int := signed? int64Bound s

end TemplateTrace.Number
