import TemplateTrace.Json.Value
import TemplateTrace.Number.Binary64
import TemplateTrace.Number.Integer

/-!
# The range of numbers

A number is taken into the format binary64 on a short way: as many of its digits as fit make a
whole number of 64 bits, the power of ten that is missing is rounded to the format, and so are
the whole number and then the product of both. Each step may be off by half a unit, so near the
end of the range a number can be refused although it is finite in the format, or the other way
round. What the digits that do not fit say is lost, except that those before the point count.
-/

namespace TemplateTrace

namespace Numeral

/-- Appends digits to a number as long as it stays below 2^64, and returns it with the digits
that are left. -/
def appendFitting (n : Nat) : List (Fin 10) → Nat × List (Fin 10)
  | [] => (n, [])
  | digit :: rest =>
      let longer := 10 * n + digit
      if longer < Number.countBound then appendFitting longer rest else (n, digit :: rest)

/-- The greatest power of ten in the format binary64. -/
def greatestPower : Nat := 308

/-- Whether a number below 2^64, times a power of ten, is in the range. -/
def reaches (n : Nat) (exponent : Int) : Bool :=
  if n = 0 || exponent < 0 then true
  else if greatestPower < exponent then false
  else
    let product := Number.Binary64.nearestNat n *
      Number.Binary64.nearestNat (Nat.pow 10 exponent.toNat)
    Number.Binary64.magnitudeBits product 1 < Number.Binary64.infinityBits

/-- Whether a number given by its parts is in the range. -/
def partsReach (whole : Nat) (fraction : List (Fin 10)) (exponent : Int) : Bool :=
  let (n, left) := appendFitting 0 ((Number.digits whole).map Number.digit)
  let (n, leftBehind) := appendFitting n fraction
  reaches n (exponent + left.length - (fraction.length - leftBehind.length : Nat))

/-- Whether a number is in the range. -/
def isInRange : Numeral → Bool
  | .integer _ magnitude => partsReach magnitude [] 0
  | .scaled _ whole fraction exponent => partsReach whole fraction exponent

end Numeral

end TemplateTrace
