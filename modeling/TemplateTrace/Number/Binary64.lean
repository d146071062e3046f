/-!
# The binary64 format

A number of the IEEE 754 format binary64, kept as its 64 bits so that two of them are equal
exactly if they are the same number of the format. `Binary64.ofDecimal` gives the number of
the format nearest to a decimal, a tie going to the one with an even significand; all of the
computation is exact arithmetic on natural numbers.
-/

namespace TemplateTrace.Number

/-- The natural number nearest to `num / den`; a tie goes to the even one. -/
def roundHalfEven (num den : Nat) : Nat :=
  let q := num / den
  let r := num % den
  if 2 * r < den then q
  else if den < 2 * r then q + 1
  else if q % 2 = 0 then q else q + 1

/-- The exponent `k` with `2 ^ k ≤ num / den < 2 ^ (k + 1)`, for positive `num` and `den`. -/
def binaryExponent (num den : Nat) : Int :=
  let guess : Int := (num.log2 : Int) - den.log2
  -- The guess is right or one too large.
  let reaches := if 0 ≤ guess then den <<< guess.toNat ≤ num else den ≤ num <<< (-guess).toNat
  if reaches then guess else guess - 1

/-- A number in the format binary64. -/
structure Binary64 where
  bits : UInt64
  deriving DecidableEq, Repr, Inhabited

namespace Binary64

/-- The bit that tells a negative number from a positive one. -/
def signBit : Nat := 1 <<< 63

/-- Bits of the positive infinity, and the least value of the exponent field that is no number. -/
def infinityBits : Nat := 0x7FF <<< 52

/-- The bits of the number nearest to the positive quotient `num / den`. A quotient beyond the
largest finite number, by half a unit or more, gives infinity. -/
def magnitudeBits (num den : Nat) : Nat :=
  -- The unit in the last place is 2 ^ unit; below the normal range it stays at its least value.
  let unit := max (binaryExponent num den - 52) (-1074)
  let n := if 0 ≤ unit then roundHalfEven num (den <<< unit.toNat)
    else roundHalfEven (num <<< (-unit).toNat) den
  -- The hidden bit of a normal number adds the missing one to its exponent field.
  min infinityBits (n + (unit + 1074).toNat <<< 52)

/-- The number with the given sign and magnitude bits. -/
def ofMagnitude (negative : Bool) (magnitude : Nat) : Binary64 :=
  ⟨UInt64.ofNat (magnitude + if negative then signBit else 0)⟩

/-- Positive zero. -/
def zero : Binary64 := ofMagnitude false 0

/-- Infinity with the given sign. -/
def infinity (negative : Bool) : Binary64 := ofMagnitude negative infinityBits

/-- The quiet not-a-number. -/
def nan : Binary64 := ofMagnitude false (infinityBits + 1 <<< 51)

/-- Whether the exponent field is full and the significand is not zero. -/
def isNaN (x : Binary64) : Bool := infinityBits < x.bits.toNat % signBit

/-- The number nearest to `digits * 10 ^ exponent`, with the given sign. An exponent so large
or so small that the result is known without it is not computed with. -/
def ofDecimal (negative : Bool) (digits : Nat) (exponent : Int) : Binary64 :=
  -- digits < 2 ^ (log2 digits + 1) ≤ 10 ^ (log2 digits + 1)
  if digits = 0 then ofMagnitude negative 0
  else if 309 < exponent then infinity negative
  else if exponent + digits.log2 < -400 then ofMagnitude negative 0
  else if 0 ≤ exponent then
    ofMagnitude negative (magnitudeBits (digits * Nat.pow 10 exponent.toNat) 1)
  else ofMagnitude negative (magnitudeBits digits (Nat.pow 10 (-exponent).toNat))

/-- The number of the format nearest to a natural number, where the range of the format does not
matter. -/
def nearestNat (n : Nat) : Nat :=
  let unit := n.log2 - 52
  roundHalfEven n (1 <<< unit) <<< unit

/-- The number nearest to an integer. -/
def ofInt (n : Int) : Binary64 := ofDecimal (n < 0) n.natAbs 0

end Binary64

end TemplateTrace.Number
