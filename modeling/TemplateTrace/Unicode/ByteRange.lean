import TemplateTrace.Unicode.CharSet

/-!
# Characters as ranges of bytes

In UTF-8 a character is a row of one to four bytes, which are the digits of its number to the
base 64 with marks that tell them apart. So the characters of a range are those that are written
with one of some rows of byte ranges: the range is cut where the number of bytes changes, and
then into blocks in which all later bytes run through all their values.
-/

namespace TemplateTrace.Unicode

/-- The bytes from one to another. -/
structure ByteRange where
  first : Nat
  last : Nat
  deriving DecidableEq, Repr, Inhabited

/-- The number of bytes after the first one of a character. -/
def tailBytes (n : Nat) : Nat :=
  if n < 0x80 then 0 else if n < 0x800 then 1 else if n < 0x10000 then 2 else 3

/-- The mark of a first byte that `tail` bytes follow. -/
def leadMark (tail : Nat) : Nat :=
  if tail = 0 then 0 else if tail = 1 then 0xC0 else if tail = 2 then 0xE0 else 0xF0

/-- The bytes after the first one, where all of them are meant. -/
def anyTail : ByteRange := ⟨0x80, 0xBF⟩

/-- The rows of byte ranges for the numbers from one to another, the first byte having the given
mark and `tail` bytes following it. -/
def byteRows : (mark tail low high : Nat) → List (List ByteRange)
  | mark, 0, low, high => [[⟨mark + low, mark + high⟩]]
  | mark, tail + 1, low, high =>
      let block := 1 <<< (6 * (tail + 1))
      let a := low / block
      let b := high / block
      if a = b then
        (byteRows 0x80 tail (low % block) (high % block)).map (⟨mark + a, mark + a⟩ :: ·)
      else
        let isFirstWhole := low % block = 0
        let isLastWhole := high % block = block - 1
        let first := if isFirstWhole then []
          else (byteRows 0x80 tail (low % block) (block - 1)).map (⟨mark + a, mark + a⟩ :: ·)
        let last := if isLastWhole then []
          else (byteRows 0x80 tail 0 (high % block)).map (⟨mark + b, mark + b⟩ :: ·)
        let from' := if isFirstWhole then a else a + 1
        let upTo := if isLastWhole then b + 1 else b
        let middle := if from' < upTo
          then [⟨mark + from', mark + upTo - 1⟩ :: List.replicate (tail + 1) anyTail] else []
        first ++ middle ++ last

/-- The parts of a range in which all characters take the same number of bytes. -/
def sameLengthParts (low high : Nat) : List (Nat × Nat) :=
  [(0, 0x7F), (0x80, 0x7FF), (0x800, 0xD7FF), (0xE000, 0xFFFF), (0x10000, 0x10FFFF)].filterMap
    fun (first, last) =>
      let low := max low first
      let high := min high last
      if low ≤ high then some (low, high) else none

/-- The rows of byte ranges that the members of a set are written with, in ascending order. -/
def CharSet.byteRows (set : CharSet) : List (List ByteRange) :=
  set.ranges.flatMap fun (low, high) =>
    (sameLengthParts low high).flatMap fun (low, high) =>
      Unicode.byteRows (leadMark (tailBytes low)) (tailBytes low) low high

/-- Whether all members of a set are in ASCII. -/
def CharSet.isAscii (set : CharSet) : Bool := set.ranges.all (·.2 < 0x80)

end TemplateTrace.Unicode
