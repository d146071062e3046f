/-!
# Sets of characters

A set of characters as the ranges of their numbers, in ascending order, with a character between
any two of them. The ends of a range are numbers of characters; the numbers of surrogates may lie
inside, and since no character has one, the characters on both sides of them are neighbours. So
each set is written in one way only. All operations are made of two: putting ranges in order,
and taking the gaps.
-/

namespace TemplateTrace.Unicode

/-- A set of characters, as ranges of their numbers. -/
structure CharSet where
  ranges : List (Nat × Nat)
  deriving DecidableEq, Repr, Inhabited

namespace CharSet

/-- The greatest number of a character. -/
def last : Nat := 0x10FFFF

/-- The number of the next character. -/
def next (n : Nat) : Nat := if n = 0xD7FF then 0xE000 else n + 1

/-- The number of the character before. -/
def previous (n : Nat) : Nat := if n = 0xE000 then 0xD7FF else n - 1

/-- Merges ranges that touch or overlap, given that they begin in ascending order. -/
def merge : List (Nat × Nat) → List (Nat × Nat)
  | [] => []
  | (low, high) :: rest =>
      match merge rest with
      | [] => [(low, high)]
      | (low', high') :: rest' =>
          if low' ≤ next high then (low, max high high') :: rest'
          else (low, high) :: (low', high') :: rest'

/-- The set of the numbers in some of the given ranges. -/
def ofRanges (ranges : List (Nat × Nat)) : CharSet :=
  ⟨merge (ranges.mergeSort (fun a b => a.1 ≤ b.1))⟩

/-- The empty set. -/
def empty : CharSet := ⟨[]⟩

/-- The set of all characters. -/
def all : CharSet := ⟨[(0, last)]⟩

/-- The set of one character. -/
def single (c : Char) : CharSet := ⟨[(c.toNat, c.toNat)]⟩

/-- The character of a set of one. -/
def theOnly? (set : CharSet) : Option Char :=
  match set.ranges with
  | [(low, high)] => if low = high then some (Char.ofNat low) else none
  | _ => none

/-- Whether a number is in the set. -/
def holds (set : CharSet) (n : Nat) : Bool :=
  set.ranges.any fun (low, high) => low ≤ n && n ≤ high

/-- Whether a character is in the set. -/
def contains (set : CharSet) (c : Char) : Bool := set.holds c.toNat

/-- The gaps between ranges, from a number on. -/
def gaps : (start : Nat) → List (Nat × Nat) → List (Nat × Nat)
  | start, [] => if start ≤ last then [(start, last)] else []
  | start, (low, high) :: rest =>
      if start < low then (start, previous low) :: gaps (next high) rest else gaps (next high) rest

/-- The characters that are not in the set. -/
def complement (set : CharSet) : CharSet := ⟨gaps 0 set.ranges⟩

/-- The characters in one set or the other. -/
def union (a b : CharSet) : CharSet := ofRanges (a.ranges ++ b.ranges)

/-- The characters in both sets. -/
def inter (a b : CharSet) : CharSet := (a.complement.union b.complement).complement

/-- The characters in the first set only. -/
def difference (a b : CharSet) : CharSet := a.inter b.complement

/-- The characters in exactly one of the sets. -/
def symmetricDifference (a b : CharSet) : CharSet := (a.union b).difference (a.inter b)

/-- The value of a hexadecimal number in capitals. -/
def hexNumber (digits : List Char) : Nat :=
  digits.foldl (fun n c => 16 * n + (if c.isDigit then c.toNat - 48 else c.toNat - 55)) 0

/-- The numbers from one to another in steps, each as a range of its own. -/
def stepRanges (low high step : Nat) : List (Nat × Nat) :=
  (List.range ((high - low) / step + 1)).map fun i => (low + i * step, low + i * step)

/-- Reads an entry of a table: a number, a range, or the numbers from one to another in steps of
a third, such as `AC00-D788/1C`. -/
def rangesOfText (entry : List Char) : List (Nat × Nat) :=
  match (entry.splitOn '/').map (List.splitOn '-') with
  | [[low, high]] => [(hexNumber low, hexNumber high)]
  | [[low, high], [step]] => stepRanges (hexNumber low) (hexNumber high) (hexNumber step)
  | _ => [(hexNumber entry, hexNumber entry)]

/-- Reads the rows of a table, such as `41-5A AA`. -/
def ofRows (rows : List String) : CharSet :=
  .ofRanges <| (rows.flatMap fun row => row.toList.splitOn ' ').flatMap rangesOfText

end CharSet

end TemplateTrace.Unicode
