import TemplateTrace.Pattern.Atom

/-!
# Sets of characters in brackets

A set in brackets is a union of characters, ranges, named sets and other sets in brackets, and
may be complemented as a whole. Two such unions may be combined by an intersection, a difference
or a symmetric difference, which group to the left and bind weaker than the union. Where case
is ignored each union is closed under it before it is combined or complemented.

Brackets are read by a machine with a stack of the brackets that are open. Every step takes
characters off, so the length of the text bounds their number.
-/

namespace TemplateTrace.PatternNotation

open Unicode (CharSet)

/-- A set, and how deep its expression is nested. -/
structure NestedSet where
  set : CharSet
  depth : Nat

/-- The parts of a union: the ranges of all of them, their number and the greatest depth. -/
structure SetParts where
  ranges : List (Nat × Nat) := []
  count : Nat := 0
  depth : Nat := 0

namespace SetParts

/-- One more part. -/
def add (parts : SetParts) (part : NestedSet) : SetParts :=
  { ranges := part.set.ranges ++ parts.ranges, count := parts.count + 1,
    depth := max parts.depth part.depth }

/-- One more part, which is no expression of its own. -/
def addRange (parts : SetParts) (low high : Char) : SetParts :=
  parts.add ⟨⟨[(low.toNat, high.toNat)]⟩, 0⟩

/-- The union. One part alone is not nested in a union. -/
def union (parts : SetParts) : NestedSet :=
  ⟨.ofRanges parts.ranges, if parts.count ≤ 1 then parts.depth else parts.depth + 1⟩

end SetParts

/-- The ways to combine two unions. -/
inductive SetOperation where
  | intersection
  | difference
  | symmetricDifference
  deriving DecidableEq, Repr

/-- The combination of two sets. -/
def SetOperation.apply : SetOperation → CharSet → CharSet → CharSet
  | .intersection => CharSet.inter
  | .difference => CharSet.difference
  | .symmetricDifference => CharSet.symmetricDifference

/-- An open bracket. -/
structure OpenBracket where
  negated : Bool
  /-- What waits to be combined with the union that is being read. -/
  left : Option (NestedSet × SetOperation) := none
  parts : SetParts := {}

namespace OpenBracket

/-- What was read since the bracket was opened. -/
def value (flags : PatternFlags) (b : OpenBracket) : NestedSet :=
  let right := b.parts.union
  match b.left with
  | none => right
  | some (left, operation) =>
      ⟨operation.apply (left.set.fold flags) (right.set.fold flags),
        max left.depth right.depth + 1⟩

/-- The bracket after the mark of a combination. -/
def combine (flags : PatternFlags) (b : OpenBracket) (operation : SetOperation) : OpenBracket :=
  { negated := b.negated, left := some (b.value flags, operation) }

/-- The set when the bracket closes. -/
def close? (flags : PatternFlags) (b : OpenBracket) : Option NestedSet := do
  let inner := b.value flags
  return ⟨← (inner.set.fold flags).negateIf? flags b.negated, inner.depth + 1⟩

/-- The bracket with one more part. -/
def add (b : OpenBracket) (part : NestedSet) : OpenBracket := { b with parts := b.parts.add part }

end OpenBracket

/-- Takes the hyphens that stand for themselves at the start of a bracket. -/
def leadingHyphens (flags : PatternFlags) : (bound : Nat) → SetParts → List Char →
    SetParts × List Char
  | bound + 1, parts, '-' :: rest =>
      leadingHyphens flags bound (parts.addRange '-' '-') (skip flags rest)
  | _, parts, s => (parts, s)

/-- Opens a bracket, given what follows it. A closing bracket that comes first stands for
itself. -/
def openBracket (flags : PatternFlags) (s : List Char) : OpenBracket × List Char :=
  let s := skip flags s
  let (negated, s) := match s with
    | '^' :: rest => (true, skip flags rest)
    | _ => (false, s)
  let (parts, s) := leadingHyphens flags s.length {} s
  match s with
  | ']' :: rest =>
      if parts.count = 0 then
        ({ negated, parts := parts.addRange ']' ']' }, skip flags rest)
      else ({ negated, parts }, s)
  | _ => ({ negated, parts }, s)

/-- Reads a named set after its opening bracket, if there is one: the name stands between
colons, and after the first of them may stand the mark of the complement. -/
def colonName? : List Char → Option (Bool × List (Nat × Nat) × List Char)
  | ':' :: s =>
      let (negated, s) := match s with
        | '^' :: rest => (true, rest)
        | _ => (false, s)
      match s.dropWhile (· ≠ ':') with
      | ':' :: ']' :: rest =>
          (Unicode.colonNames.lookup (String.ofList (s.takeWhile (· ≠ ':')))).map
            fun ranges => (negated, ranges, rest)
      | _ => none
  | _ => none

/-- The first character after those that are skipped. Inside a comment the first one that is no
blank ends the search, and where there is none it is the very first. -/
def peek (flags : PatternFlags) (s : List Char) : Option Char :=
  if !flags.spaced then s.head?
  else match s.dropWhile Text.isBlank with
    | [] => s.head?
    | '#' :: comment => (comment.dropWhile Text.isBlank).head?.or s.head?
    | c :: _ => some c

/-- Reads a character or a named set inside brackets. -/
def bracketAtom? (flags : PatternFlags) : List Char → Option (Atom × List Char)
  | [] => none
  | '\\' :: rest => escape? flags rest
  | c :: rest => some (.literal c false, rest)

/-- The character of an atom that can end a range. -/
def rangeEnd? (flags : PatternFlags) : Atom → Option Char
  | .literal c _ => if flags.unicode || c.toNat < 0x80 then some c else none
  | _ => none

/-- The set of an atom. -/
def atomSet? (flags : PatternFlags) : Atom → Option CharSet
  | .chars set => some set
  | atom => (rangeEnd? flags atom).map .single

/-- Reads a character, a range or a named set. A hyphen makes a range unless the bracket or
another hyphen follows it. -/
def bracketPart? (flags : PatternFlags) (s : List Char) : Option (NestedSet × List Char) := do
  let (first, rest) ← bracketAtom? flags s
  match skip flags rest with
  | [] => none
  | '-' :: rest =>
      if peek flags rest = some ']' || peek flags rest = some '-' then
        return (⟨← atomSet? flags first, 0⟩, '-' :: rest)
      else do
        let (second, rest) ← bracketAtom? flags (skip flags rest)
        let low ← rangeEnd? flags first
        let high ← rangeEnd? flags second
        if low ≤ high then return (⟨⟨[(low.toNat, high.toNat)]⟩, 0⟩, rest) else none
  | rest => return (⟨← atomSet? flags first, 0⟩, rest)

/-- Reads up to the end of the outermost bracket. `outer` are the brackets around the innermost
one, the nearest first. -/
def bracketTail? (flags : PatternFlags) :
    (bound : Nat) → OpenBracket → (outer : List OpenBracket) → List Char →
      Option (NestedSet × List Char)
  | 0, _, _, _ => none
  | bound + 1, inner, outer, s =>
      match skip flags s with
      | [] => none
      | ']' :: rest =>
          match inner.close? flags, outer with
          | none, _ => none
          | some set, [] => some (set, rest)
          | some set, b :: outer => bracketTail? flags bound (b.add set) outer rest
      | '[' :: rest =>
          match colonName? rest with
          | some (negated, ranges, rest) =>
              match ((CharSet.ofRanges ranges).fold flags).negateIf? flags negated with
              | none => none
              | some set => bracketTail? flags bound (inner.add ⟨set, 0⟩) outer rest
          | none =>
              let (b, rest) := openBracket flags rest
              bracketTail? flags bound b (inner :: outer) rest
      | '&' :: '&' :: rest =>
          bracketTail? flags bound (inner.combine flags .intersection) outer rest
      | '-' :: '-' :: rest =>
          bracketTail? flags bound (inner.combine flags .difference) outer rest
      | '~' :: '~' :: rest =>
          bracketTail? flags bound (inner.combine flags .symmetricDifference) outer rest
      | s =>
          match bracketPart? flags s with
          | none => none
          | some (part, rest) => bracketTail? flags bound (inner.add part) outer rest

/-- Reads a set in brackets after the first bracket. -/
def bracket? (flags : PatternFlags) (s : List Char) : Option (NestedSet × List Char) :=
  let (b, rest) := openBracket flags s
  bracketTail? flags (rest.length + 1) b [] rest

end TemplateTrace.PatternNotation
