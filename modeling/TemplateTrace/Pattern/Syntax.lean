import TemplateTrace.Unicode.CharSet

/-!
# Patterns

What a regular expression asks of a text, with everything about its notation left behind: flags
are worked into the character sets and the assertions, and classes are the sets of their members.

The functions that make patterns keep normal forms, because the size of a pattern, by which it
may be refused, is that of its normal form:

- characters in a row are one text, and a set of one character is a text too;
- rows and choices are chains to the right that hold no row or choice directly;
- a choice between characters, or between sets, is a set;
- a choice between rows that begin alike is a row whose last part is a choice;
- what can only match the empty text is not repeated more than once, and a repetition of no
  copies or of exactly one is not kept as a repetition.
-/

namespace TemplateTrace

/-- Which side of a word, or none, a place has to be at. -/
inductive WordPlace where
  | boundary
  | noBoundary
  | start
  | stop
  /-- No word goes on from before. -/
  | startHalf
  /-- No word goes on after. -/
  | stopHalf
  deriving DecidableEq, Repr, Inhabited

/-- What a place in a text can be asked for. -/
inductive Assertion where
  | textStart
  | textEnd
  /-- The start of a line that line feeds end. -/
  | lineStart
  | lineEnd
  /-- The start of a line that line feeds, carriage returns or the two together end. -/
  | returnLineStart
  | returnLineEnd
  /-- A place beside a word, letters and the like being those of Unicode or of ASCII. -/
  | word (place : WordPlace) (unicode : Bool)
  deriving DecidableEq, Repr, Inhabited

/-- How often something is repeated. -/
structure Copies where
  least : Nat
  /-- The greatest number, if there is one. -/
  greatest : Option Nat
  /-- Whether few copies are preferred. It does not matter for whether there is a match, but
  parts that prefer otherwise are not alike. -/
  prefersFew : Bool
  deriving DecidableEq, Repr, Inhabited

/-- What a text is searched for. -/
inductive Pattern where
  | empty
  /-- Characters in a row, of which there is at least one. -/
  | text (chars : List Char)
  | char (set : Unicode.CharSet)
  | assertion (asked : Assertion)
  | seq (first rest : Pattern)
  | either (first rest : Pattern)
  | repeated (body : Pattern) (copies : Copies)
  /-- A group whose match is of interest to others, with its number. -/
  | captured (index : Nat) (body : Pattern)
  deriving DecidableEq, Repr, Inhabited

namespace Pattern

/-- Whether every match is empty, and there could be one. -/
def isEmptyOnly : Pattern → Bool
  | .empty | .assertion _ => true
  | .text _ | .char _ => false
  | .seq a b | .either a b => a.isEmptyOnly && b.isEmptyOnly
  | .repeated body _ | .captured _ body => body.isEmptyOnly

/-- The parts of a row. -/
def parts : Pattern → List Pattern
  | .empty => []
  | .seq a b => a :: b.parts
  | p => [p]

/-- The branches of a choice. -/
def branches : Pattern → List Pattern
  | .either a b => a :: b.branches
  | p => [p]

/-- A member of a set. -/
def ofSet (set : Unicode.CharSet) : Pattern :=
  match set.theOnly? with
  | some c => .text [c]
  | none => .char set

/-- A part, and a row after it. -/
def join : Pattern → Pattern → Pattern
  | p, .empty => p
  | .text a, .text b => .text (a ++ b)
  | .text a, .seq (.text b) rest => .seq (.text (a ++ b)) rest
  | p, rest => .seq p rest

/-- Patterns one after the other. -/
def concat (patterns : List Pattern) : Pattern := (patterns.flatMap parts).foldr join .empty

/-- The set of the characters that the patterns stand for, if all of them are single characters,
or all of them are sets. -/
def setOf? (patterns : List Pattern) : Option Unicode.CharSet :=
  let single : Pattern → Option (List (Nat × Nat))
    | .text [c] => some [(c.toNat, c.toNat)]
    | _ => none
  let members : Pattern → Option (List (Nat × Nat))
    | .char set => some set.ranges
    | _ => none
  ((patterns.mapM single).or (patterns.mapM members)).map fun ranges => .ofRanges ranges.flatten

/-- One of the patterns, without regard to how they begin. -/
def choice (patterns : List Pattern) : Pattern :=
  let branches := patterns.flatMap branches
  match branches, setOf? branches with
  | [], _ => .char .empty
  | [p], _ => p
  | _, some set => ofSet set
  | p :: rest, none => chain p rest
where
  /-- Branches, the first one apart. -/
  chain : Pattern → List Pattern → Pattern
    | p, [] => p
    | p, q :: rest => .either p (chain q rest)

/-- The elements that two lists begin with alike. -/
def commonStart {α : Type} [DecidableEq α] : List α → List α → List α
  | a :: as, b :: bs => if a = b then a :: commonStart as bs else []
  | _, _ => []

/-- One of the patterns. Rows that begin alike have their beginning taken out; what is left of
them does not begin alike any more. -/
def oneOf (patterns : List Pattern) : Pattern :=
  let plain := choice patterns
  let rows := plain.branches.map parts
  match rows with
  | first :: others =>
      let start := others.foldl commonStart first
      if others.isEmpty || start.isEmpty || rows.any (·.length < 2) then plain
      else concat (start ++ [choice (rows.map fun row => concat (row.drop start.length))])
  | [] => plain

/-- Copies of a pattern. -/
def copies (body : Pattern) (copies : Copies) : Pattern :=
  let copies :=
    if body.isEmptyOnly then
      { copies with
        least := min copies.least 1
        greatest := some (min (copies.greatest.getD 1) 1) }
    else copies
  if copies.least = 0 ∧ copies.greatest = some 0 then .empty
  else if copies.least = 1 ∧ copies.greatest = some 1 then body
  else .repeated body copies

end Pattern

end TemplateTrace
