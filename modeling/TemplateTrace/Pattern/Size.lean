import TemplateTrace.Pattern.LiteralTree
import TemplateTrace.Pattern.Syntax

/-!
# The size of a pattern

A pattern is refused if an automaton for it would take too much memory, so that a short
expression such as `(a{1000}){1000}` cannot exhaust the machine. Two automata count: one that
reads a text forward and knows where groups match, and one that reads it backward and does not.
A repetition with a greatest number is as many copies as it allows.
-/

namespace TemplateTrace

namespace Pattern

/-- The least number of characters in a match. There is none if there is no match, as far as
that can be told without looking at repetitions. -/
def shortest? : Pattern → Option Nat
  | .empty | .assertion _ => some 0
  | .text chars => some chars.length
  | .char set => if set.ranges.isEmpty then none else some 1
  | .seq a b => do return (← a.shortest?) + (← b.shortest?)
  | .either a b => do return min (← a.shortest?) (← b.shortest?)
  | .repeated body copies => body.shortest?.map (copies.least * ·)
  | .captured _ body => body.shortest?

/-- Whether every match takes at least one character, and there could be one. -/
def needsChar (p : Pattern) : Bool := p.shortest?.any (0 < ·)

/-- Whether every match is at the start of the text, as far as the pattern begins with that. -/
def beginsAtStart : Pattern → Bool
  | .assertion asked => asked = .textStart
  | .seq a b => a.beginsAtStart || (a.isEmptyOnly && b.beginsAtStart)
  | .either a b => a.beginsAtStart && b.beginsAtStart
  | .repeated body copies => 0 < copies.least && body.beginsAtStart
  | .captured _ body => body.beginsAtStart
  | _ => false

/-- Whether every match is at the end of the text, as far as the pattern ends with that. -/
def stopsAtEnd : Pattern → Bool
  | .assertion asked => asked = .textEnd
  | .seq a b => b.stopsAtEnd || (b.isEmptyOnly && a.stopsAtEnd)
  | .either a b => a.stopsAtEnd && b.stopsAtEnd
  | .repeated body copies => 0 < copies.least && body.stopsAtEnd
  | .captured _ body => body.stopsAtEnd
  | _ => false

end Pattern

namespace Plan

/-- A state without links. -/
def state : Plan := Draft.grow? 1 0

/-- A state that leads to two others. -/
def fork : Plan := Draft.grow? 1 (2 * Draft.jumpBytes)

/-- Exactly so many copies. -/
def exactly (p : Plan) (count : Nat) : Plan := if count = 0 then state else p.times count

/-- Copies of something. What may be empty is repeated without end by way of two forks, so that
an empty copy ends the repetition. -/
def copies (p : Plan) (needsChar : Bool) (c : Copies) : Plan :=
  match c.greatest with
  | none =>
      if 0 < c.least then (p.times c.least).andThen fork
      else if needsChar then fork.andThen p
      else (p.andThen fork).andThen (fork.andThen state)
  | some greatest =>
      if c.least = 0 ∧ greatest = 1 then (fork.andThen p).andThen state
      else if c.least < greatest then
        ((p.exactly c.least).andThen state).andThen ((fork.andThen p).times (greatest - c.least))
      else p.exactly c.least

/-- A choice between branches. The state that leads to them and the one where they meet are made
after the second branch. -/
def choice : List Plan → Plan
  | [] => some
  | [p] => p
  | p :: q :: rest =>
      rest.foldl andThen
        ((p.andThen q).andThen (Draft.grow? 2 ((rest.length + 2) * Draft.jumpBytes)))

end Plan

namespace Pattern

/-- The texts of the branches, if all branches are texts. -/
def texts? (branches : List Pattern) : Option (List (List Char)) :=
  branches.mapM fun
    | .text chars => some chars
    | _ => none

/-- What a pattern adds to an automaton, given what its branches add. -/
def planOf (backward : Bool) (p : Pattern) (branches : List Plan) : Plan :=
  match p.branches with
  | first :: second :: rest =>
      match texts? (first :: second :: rest) with
      | some texts => literalPlan backward texts
      | none => .choice branches
  | _ => .choice branches

/-- What the branches of a pattern add to an automaton. -/
def branchPlans (backward : Bool) : Pattern → List Plan
  | .either a b => a.branchPlans backward ++ b.branchPlans backward
  | .empty | .assertion _ => [.state]
  | .text chars => [Draft.grow? (chars.map Char.utf8Size).sum 0]
  | .char set => [set.plan backward]
  | .seq a b =>
      let first := planOf backward a (a.branchPlans backward)
      let second := planOf backward b (b.branchPlans backward)
      [if backward then second.andThen first else first.andThen second]
  | .repeated body copies =>
      [(planOf backward body (body.branchPlans backward)).copies body.needsChar copies]
  | .captured _ body =>
      let inner := planOf backward body (body.branchPlans backward)
      [if backward then inner else (Plan.state.andThen inner).andThen .state]

/-- The automaton for a pattern that is looked for anywhere, and whose whole match is a group. A
pattern that can only be at one end of a text needs nothing that goes over what is before. -/
def automaton? (backward : Bool) (p : Pattern) : Option Draft :=
  let isFixed := if backward then p.stopsAtEnd else p.beginsAtStart
  let lead : Plan := if isFixed then .state
    else Draft.grow? 3 (Draft.readBytes + 2 * Draft.jumpBytes)
  let whole : Pattern := .captured 0 p
  let body := planOf backward whole (whole.branchPlans backward)
  (lead.andThen (body.andThen .state)) {}

/-- Whether a pattern is not too large. -/
def isModest (p : Pattern) : Bool := (p.automaton? false).isSome && (p.automaton? true).isSome

end Pattern

end TemplateTrace
