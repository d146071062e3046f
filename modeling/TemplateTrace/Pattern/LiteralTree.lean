import TemplateTrace.Pattern.Draft

/-!
# Choices between texts

A choice in which every branch is a text becomes a tree over the bytes of the texts. An earlier
branch is preferred to a later one, so the links of a node are kept in stretches: where a text
ends at a node, what later texts add to that node begins a new stretch. Within a stretch, texts
that go on with the same byte share what follows.
-/

namespace TemplateTrace

/-- What texts, given by the bytes that are left of them, add to a node. -/
abbrev Tails := List (List UInt8)

namespace Tails

/-- The stretches of a node. A text that ends where nothing was added yet begins no second
stretch. -/
def stretches (tails : Tails) : List Tails :=
  match tails with
  | [] :: rest => [] :: (rest.dropWhile (·.isEmpty)).splitOnP (·.isEmpty)
  | _ => tails.splitOnP (·.isEmpty)

/-- What is left of the texts behind each of the bytes with which they go on. -/
def next (tails : Tails) : List Tails :=
  let heads := (tails.filterMap (·.head?)).eraseDups
  heads.map fun head => tails.filterMap fun tail =>
    if tail.head? = some head then some tail.tail else none

/-- The bytes for the links of a stretch, which are none where a state has room for them. -/
def linkBytes (links : Nat) : Nat := if links ≤ 1 then 0 else links * Draft.readBytes

/-- What a node adds: a state for each stretch that is not empty, and one that leads to these and,
before each stretch but the first, to the end of the whole tree. -/
def nodePlan (tails : Tails) : Plan :=
  let links := tails.stretches.map fun stretch => stretch.next.length
  let filled := links.filter (0 < ·)
  let jumps := filled.length + links.length - 1
  Draft.grow? (filled.length + 1)
    (filled.foldl (fun bytes count => bytes + linkBytes count) (jumps * Draft.jumpBytes))

/-- The nodes that follow a node. -/
def children (tails : Tails) : List Tails := tails.stretches.flatMap next

/-- What nodes and all that follow them add, level by level, given a bound on the number of
levels. Where all texts end there is no node but the end of the whole tree. -/
def plan : (levels : Nat) → List Tails → Plan
  | levels + 1, nodes, d =>
      match nodes.filter (!·.all (·.isEmpty)) with
      | [] => some d
      | nodes =>
          match nodes.foldlM (fun d tails => tails.nodePlan d) d with
          | none => none
          | some d => plan levels (nodes.flatMap children) d
  | 0, _, d => some d

end Tails

/-- What a choice between texts adds to an automaton. -/
def literalPlan (backward : Bool) (texts : List (List Char)) : Plan :=
  let rows := texts.map fun text => text.flatMap String.utf8EncodeChar
  let tails := if backward then rows.map List.reverse else rows
  (Draft.grow? 1 0).andThen (Tails.plan ((tails.map List.length).foldl max 0 + 1) [tails])

end TemplateTrace
