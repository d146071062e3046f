import Std.Data.HashMap
import TemplateTrace.Unicode.ByteRange

/-!
# Automata by size

An automaton over the bytes of UTF-8, of which nothing is kept but its size: the number of its
states, which are numbered in the order in which they are made, and the bytes that their links
take. A plan is what a part of a pattern adds to it, and fails where the automaton would become
too large.

A set of characters becomes a tree of its rows of byte ranges. Trees that are read forward share
nodes with equal links, and trees that are read backward share equal links. What can be shared
is looked up in a table of fixed length, in which an entry takes the place of an earlier one if
both have the same slot. Hence it hangs on the numbers of the states how much is shared, and that
is the reason why states are numbered here at all.
-/

namespace TemplateTrace

/-- An automaton that is being made. -/
structure Draft where
  states : Nat := 0
  /-- The bytes that links take where a state has room for none or only one. -/
  linkBytes : Nat := 0
  deriving DecidableEq, Repr, Inhabited

/-- What is added to an automaton, which fails if it becomes too large. -/
abbrev Plan := Draft → Option Draft

namespace Draft

/-- The size of a state, in bytes. -/
def stateBytes : Nat := 32

/-- The size of a link that leads to a state without reading. -/
def jumpBytes : Nat := 4

/-- The size of a link that reads a byte, where a state has several. -/
def readBytes : Nat := 8

/-- The greatest size that an automaton may have. -/
def maxBytes : Nat := 10 <<< 20

/-- The size of an automaton. -/
def bytes (d : Draft) : Nat := d.states * stateBytes + d.linkBytes

/-- More states, and more bytes for links. -/
def grow? (states linkBytes : Nat) : Plan := fun d =>
  let d := { d with states := d.states + states, linkBytes := d.linkBytes + linkBytes }
  if d.bytes ≤ maxBytes then some d else none

end Draft

namespace Plan

/-- One plan after the other. -/
def andThen (p q : Plan) : Plan := fun d => (p d).bind q

/-- A plan that is followed a number of times. -/
def times (p : Plan) : (count : Nat) → Plan
  | 0, d => some d
  | count + 1, d =>
      match p d with
      | none => none
      | some d => times p count d

end Plan

/-- What was made lately, by what it is made of, in a table with a fixed number of slots. -/
structure Recent where
  slots : Nat
  entries : Std.HashMap Nat (List Nat × Nat) := {}

namespace Recent

/-- A number of 64 bits that is much the same for few keys. -/
def digest (key : List Nat) : UInt64 :=
  key.foldl (fun h n => (h ^^^ UInt64.ofNat n) * 0x100000001B3) 0xCBF29CE484222325

/-- The slot of a key. -/
def slot (r : Recent) (key : List Nat) : Nat := (digest key).toNat % r.slots

/-- The state that was made for a key, if its entry is still there. -/
def get? (r : Recent) (key : List Nat) : Option Nat :=
  match r.entries[r.slot key]? with
  | some (key', state) => if key = key' then some state else none
  | none => none

/-- Enters the state that was made for a key. -/
def insert (r : Recent) (key : List Nat) (state : Nat) : Recent :=
  { r with entries := r.entries.insert (r.slot key) (key, state) }

end Recent

/-- An automaton while the tree of a set is added. -/
structure TreeDraft where
  draft : Draft
  recent : Recent

namespace TreeDraft

/-- A state that is the same for the same key: the one that was made lately, or else a new one,
whose links take the given number of bytes. -/
def state? (key : List Nat) (linkBytes : Nat) (t : TreeDraft) : Option (Nat × TreeDraft) :=
  match t.recent.get? key with
  | some state => some (state, t)
  | none => do
      let draft ← t.draft.grow? 1 linkBytes
      return (t.draft.states, ⟨draft, t.recent.insert key t.draft.states⟩)

/-- Rows grouped by their first range: each range with the rests of its rows. -/
def groups : List (List Unicode.ByteRange) →
    List (Unicode.ByteRange × List (List Unicode.ByteRange))
  | [] => []
  | [] :: rest => groups rest
  | (range :: tail) :: rest =>
      match groups rest with
      | [] => [(range, [tail])]
      | (range', tails) :: more =>
          if range = range' then (range, tail :: tails) :: more
          else (range, [tail]) :: (range', tails) :: more

/-- The node from which rows lead to a target, given how many ranges a row can have. A node is
made after those that it leads to. -/
def node? (target : Nat) : (depth : Nat) → List (List Unicode.ByteRange) →
    TreeDraft → Option (Nat × TreeDraft)
  | depth + 1, (range :: tail) :: rest, t => do
      let links := groups ((range :: tail) :: rest)
      let (key, t) ← links.foldlM (fun (key, t) (range, tails) => do
        let (state, t) ← node? target depth tails t
        return (state :: range.last :: range.first :: key, t)) ([], t)
      t.state? key.reverse (links.length * Draft.readBytes)
  | _, _, t => some (target, t)

/-- The links that read a row backward into a target, each from a state of its own. -/
def chain? (target : Nat) : List Unicode.ByteRange → TreeDraft → Option (Nat × TreeDraft)
  | [], t => some (target, t)
  | range :: rest, t => do
      let (state, t) ← t.state? [target, range.first, range.last] 0
      chain? state rest t

end TreeDraft

/-- The most bytes that a character takes. -/
def maxCharBytes : Nat := 4

/-- The number of slots for nodes of trees that are read forward. -/
def nodeSlots : Nat := 10000

/-- The number of slots for links of trees that are read backward. -/
def linkSlots : Nat := 1000

/-- What a set of characters adds to an automaton that reads forward or backward. -/
def Unicode.CharSet.plan (backward : Bool) (set : CharSet) : Plan :=
  if set.isAscii then Draft.grow? 2 (set.ranges.length * Draft.readBytes)
  else
    let rows := set.byteRows
    if backward then fun d => do
      let draft ← d.grow? 2 (rows.length * Draft.jumpBytes)
      let target := d.states + 1
      let t ← rows.foldlM (fun t row => (TreeDraft.chain? target row t).map (·.2))
        { draft, recent := { slots := linkSlots } }
      return t.draft
    else fun d => do
      let draft ← d.grow? 1 0
      let (_, t) ← TreeDraft.node? d.states maxCharBytes rows
        { draft, recent := { slots := nodeSlots } }
      return t.draft

end TemplateTrace
