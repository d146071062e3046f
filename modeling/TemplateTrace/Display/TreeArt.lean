import TemplateTrace.CallNode
import TemplateTrace.Display.Palette

/-!
# Tree art

A call graph drawn with characters, one node after the other:

    fib<3>::value
    + fib<2> (TemplateInstantiation)
    | + fib<1> (TemplateInstantiation)
    | ` fib<0> (TemplateInstantiation)
    ` fib<1> (Memoization)

Every level above a node takes a cell of two characters: a bar while that level has nodes to
come, and blanks after its last one. The cell of the node itself is a plus, or a backquote if it
is the last of its level. A label that does not fit is cut, and its other lines repeat the cells
with a bar or blanks in place of the mark.

The list of nodes is all that is looked at: how many nodes are still to come at each depth is
counted while it is drawn.
-/

namespace TemplateTrace.TreeArt

/-- How many nodes are still to come at each depth. -/
structure Remaining where
  counts : Array Nat
  deriving DecidableEq, Repr, Inhabited

namespace Remaining

/-- Only the root is to come. -/
def start : Remaining := ⟨#[1]⟩

/-- The number of nodes to come at a depth. -/
def count (r : Remaining) (depth : Nat) : Nat := r.counts.getD depth 0

/-- One node of a depth has come. -/
def drop (r : Remaining) (depth : Nat) : Remaining :=
  ⟨r.counts.modify depth (· - 1)⟩

/-- So many more nodes are to come at a depth. -/
def add (r : Remaining) (depth n : Nat) : Remaining :=
  ⟨(r.counts ++ Array.replicate (depth + 1 - r.counts.size) 0).modify depth (· + n)⟩

theorem count_drop (r : Remaining) (d e : Nat) :
    (r.drop d).count e = if d = e then r.count e - 1 else r.count e := by
  simp only [count, drop, Array.getD_eq_getD_getElem?, Array.getElem?_modify]
  split
  · cases r.counts[e]? <;> simp
  · rfl

theorem count_add (r : Remaining) (d e n : Nat) :
    (r.add d n).count e = if d = e then r.count e + n else r.count e := by
  simp only [count, add, Array.getD_eq_getD_getElem?, Array.getElem?_modify,
    Array.getElem?_append, Array.getElem?_replicate]
  by_cases h : e < r.counts.size
  · simp only [h, ↓reduceIte, Array.getElem?_eq_getElem]
    split <;> simp
  · have out : r.counts[e]? = none := by simp; omega
    simp only [h, ↓reduceIte, out, Option.getD_none]
    by_cases hd : d = e
    · subst hd
      have inside : d - r.counts.size < d + 1 - r.counts.size := by omega
      simp [inside]
    · simp only [hd, ↓reduceIte]
      split <;> rfl

end Remaining

/-- Fewer columns than this are too few to cut a label. -/
def leastLabelWidth : Nat := 10

/-- A cell in the colour of its depth. -/
def paint (palette : Palette) (depth : Nat) (cell : String) : List Char :=
  (palette.forDepth depth).toList ++ cell.toList ++ palette.reset.toList

/-- The cell of a level above a node. -/
def guide (palette : Palette) (remaining : Remaining) (depth : Nat) : List Char :=
  paint palette depth (if 0 < remaining.count depth then "| " else "  ")

/-- The cell of a node itself: its mark on the first line, a guide on the others. -/
def ownCell (palette : Palette) (remaining : Remaining) (depth : Nat) (isFirst : Bool) :
    List Char :=
  match isFirst, decide (0 < remaining.count depth) with
  | true, true => paint palette depth "+ "
  | true, false => paint palette depth "` "
  | false, true => paint palette depth "| "
  | false, false => [' ', ' ']

/-- All cells of a line. The root has none. -/
def cells (palette : Palette) (remaining : Remaining) (depth : Nat) (isFirst : Bool) :
    List Char :=
  match depth with
  | 0 => []
  | above + 1 =>
      (List.range above).flatMap (fun d => guide palette remaining (d + 1)) ++
        ownCell palette remaining (above + 1) isFirst

/-- Cuts a list into pieces of the given size, the last one being what is left. -/
def chunks {α : Type} (size : Nat) (s : List α) : List (List α) :=
  if s.length ≤ size ∨ size = 0 then [s] else s.take size :: chunks size (s.drop size)
termination_by s.length
decreasing_by simp; omega

/-- The pieces of the label of a node. -/
def labelPieces (width : Nat) (node : CallNode) : List (List Char) :=
  let label := node.frame.label.toList
  let margin := 2 * node.depth
  if margin + leastLabelWidth < width then chunks (width - margin) label else [label]

/-- The lines of a node. -/
def nodeLines (width : Nat) (palette : Palette) (remaining : Remaining) (node : CallNode) :
    List (List Char) :=
  match labelPieces width node with
  | [] => []
  | first :: rest =>
      (cells palette remaining node.depth true ++ first) ::
        rest.map (cells palette remaining node.depth false ++ ·)

/-- The lines of nodes of which so many are to come at each depth. -/
def linesFrom (width : Nat) (palette : Palette) : Remaining → List CallNode → List (List Char)
  | _, [] => []
  | remaining, node :: rest =>
      let remaining := remaining.drop node.depth
      nodeLines width palette remaining node ++
        linesFrom width palette (remaining.add (node.depth + 1) node.children) rest

/-- The lines of a call graph, for a given width. -/
def render (width : Nat) (palette : Palette) (nodes : List CallNode) : List String :=
  (linesFrom width palette .start nodes).map String.ofList

end TemplateTrace.TreeArt
