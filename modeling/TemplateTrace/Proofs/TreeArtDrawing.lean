import Mathlib.Data.List.Basic
import TemplateTrace.Display.TreeArt

/-!
# Tree art is the recursive drawing

`TreeArt.render` never sees a tree. It goes through a list of nodes and counts, for each depth,
how many nodes are still to come. `drawing` draws the tree itself: every child hands its own
subtree a margin, which is the margin that it was handed and one cell more, a bar if the child
has later siblings and blanks if not. Both hang a label in pieces, and nothing of it is lost that
way (`flatten_labelPieces`).

Without colours the two agree on the list of every tree, `render_nodes`. What the counts have to
say for that is little. While the children of a node are drawn, the count of their depth is the
number of those to come, and the counts of all greater depths are zero
(`linesFrom_forestNodesAt`). When a subtree is done, the counts are what they were after its
root was taken off (`linesFrom_nodesAt`), so the cells of the levels above it are drawn from the
same counts all along: `guides` is the margin that they make.
-/

namespace TemplateTrace.TreeArt

/-! ## Drawing a tree -/

/-- Some lines behind a margin, with a mark in place of the margin on the first. -/
def hang (mark margin : List Char) : List (List Char) → List (List Char)
  | [] => []
  | first :: rest => (mark ++ first) :: rest.map (margin ++ ·)

/-- The cell of a node on its first line, when these siblings come after it. -/
def markCell (later : List CallTree) : List Char :=
  if later.isEmpty then "` ".toList else "+ ".toList

/-- The cell of a node on all lines below its first. -/
def guideCell (later : List CallTree) : List Char :=
  if later.isEmpty then "  ".toList else "| ".toList

mutual

/-- The lines of a tree. Its label hangs behind the mark and the margin, and the margin is
handed on to its children. -/
def drawTree (width depth : Nat) (mark margin : List Char) : CallTree → List (List Char)
  | .node frame children =>
      hang mark margin (labelPieces width { frame, depth, children := children.length }) ++
        drawForest width (depth + 1) margin children

/-- The lines of siblings that are handed a margin. -/
def drawForest (width depth : Nat) (margin : List Char) : List CallTree → List (List Char)
  | [] => []
  | tree :: later =>
      drawTree width depth (margin ++ markCell later) (margin ++ guideCell later) tree ++
        drawForest width depth margin later

end

/-- The drawing of a whole tree, whose root has no margin. -/
def drawing (width : Nat) (tree : CallTree) : List String :=
  (drawTree width 0 [] [] tree).map String.ofList

/-! ## Labels in pieces -/

theorem flatten_chunks {α : Type} (size : Nat) (s : List α) : (chunks size s).flatten = s := by
  fun_induction chunks size s with
  | case1 s h => simp
  | case2 s h ih => rw [List.flatten_cons, ih, List.take_append_drop]

theorem chunks_ne_nil {α : Type} (size : Nat) (s : List α) : chunks size s ≠ [] := by
  rw [chunks]
  split
  · exact List.cons_ne_nil _ _
  · exact List.cons_ne_nil _ _

theorem labelPieces_ne_nil (width : Nat) (node : CallNode) : labelPieces width node ≠ [] := by
  rw [labelPieces]
  split
  · exact chunks_ne_nil _ _
  · exact List.cons_ne_nil _ _

theorem flatten_labelPieces (width : Nat) (node : CallNode) :
    (labelPieces width node).flatten = node.frame.label.toList := by
  rw [labelPieces]
  split
  · exact flatten_chunks _ _
  · exact List.flatten_singleton

/-! ## Cells without colours -/

variable {r s : Remaining} {width depth : Nat} {nodes rest : List CallNode}

theorem forDepth_plain (depth : Nat) : Palette.plain.forDepth depth = "" := by
  unfold Palette.forDepth
  split <;> rfl

theorem paint_plain (depth : Nat) (cell : String) :
    paint .plain depth cell = cell.toList := by
  rw [paint, forDepth_plain]
  exact List.append_nil _

/-- The cells of the levels above a node. -/
def guides (r : Remaining) (depth : Nat) : List Char :=
  (List.range depth).flatMap fun d => guide .plain r (d + 1)

theorem guides_succ : guides r (depth + 1) = guides r depth ++ guide .plain r (depth + 1) := by
  rw [guides, guides, List.range_succ, List.flatMap_append, List.flatMap_singleton]

/-- The cells are made from the counts of the levels down to the node. -/
theorem guides_congr (h : ∀ d ≤ depth, r.count d = s.count d) :
    guides r depth = guides s depth := by
  rw [guides, guides]
  refine List.flatMap_congr fun d hd => ?_
  rw [guide, guide, h (d + 1) (List.mem_range.1 hd)]

theorem ownCell_plain {later : List CallTree} (h : r.count depth = later.length) :
    ownCell .plain r depth true = markCell later ∧
      ownCell .plain r depth false = guideCell later := by
  unfold ownCell markCell guideCell
  rw [h]
  cases later <;> simp [paint_plain]

theorem guide_plain {later : List CallTree} (h : r.count depth = later.length) :
    guide .plain r depth = guideCell later := by
  unfold guide guideCell
  rw [h, paint_plain]
  cases later <;> rfl

theorem nodeLines_eq (palette : Palette) (node : CallNode) :
    nodeLines width palette r node =
      hang (cells palette r node.depth true) (cells palette r node.depth false)
        (labelPieces width node) := by
  rw [nodeLines]
  cases labelPieces width node <;> rfl

/-! ## Lines from counts -/

/-- Only the counts matter. -/
theorem linesFrom_congr (palette : Palette) (h : ∀ d, r.count d = s.count d) :
    linesFrom width palette r nodes = linesFrom width palette s nodes := by
  induction nodes generalizing r s with
  | nil => rfl
  | cons node nodes ih =>
      have hdrop : ∀ d, (r.drop node.depth).count d = (s.drop node.depth).count d := by
        intro d
        rw [Remaining.count_drop, Remaining.count_drop, h]
      have hadd : ∀ d, ((r.drop node.depth).add (node.depth + 1) node.children).count d =
          ((s.drop node.depth).add (node.depth + 1) node.children).count d := by
        intro d
        rw [Remaining.count_add, Remaining.count_add, hdrop]
      have hcells : ∀ isFirst, cells palette (r.drop node.depth) node.depth isFirst =
          cells palette (s.drop node.depth) node.depth isFirst := by
        intro isFirst
        unfold cells
        split
        · rfl
        · simp only [ownCell, guide, hdrop]
      rw [linesFrom, linesFrom, nodeLines_eq, nodeLines_eq, hcells, hcells, ih hadd]

/-- The counts while the children of a node are drawn: the node is taken off its level, and its
children are what is to come one level below. -/
structure Entered (r dropped added : Remaining) (depth : Nat) (later children : List CallTree) :
    Prop where
  own : dropped.count depth = later.length
  others : ∀ d, depth ≠ d → dropped.count d = r.count d
  below : added.count (depth + 1) = children.length
  deeper : ∀ d, depth + 1 < d → added.count d = 0
  left : ∀ d, dropped.count d = if depth + 1 = d then 0 else added.count d

theorem entered (later children : List CallTree)
    (hcount : r.count depth = later.length + 1) (hdeeper : ∀ d, depth < d → r.count d = 0) :
    Entered r (r.drop depth) ((r.drop depth).add (depth + 1) children.length) depth later
      children := by
  have hnext : (r.drop depth).count (depth + 1) = 0 := by
    rw [Remaining.count_drop, if_neg (Nat.ne_of_lt (Nat.lt_succ_self _)),
      hdeeper _ (Nat.lt_succ_self _)]
  refine ⟨?_, fun d hd => ?_, ?_, fun d hd => ?_, fun d => ?_⟩
  · rw [Remaining.count_drop, if_pos rfl, hcount, Nat.add_sub_cancel]
  · rw [Remaining.count_drop, if_neg hd]
  · rw [Remaining.count_add, if_pos rfl, hnext, Nat.zero_add]
  · rw [Remaining.count_add, if_neg (Nat.ne_of_lt hd), Remaining.count_drop,
      if_neg (Nat.ne_of_lt (Nat.lt_of_succ_lt hd)), hdeeper d (Nat.lt_of_succ_lt hd)]
  · rw [Remaining.count_add]
    split
    · next hd => rw [← hd, hnext]
    · rfl

/-- The margin that a node hands to its children. -/
theorem Entered.margin {dropped added : Remaining} {later children : List CallTree}
    (h : Entered r dropped added (depth + 1) later children) :
    guides added (depth + 1) = guides r depth ++ guideCell later := by
  have hadded : ∀ d ≤ depth + 1, added.count d = dropped.count d := fun d hd => by
    rw [h.left, if_neg (by omega)]
  have habove : guides added depth = guides r depth := guides_congr fun d hd =>
    (hadded d (Nat.le_succ_of_le hd)).trans (h.others d (by omega))
  rw [guides_succ, guide_plain ((hadded _ (Nat.le_refl _)).trans h.own), habove]

theorem Entered.cells {dropped added : Remaining} {later children : List CallTree}
    (h : Entered r dropped added (depth + 1) later children) :
    TreeArt.cells .plain dropped (depth + 1) true = guides r depth ++ markCell later ∧
      TreeArt.cells .plain dropped (depth + 1) false = guides r depth ++ guideCell later := by
  obtain ⟨hmark, hguide⟩ := ownCell_plain h.own
  rw [← hmark, ← hguide, guides_congr fun d hd => (h.others d (by omega)).symm]
  exact ⟨rfl, rfl⟩

mutual

/-- A subtree is drawn as the recursion draws it, and leaves the counts as they were when its
root was taken off. -/
theorem linesFrom_nodesAt (tree : CallTree) {r : Remaining} {depth : Nat}
    {later : List CallTree} (hcount : r.count (depth + 1) = later.length + 1)
    (hdeeper : ∀ d, depth + 1 < d → r.count d = 0) (rest : List CallNode) :
    linesFrom width .plain r (tree.nodesAt (depth + 1) ++ rest) =
      drawTree width (depth + 1) (guides r depth ++ markCell later)
          (guides r depth ++ guideCell later) tree ++
        linesFrom width .plain (r.drop (depth + 1)) rest := by
  match tree with
  | .node frame children =>
      have h := entered later children hcount hdeeper
      obtain ⟨hmark, hguide⟩ := h.cells
      have hbelow := linesFrom_forestNodesAt children h.below h.deeper h.left rest
      rw [h.margin] at hbelow
      rw [CallTree.nodesAt, List.cons_append, linesFrom, nodeLines_eq, hmark, hguide, drawTree,
        List.append_assoc, ← hbelow]

/-- Siblings of which all are to come are drawn one after the other, and then their level is
done. -/
theorem linesFrom_forestNodesAt (trees : List CallTree) {r s : Remaining} {depth : Nat}
    (hcount : r.count (depth + 1) = trees.length)
    (hdeeper : ∀ d, depth + 1 < d → r.count d = 0)
    (hs : ∀ d, s.count d = if depth + 1 = d then 0 else r.count d) (rest : List CallNode) :
    linesFrom width .plain r (CallTree.forestNodesAt (depth + 1) trees ++ rest) =
      drawForest width (depth + 1) (guides r depth) trees ++
        linesFrom width .plain s rest := by
  match trees with
  | [] =>
      refine linesFrom_congr .plain fun d => ?_
      rw [hs]
      split
      · next hd => rw [← hd, hcount]; rfl
      · rfl
  | tree :: later =>
      -- the first of the siblings is off the level now, whatever is below it
      have h := entered later [] hcount hdeeper
      have hfirst := linesFrom_nodesAt tree hcount hdeeper
        (CallTree.forestNodesAt (depth + 1) later ++ rest)
      have hothers := linesFrom_forestNodesAt later h.own (s := s)
        (fun d hd => (h.others d (Nat.ne_of_lt hd)).trans (hdeeper d hd)) (fun d => by
          rw [hs]
          split
          · rfl
          · next hd => exact (h.others d hd).symm) rest
      rw [guides_congr fun d hd => h.others d (by omega)] at hothers
      rw [CallTree.forestNodesAt, List.append_assoc, hfirst, hothers, drawForest,
        List.append_assoc]

end

theorem count_start (d : Nat) (hd : 0 < d) : Remaining.start.count d = 0 := by
  rw [Remaining.count, Remaining.start, Array.getD_eq_getD_getElem?,
    Array.getElem?_eq_none (Nat.succ_le_of_lt hd)]
  rfl

/-- Without colours, what is rendered of the nodes of a tree is its drawing. The pieces that the
drawing hangs behind a mark and a margin make up the label, and there is one at least. -/
theorem render_nodes (width : Nat) (tree : CallTree) :
    render width .plain tree.nodes = drawing width tree ∧
      ∀ node : CallNode, labelPieces width node ≠ [] ∧
        (labelPieces width node).flatten = node.frame.label.toList := by
  refine ⟨?_, fun node => ⟨labelPieces_ne_nil width node, flatten_labelPieces width node⟩⟩
  cases tree with
  | node frame children =>
      have h := entered [] children (r := .start) rfl count_start
      rw [render, drawing, CallTree.nodes, CallTree.nodesAt, linesFrom, nodeLines_eq,
        ← List.append_nil (CallTree.forestNodesAt _ _),
        linesFrom_forestNodesAt children h.below h.deeper h.left [], drawTree, linesFrom,
        List.append_nil]
      rfl

example : drawing 14 (.node { name := "r" }
    [.node { name := "label too long" } [.node { name := "b" } []],
      .node { name := "c" } [.node { name := "d" } []]]) =
    ["r", "+ label too lo", "| ng", "| ` b", "` c", "  ` d"] := by cbv

end TemplateTrace.TreeArt
