import TemplateTrace.Proofs.CallTreeReading
import TemplateTrace.Proofs.LabelWrapping

/-!
# Tree art read back

The lines of a call graph say what they were made from, as long as no label is cut. `decode` reads
them without any tree: a line other than the first is cells of two characters, and the first cell
that is a mark is the last one of the margin. What follows it is the label, and may look like tree
art itself.

That is right because of where marks stand. Every level above a node has a guide for its cell, a
bar or blanks, whatever the counts of the nodes to come; only the cell of the node itself is a mark
(`readCells_cells`). The root is the one node without a cell, and it is the first of the list.
-/

namespace TemplateTrace.TreeArt

/-- Reads cells up to the first mark, and returns how many they are with what follows. The marks
are a plus and a backquote. -/
def readCells : List Char → Option (Nat × List Char)
  | '+' :: ' ' :: label => some (1, label)
  | '\x60' :: ' ' :: label => some (1, label)
  | '|' :: ' ' :: rest => (readCells rest).map fun (depth, label) => (depth + 1, label)
  | ' ' :: ' ' :: rest => (readCells rest).map fun (depth, label) => (depth + 1, label)
  | _ => none

/-- Reads a line other than the first, as a depth and a label. -/
def readLine (line : String) : Option (Nat × String) :=
  (readCells line.toList).map fun (depth, label) => (depth, String.ofList label)

/-- Reads the lines of a call graph as the depths and labels of its nodes. -/
def decode : List String → Option (List (Nat × String))
  | [] => some []
  | first :: others => (others.mapM readLine).map ((0, first) :: ·)

/-- The label of a node has one line, since it fits or since it may not be cut. -/
def OnOneLine (width : Nat) (node : CallNode) : Prop :=
  2 * node.depth + node.frame.label.length ≤ width ∨ width ≤ 2 * node.depth + 10

instance (width : Nat) (node : CallNode) : Decidable (OnOneLine width node) :=
  inferInstanceAs (Decidable (_ ∨ _))

variable {width : Nat} {node : CallNode} {nodes : List CallNode} {r : Remaining}
  {tree : CallTree}

/-! ## Labels on one line -/

theorem onOneLine_iff : OnOneLine width node ↔ (labelPieces width node).length = 1 := by
  rw [OnOneLine, labelPieces, leastLabelWidth]
  split
  · next hcut =>
      have hsize : 0 < width - 2 * node.depth := by omega
      have hceil := ceilDiv_le_iff_le_mul hsize (b := node.frame.label.length) (c := 1)
      rw [length_chunks hsize, String.length_toList]
      omega
  · next hwhole =>
      simp only [List.length_singleton, iff_true]
      omega

theorem nodeLines_of_onOneLine (h : OnOneLine width node) :
    nodeLines width .plain r node =
      [cells .plain r node.depth true ++ node.frame.label.toList] := by
  obtain ⟨piece, hpiece⟩ := List.length_eq_one_iff.1 (onOneLine_iff.1 h)
  have hlabel := flatten_labelPieces width node
  rw [hpiece, List.flatten_singleton] at hlabel
  rw [nodeLines, hpiece, hlabel]
  rfl

/-! ## Reading a line -/

theorem readCells_guide (r : Remaining) (depth : Nat) (s : List Char) :
    readCells (guide .plain r depth ++ s) =
      (readCells s).map fun (depth, label) => (depth + 1, label) := by
  rw [guide, paint_plain]
  split
  · rfl
  · rfl

theorem readCells_guides (r : Remaining) (above : Nat) (s : List Char) :
    readCells (guides r above ++ s) =
      (readCells s).map fun (depth, label) => (depth + above, label) := by
  induction above generalizing s with
  | zero =>
      show readCells s = _
      cases readCells s <;> rfl
  | succ above ih =>
      rw [guides_succ, List.append_assoc, ih, readCells_guide, Option.map_map]
      congr 1
      funext p
      simp only [Function.comp_apply, Prod.mk.injEq, and_true]
      omega

/-- Whatever the label is, the mark before it is the first one on the line. -/
theorem readCells_cells (r : Remaining) (depth : Nat) (label : List Char) :
    readCells (cells .plain r (depth + 1) true ++ label) = some (depth + 1, label) := by
  have hown : readCells (ownCell .plain r (depth + 1) true ++ label) = some (1, label) := by
    cases hcount : decide (0 < r.count (depth + 1)) with
    | true =>
        simp only [ownCell, hcount, paint_plain]
        rfl
    | false =>
        simp only [ownCell, hcount, paint_plain]
        rfl
  rw [cells, ← guides, List.append_assoc, readCells_guides, hown, Option.map_some]
  simp only [Option.some.injEq, Prod.mk.injEq, and_true]
  omega

theorem readLine_lines (hdeep : ∀ node ∈ nodes, 1 ≤ node.depth)
    (h : ∀ node ∈ nodes, OnOneLine width node) (r : Remaining) :
    ((linesFrom width .plain r nodes).map String.ofList).mapM readLine =
      some (nodes.map fun node => (node.depth, node.frame.label)) := by
  induction nodes generalizing r with
  | nil => rfl
  | cons node rest ih =>
      obtain ⟨hfirst, hothers⟩ := List.forall_mem_cons.1 h
      obtain ⟨hpos, hbelow⟩ := List.forall_mem_cons.1 hdeep
      obtain ⟨above, habove⟩ : ∃ above, node.depth = above + 1 := ⟨node.depth - 1, by omega⟩
      have hline : ∀ r, readLine (String.ofList
          (cells .plain r node.depth true ++ node.frame.label.toList)) =
          some (node.depth, node.frame.label) := by
        intro r
        rw [readLine, String.toList_ofList, habove, readCells_cells]
        simp
      rw [linesFrom, nodeLines_of_onOneLine hfirst, List.map_append, List.map_singleton,
        List.singleton_append, List.mapM_cons, hline, ih hbelow hothers]
      rfl

theorem decode_lines (h : ∀ node ∈ tree.nodes, OnOneLine width node) :
    decode (render width .plain tree.nodes) =
      some (tree.nodes.map fun node => (node.depth, node.frame.label)) := by
  cases tree with
  | node frame children =>
      rw [CallTree.nodes, CallTree.nodesAt] at h ⊢
      obtain ⟨hroot, hbelow⟩ := List.forall_mem_cons.1 h
      have hothers := readLine_lines (CallTree.le_depth_of_mem_forestNodesAt children 1) hbelow
        ((Remaining.start.drop 0).add 1 children.length)
      rw [render, linesFrom, nodeLines_of_onOneLine hroot, List.map_append, List.map_singleton,
        List.singleton_append, decode, hothers]
      simp [cells]

/-- Without colours, the lines of a tree whose labels stand on one line each are decoded as the
depths and labels of its nodes. So two such trees have the same lines only if they agree in these,
even at different widths. -/
theorem decode_render (width : Nat) (tree : CallTree)
    (h : ∀ node ∈ tree.nodes, OnOneLine width node) :
    decode (render width .plain tree.nodes) =
        some (tree.nodes.map fun node => (node.depth, node.frame.label)) ∧
      ∀ width' (tree' : CallTree), (∀ node ∈ tree'.nodes, OnOneLine width' node) →
        render width' .plain tree'.nodes = render width .plain tree.nodes →
          tree'.nodes.map (fun node => (node.depth, node.frame.label)) =
            tree.nodes.map fun node => (node.depth, node.frame.label) := by
  have hdecode := decode_lines h
  refine ⟨hdecode, ?_⟩
  intro width' tree' h' hlines
  have hdecode' := decode_lines h'
  rw [hlines, hdecode] at hdecode'
  injection hdecode' with hsame
  exact hsame.symm

/-- A tree with labels that look like tree art. -/
def disguised : CallTree :=
  .node { name := "+ r" }
    [.node { name := "| + a" } [.node { name := "` b" } []], .node { name := "" } []]

theorem decode_render_disguised :
    (∀ node ∈ disguised.nodes, OnOneLine 20 node) ∧
      decode (render 20 .plain disguised.nodes) =
        some [(0, "+ r"), (1, "| + a"), (2, "` b"), (1, "")] := by
  have h : ∀ node ∈ disguised.nodes, OnOneLine 20 node := by decide
  exact ⟨h, (decode_render 20 disguised h).1⟩

end TemplateTrace.TreeArt
