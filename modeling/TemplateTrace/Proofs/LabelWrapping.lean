import Mathlib.Algebra.Order.Floor.Div
import Mathlib.Data.Nat.PSub
import TemplateTrace.Proofs.TreeArtDrawing

/-!
# Cut labels

A label that is too wide for its line is cut, and nothing of it is lost: what stands behind the
tree art of a node's lines is the label again. Which labels are cut, into how many lines, and how
wide these are depends on the width and on the depth of the node alone (`Wraps`); the counts of
the nodes to come only choose among cells, and every cell is two columns wide (`isArt_cells`).

The test for cutting takes the least width of a label from the width of the line, and cutting takes
the margin. Neither difference is there for every line. `labelPieces?` is the same computation with
differences that may not exist and with no answer for pieces of size zero. Since the first test
guards the first difference and the second test the other, it always has an answer, and that is
`labelPieces` (`labelPieces?_eq`).
-/

namespace TemplateTrace.TreeArt

variable {α : Type} {size width depth : Nat} {s : List α} {node : CallNode} {r : Remaining}

/-! ## Cutting a list -/

theorem length_chunks (hsize : 0 < size) (s : List α) :
    (chunks size s).length = max 1 (s.length ⌈/⌉ size) := by
  fun_induction chunks size s with
  | case1 s h =>
      have hle : s.length ≤ size := by omega
      have : s.length ⌈/⌉ size ≤ 1 := (ceilDiv_le_iff_le_mul hsize).2 (by omega)
      rw [List.length_singleton]
      omega
  | case2 s h ih =>
      have hlong : size < s.length := by omega
      have hceil : s.length ⌈/⌉ size = (s.length - size) ⌈/⌉ size + 1 := by
        rw [Nat.ceilDiv_eq_add_pred_div, Nat.ceilDiv_eq_add_pred_div,
          ← Nat.add_div_right _ hsize]
        congr 1
        omega
      have hpos : 1 ≤ (s.length - size) ⌈/⌉ size := by
        rw [Nat.one_le_iff_ne_zero, Ne, ← Nat.le_zero, ceilDiv_le_iff_le_mul hsize]
        omega
      rw [List.length_cons, ih, List.length_drop, hceil]
      omega

theorem length_le_of_mem_chunks (hsize : 0 < size) {piece : List α}
    (h : piece ∈ chunks size s) : piece.length ≤ size := by
  fun_induction chunks size s with
  | case1 s hshort =>
      rw [List.mem_singleton.1 h]
      omega
  | case2 s hlong ih =>
      rcases List.mem_cons.1 h with rfl | hlater
      · exact List.length_take_le _ _
      · exact ih hlater

theorem length_of_mem_dropLast_chunks {piece : List α}
    (h : piece ∈ (chunks size s).dropLast) : piece.length = size := by
  fun_induction chunks size s with
  | case1 s hshort => simp at h
  | case2 s hlong ih =>
      have hne : chunks size (s.drop size) ≠ [] := by
        rw [chunks]
        split <;> simp
      rw [List.dropLast_cons_of_ne_nil hne] at h
      rcases List.mem_cons.1 h with rfl | hlater
      · rw [List.length_take]
        omega
      · exact ih hlater

/-! ## The pieces of a label -/

/-- The pieces of a label, computed with differences that have to exist. -/
def labelPieces? (width : Nat) (node : CallNode) : Option (List (List Char)) := do
  let label := node.frame.label.toList
  let margin := 2 * node.depth
  if width < leastLabelWidth then return [label]
  if (← width.psub leastLabelWidth) ≤ margin then return [label]
  match ← width.psub margin with
  | 0 => none
  | size + 1 => return chunks (size + 1) label

theorem labelPieces?_eq (width : Nat) (node : CallNode) :
    labelPieces? width node = some (labelPieces width node) := by
  unfold labelPieces? labelPieces
  by_cases hnarrow : width < leastLabelWidth
  · have hwhole : ¬ 2 * node.depth + leastLabelWidth < width := by omega
    simp [hnarrow, hwhole]
  · have hroom : width.psub leastLabelWidth = some (width - leastLabelWidth) :=
      Nat.psub_eq_sub (by omega)
    by_cases hdeep : width - leastLabelWidth ≤ 2 * node.depth
    · have hwhole : ¬ 2 * node.depth + leastLabelWidth < width := by omega
      simp [hnarrow, hroom, hdeep, hwhole]
    · have hcut : 2 * node.depth + leastLabelWidth < width := by omega
      obtain ⟨size, hsize⟩ : ∃ size, width - 2 * node.depth = size + 1 :=
        ⟨width - 2 * node.depth - 1, by omega⟩
      have hleft : width.psub (2 * node.depth) = some (size + 1) := by
        rw [Nat.psub_eq_sub (by omega), hsize]
      simp [hnarrow, hroom, hdeep, hcut, hleft, hsize]

/-! ## Lines behind tree art -/

def cellTexts : List String := ["| ", "  ", "+ ", "` "]

/-- As many cells as a node is deep. -/
def IsArt (depth : Nat) (art : List Char) : Prop :=
  ∃ row : List String, row.length = depth ∧ (∀ cell ∈ row, cell ∈ cellTexts) ∧
    art = row.flatMap String.toList

theorem IsArt.concat {art : List Char} {cell : String} (h : IsArt depth art)
    (hcell : cell ∈ cellTexts) : IsArt (depth + 1) (art ++ cell.toList) := by
  obtain ⟨row, hlen, hrow, rfl⟩ := h
  refine ⟨row ++ [cell], by simp [hlen], ?_, by simp⟩
  intro other hother
  rcases List.mem_append.1 hother with hmem | hmem
  · exact hrow other hmem
  · rwa [List.mem_singleton.1 hmem]

theorem IsArt.length {art : List Char} (h : IsArt depth art) : art.length = 2 * depth := by
  obtain ⟨row, rfl, hrow, rfl⟩ := h
  induction row with
  | nil => rfl
  | cons cell row ih =>
      obtain ⟨hcell, hothers⟩ := List.forall_mem_cons.1 hrow
      have htwo : cell.toList.length = 2 := by
        simp only [cellTexts, List.mem_cons, List.not_mem_nil, or_false] at hcell
        rcases hcell with rfl | rfl | rfl | rfl <;> rfl
      rw [List.flatMap_cons, List.length_append, htwo, ih hothers, List.length_cons]
      omega

theorem ownCell_mem (r : Remaining) (depth : Nat) (isFirst : Bool) :
    ∃ cell ∈ cellTexts, ownCell .plain r depth isFirst = cell.toList := by
  unfold ownCell
  split
  · exact ⟨"+ ", by simp [cellTexts], paint_plain _ _⟩
  · exact ⟨"` ", by simp [cellTexts], paint_plain _ _⟩
  · exact ⟨"| ", by simp [cellTexts], paint_plain _ _⟩
  · exact ⟨"  ", by simp [cellTexts], rfl⟩

theorem isArt_guides (r : Remaining) (depth : Nat) : IsArt depth (guides r depth) := by
  induction depth with
  | zero => exact ⟨[], rfl, by simp, rfl⟩
  | succ depth ih =>
      rw [guides_succ, guide, paint_plain]
      refine ih.concat ?_
      split <;> simp [cellTexts]

theorem isArt_cells (r : Remaining) (depth : Nat) (isFirst : Bool) :
    IsArt depth (cells .plain r depth isFirst) := by
  cases depth with
  | zero => exact isArt_guides r 0
  | succ depth =>
      obtain ⟨cell, hcell, hown⟩ := ownCell_mem r (depth + 1) isFirst
      rw [cells, ← guides, hown]
      exact (isArt_guides r depth).concat hcell

/-- What the lines of a node are to be. -/
structure Wraps (width : Nat) (node : CallNode) (lines : List String) : Prop where
  art : ∀ line ∈ lines, IsArt node.depth (line.toList.take (2 * node.depth))
  label : lines.flatMap (·.toList.drop (2 * node.depth)) = node.frame.label.toList
  /-- A label that may be cut is cut into as few lines as hold it. -/
  cut : 2 * node.depth + 10 < width →
    lines.length = max 1 (node.frame.label.length ⌈/⌉ (width - 2 * node.depth)) ∧
      (∀ line ∈ lines, line.length ≤ width) ∧ ∀ line ∈ lines.dropLast, line.length = width
  whole : width ≤ 2 * node.depth + 10 → lines.length = 1

variable {mark margin line : List Char} {pieces : List (List Char)}

theorem mem_hang (h : line ∈ hang mark margin pieces) :
    ∃ piece ∈ pieces, line = mark ++ piece ∨ line = margin ++ piece := by
  cases pieces with
  | nil => simp [hang] at h
  | cons first rest =>
      rw [hang] at h
      rcases List.mem_cons.1 h with rfl | hrest
      · exact ⟨first, by simp, .inl rfl⟩
      · obtain ⟨piece, hpiece, rfl⟩ := List.mem_map.1 hrest
        exact ⟨piece, by simp [hpiece], .inr rfl⟩

theorem map_drop_hang {n : Nat} (hmark : mark.length = n) (hmargin : margin.length = n) :
    (hang mark margin pieces).map (·.drop n) = pieces := by
  cases pieces with
  | nil => rfl
  | cons first rest =>
      have hbehind : (List.drop n) ∘ (margin ++ ·) = id := by
        funext piece
        exact List.drop_left' hmargin
      rw [hang, List.map_cons, List.drop_left' hmark, List.map_map, hbehind, List.map_id]

theorem map_drop_nodeLines (width : Nat) (r : Remaining) (node : CallNode) :
    (nodeLines width .plain r node).map (·.drop (2 * node.depth)) = labelPieces width node := by
  rw [nodeLines_eq]
  exact map_drop_hang (isArt_cells r node.depth true).length (isArt_cells r node.depth false).length

theorem isArt_of_mem_nodeLines (h : line ∈ nodeLines width .plain r node) :
    IsArt node.depth (line.take (2 * node.depth)) := by
  rw [nodeLines_eq] at h
  obtain ⟨piece, -, rfl | rfl⟩ := mem_hang h
  · have hart := isArt_cells r node.depth true
    rwa [List.take_left' hart.length]
  · have hart := isArt_cells r node.depth false
    rwa [List.take_left' hart.length]

/-- The line of a piece is wider by the margin. -/
theorem length_of_mem_nodeLines (h : line ∈ nodeLines width .plain r node) :
    line.length = 2 * node.depth + (line.drop (2 * node.depth)).length := by
  have hart := (isArt_of_mem_nodeLines h).length
  rw [List.length_take] at hart
  rw [List.length_drop]
  omega

theorem nodeLines_wraps (width : Nat) (r : Remaining) (node : CallNode) :
    Wraps width node ((nodeLines width .plain r node).map String.ofList) := by
  have hpieces := map_drop_nodeLines width r node
  have hcount := congrArg List.length hpieces
  rw [List.length_map] at hcount
  refine ⟨?_, ?_, ?_, ?_⟩
  · intro shown hshown
    obtain ⟨line, hline, rfl⟩ := List.mem_map.1 hshown
    rw [String.toList_ofList]
    exact isArt_of_mem_nodeLines hline
  · rw [← flatten_labelPieces width node, ← hpieces, List.flatMap_map, List.flatMap_def]
    simp
  · intro hcut
    have hcut' : 2 * node.depth + leastLabelWidth < width := hcut
    rw [labelPieces, if_pos hcut'] at hpieces hcount
    refine ⟨?_, ?_, ?_⟩
    · rw [List.length_map, hcount, length_chunks (by omega), String.length_toList]
    · intro shown hshown
      obtain ⟨line, hline, rfl⟩ := List.mem_map.1 hshown
      have hpiece := List.mem_map_of_mem (f := (·.drop (2 * node.depth))) hline
      rw [hpieces] at hpiece
      have hle := length_le_of_mem_chunks (by omega) hpiece
      rw [String.length_ofList, length_of_mem_nodeLines hline]
      omega
    · intro shown hshown
      rw [← List.map_dropLast] at hshown
      obtain ⟨line, hline, rfl⟩ := List.mem_map.1 hshown
      have hpiece := List.mem_map_of_mem (f := (·.drop (2 * node.depth))) hline
      rw [List.map_dropLast, hpieces] at hpiece
      have hfull := length_of_mem_dropLast_chunks hpiece
      rw [String.length_ofList, length_of_mem_nodeLines (List.mem_of_mem_dropLast hline), hfull]
      omega
  · intro hwhole
    have hwhole' : ¬ 2 * node.depth + leastLabelWidth < width := Nat.not_lt.2 hwhole
    rw [List.length_map, hcount, labelPieces, if_neg hwhole', List.length_singleton]

theorem linesFrom_wraps (width : Nat) (nodes : List CallNode) (r : Remaining) :
    ∃ blocks : List (List String), List.Forall₂ (Wraps width) nodes blocks ∧
      (linesFrom width .plain r nodes).map String.ofList = blocks.flatten := by
  induction nodes generalizing r with
  | nil => exact ⟨[], .nil, rfl⟩
  | cons node rest ih =>
      obtain ⟨blocks, hblocks, hlines⟩ :=
        ih ((r.drop node.depth).add (node.depth + 1) node.children)
      refine ⟨_ :: blocks, .cons (nodeLines_wraps width (r.drop node.depth) node) hblocks, ?_⟩
      rw [linesFrom, List.map_append, hlines, List.flatten_cons]

/-- Without colours, the lines of a call graph are those of its nodes one after the other. Behind
its tree art each node has its whole label, in as few lines as fit into the width if the label may
be cut, and else in one. To find this out, nothing is ever taken from less than it, and no label is
cut into pieces of size zero. -/
theorem render_wraps (width : Nat) (nodes : List CallNode) :
    (∃ blocks : List (List String), List.Forall₂ (Wraps width) nodes blocks ∧
      render width .plain nodes = blocks.flatten) ∧
      ∀ node, labelPieces? width node = some (labelPieces width node) :=
  ⟨linesFrom_wraps width nodes .start, labelPieces?_eq width⟩

example :
    let node : CallNode := ⟨{ name := "0123456789ab" }, 1, 0⟩
    (labelPieces 12 node).length = 1 ∧ (labelPieces 13 node).length = 2 := by cbv

end TemplateTrace.TreeArt
