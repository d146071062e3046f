import Mathlib.Algebra.GroupWithZero.Nat
import Mathlib.Data.List.Basic
import Mathlib.Data.List.Chain
import TemplateTrace.CallNode

/-!
# Lists of nodes read as trees

The list of a tree holds of every node its depth and the number of its children, and not where
its children end. Here a list is read without the tree that it was written from. The reading
goes from the end of the list to its beginning and keeps a row of finished trees: a node takes
the first trees of the row for its children, as many as it says it has, and all of them have to
stand one level below it.

A list is read as a tree exactly if it is the list of that tree, `read?_eq_some_iff`. One
direction is by induction on the tree, the other by induction on the list; with both, a list
has at most one tree.
-/

namespace TemplateTrace

namespace CallTree

/-- Reads a list of nodes as a row of trees, each with the depth of its root. -/
def readRow : List CallNode → Option (List (Nat × CallTree))
  | [] => some []
  | n :: rest =>
      match readRow rest with
      | none => none
      | some row =>
          let below := row.take n.children
          if below.length = n.children ∧ ∀ t ∈ below, t.1 = n.depth + 1 then
            some ((n.depth, .node n.frame (below.map Prod.snd)) :: row.drop n.children)
          else none

/-- Reads a list of nodes as one tree, from its root on. -/
def read? (nodes : List CallNode) : Option CallTree :=
  match readRow nodes with
  | some [(0, tree)] => some tree
  | _ => none

/-- The nodes of a row of trees, each with a depth of its own. -/
def rowNodes (row : List (Nat × CallTree)) : List CallNode :=
  row.flatMap fun t => t.2.nodesAt t.1

variable {nodes rest : List CallNode} {row : List (Nat × CallTree)} {tree : CallTree}
  {depth : Nat}

/-! ## Writing and reading -/

mutual

theorem readRow_nodesAt {rest : List CallNode} {row : List (Nat × CallTree)} (tree : CallTree)
    (depth : Nat) (h : readRow rest = some row) :
    readRow (tree.nodesAt depth ++ rest) = some ((depth, tree) :: row) := by
  match tree with
  | .node frame children =>
      have hbelow := readRow_forestNodesAt children (depth + 1) h
      have hlen : (children.map fun t => (depth + 1, t)).length = children.length :=
        List.length_map _
      rw [nodesAt, List.cons_append, readRow, hbelow]
      simp only []
      rw [List.take_left' hlen, List.drop_left' hlen, if_pos ⟨hlen, by simp⟩, List.map_map]
      exact congrArg (fun below => some ((depth, node frame below) :: row))
        (List.map_id children)

theorem readRow_forestNodesAt {rest : List CallNode} {row : List (Nat × CallTree)}
    (trees : List CallTree) (depth : Nat) (h : readRow rest = some row) :
    readRow (forestNodesAt depth trees ++ rest) =
      some ((trees.map fun t => (depth, t)) ++ row) := by
  match trees with
  | [] => exact h
  | tree :: others =>
      rw [forestNodesAt, List.append_assoc]
      exact readRow_nodesAt tree depth (readRow_forestNodesAt others depth h)

end

theorem rowNodes_of_level (h : ∀ t ∈ row, t.1 = depth) :
    rowNodes row = forestNodesAt depth (row.map Prod.snd) := by
  induction row with
  | nil => rfl
  | cons t row ih =>
      obtain ⟨hfirst, hothers⟩ := List.forall_mem_cons.1 h
      rw [List.map_cons, forestNodesAt, ← ih hothers, ← hfirst]
      rfl

/-- What is read is what was written. -/
theorem rowNodes_of_readRow (h : readRow nodes = some row) : rowNodes row = nodes := by
  induction nodes generalizing row with
  | nil =>
      cases h
      rfl
  | cons n rest ih =>
      rw [readRow] at h
      cases hrest : readRow rest with
      | none =>
          rw [hrest] at h
          cases h
      | some later =>
          rw [hrest] at h
          simp only [] at h
          split at h
          · next hfits =>
              obtain ⟨hlen, hlevel⟩ := hfits
              cases h
              -- the trees that the node takes and those that it leaves make the row after it
              have hsplit : rowNodes (later.take n.children) ++
                  rowNodes (later.drop n.children) = rest := by
                rw [← ih hrest, rowNodes, rowNodes, ← List.flatMap_append,
                  List.take_append_drop]
                rfl
              rw [rowNodes_of_level hlevel] at hsplit
              rw [← hsplit]
              show CallTree.nodesAt _ _ ++ rowNodes _ = _
              rw [nodesAt, List.length_map, hlen]
              rfl
          · cases h

/-- A list is read as a tree exactly if it is the list of that tree. -/
theorem read?_eq_some_iff : read? nodes = some tree ↔ tree.nodes = nodes := by
  constructor
  · intro h
    unfold read? at h
    split at h
    · next only hrow =>
        cases h
        rw [← rowNodes_of_readRow hrow]
        exact (List.append_nil _).symm
    · cases h
  · intro h
    have hend : readRow [] = some [] := rfl
    have hrow := readRow_nodesAt tree 0 hend
    rw [List.append_nil] at hrow
    rw [← h, CallTree.nodes, read?, hrow]
    rfl

example (frame : Frame) : read? [⟨frame, 0, 2⟩, ⟨frame, 1, 0⟩, ⟨frame, 2, 0⟩] = none := rfl

/-! ## Depths and counts -/

mutual

theorem le_depth_of_mem_nodesAt (tree : CallTree) (depth : Nat) :
    ∀ n ∈ tree.nodesAt depth, depth ≤ n.depth := by
  match tree with
  | .node frame children =>
      intro n hn
      rw [nodesAt, List.mem_cons] at hn
      rcases hn with rfl | hn
      · exact Nat.le_refl _
      · exact Nat.le_of_succ_le (le_depth_of_mem_forestNodesAt children (depth + 1) n hn)

theorem le_depth_of_mem_forestNodesAt (trees : List CallTree) (depth : Nat) :
    ∀ n ∈ forestNodesAt depth trees, depth ≤ n.depth := by
  match trees with
  | [] => exact fun n hn => absurd hn List.not_mem_nil
  | tree :: others =>
      intro n hn
      rw [forestNodesAt, List.mem_append] at hn
      rcases hn with hn | hn
      · exact le_depth_of_mem_nodesAt tree depth n hn
      · exact le_depth_of_mem_forestNodesAt others depth n hn

end

theorem head_depth_forestNodesAt (trees : List CallTree) (depth : Nat) :
    ∀ n ∈ (forestNodesAt depth trees).head?, n.depth = depth := by
  cases trees with
  | nil => exact fun n hn => absurd hn (by simp [forestNodesAt])
  | cons tree others =>
      cases tree with
      | node frame children =>
          intro n hn
          cases hn
          rfl

/-- A node stands at most one level below the one before it. -/
def Descends (before after : CallNode) : Prop := after.depth ≤ before.depth + 1

mutual

theorem isChain_nodesAt (tree : CallTree) (depth : Nat) :
    (tree.nodesAt depth).IsChain Descends := by
  match tree with
  | .node frame children =>
      rw [nodesAt, List.isChain_cons]
      exact ⟨fun n hn => Nat.le_of_eq (head_depth_forestNodesAt children (depth + 1) n hn),
        isChain_forestNodesAt children (depth + 1)⟩

theorem isChain_forestNodesAt (trees : List CallTree) (depth : Nat) :
    (forestNodesAt depth trees).IsChain Descends := by
  match trees with
  | [] => exact List.isChain_nil
  | tree :: others =>
      rw [forestNodesAt, List.isChain_append]
      refine ⟨isChain_nodesAt tree depth, isChain_forestNodesAt others depth, ?_⟩
      intro before hbefore after hafter
      have hle := le_depth_of_mem_nodesAt tree depth before (List.mem_of_getLast? hbefore)
      have heq := head_depth_forestNodesAt others depth after hafter
      rw [Descends]
      omega

end

mutual

/-- Every node but the root of a tree is the child of one. -/
theorem sum_children_nodesAt (tree : CallTree) (depth : Nat) :
    ((tree.nodesAt depth).map CallNode.children).sum + 1 = (tree.nodesAt depth).length := by
  match tree with
  | .node frame children =>
      have hbelow := sum_children_forestNodesAt children (depth + 1)
      rw [nodesAt, List.map_cons, List.sum_cons, List.length_cons, ← hbelow,
        Nat.add_comm children.length]

theorem sum_children_forestNodesAt (trees : List CallTree) (depth : Nat) :
    ((forestNodesAt depth trees).map CallNode.children).sum + trees.length =
      (forestNodesAt depth trees).length := by
  match trees with
  | [] => rfl
  | tree :: others =>
      have hfirst := sum_children_nodesAt tree depth
      have hothers := sum_children_forestNodesAt others depth
      rw [forestNodesAt, List.map_append, List.sum_append, List.length_append,
        List.length_cons]
      omega

end

end CallTree

end TemplateTrace
