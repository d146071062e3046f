import TemplateTrace.Frame

/-!
# Call graphs as lists and as trees

What a traversal of the instantiations finds is an ordered tree of frames. It is handed around
as the list of its nodes in pre-order, each with its depth and the number of its children:
that is enough to tell the tree. `CallTree.nodes` writes the list of a tree.
-/

namespace TemplateTrace

/-- One node of a call graph listed in pre-order. -/
structure CallNode where
  frame : Frame
  /-- How many steps below the start of the traversal the node is. -/
  depth : Nat
  children : Nat
  deriving DecidableEq, Repr, Inhabited

/-- An ordered tree of frames. -/
inductive CallTree where
  | node (frame : Frame) (children : List CallTree)
  deriving Repr, Inhabited

namespace CallTree

/-- The frame at the root of a tree. -/
def frame : CallTree → Frame
  | .node frame _ => frame

/-- The trees below the root of a tree. -/
def children : CallTree → List CallTree
  | .node _ children => children

mutual

/-- The nodes of a tree in pre-order, its root being at the given depth. -/
def nodesAt (depth : Nat) : CallTree → List CallNode
  | .node frame children =>
      { frame, depth, children := children.length } :: forestNodesAt (depth + 1) children

/-- The nodes of a row of sibling trees. -/
def forestNodesAt (depth : Nat) : List CallTree → List CallNode
  | [] => []
  | tree :: rest => nodesAt depth tree ++ forestNodesAt depth rest

end

/-- The nodes of a tree in pre-order. -/
def nodes (tree : CallTree) : List CallNode := tree.nodesAt 0

end CallTree

end TemplateTrace
