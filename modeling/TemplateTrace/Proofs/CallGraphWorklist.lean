import TemplateTrace.Proofs.CallTreeGrowth
import TemplateTrace.Proofs.CallTreeReading

/-!
# Call graphs from a worklist

A call graph can also be listed without recursion, by a traversal that keeps the visits to come
on a stack. It has one path for all of them, and cuts it back to the depth of a visit before it
looks whether the vertex is on it; and it has one set of marks, made when a vertex is visited
and not when it is put on the stack.

`Worklist.lists_callGraph` says that it lists the nodes of `callGraph` and then comes to an end,
for every graph. The invariant is that of a row of siblings: when one of them is visited, the
path cut back to their depth holds the vertices above them, whatever was visited below the
others before, and the marks are those that the recursion hands on (`Lands`).

That what is listed is one tree follows from the reading of lists in `CallTreeReading.lean`.
-/

namespace TemplateTrace

/-- A visit that waits to be made. -/
structure Visit where
  vertex : VertexId
  frame : Frame
  depth : Nat

/-- The visit that an edge asks for. -/
def Visit.along (g : Metaprogram) (depth : Nat) (e : EdgeId) : Visit :=
  { vertex := g.target e, frame := g.edgeFrame e, depth }

/-- A traversal that keeps the visits to come on a stack. -/
structure Worklist where
  /-- The visits to come, the next one first. -/
  waiting : List Visit
  /-- The vertices from the start to the last one visited, the last one first. -/
  path : List VertexId
  seen : VertexSet

namespace Worklist

open Cursor (upTo)

/-- The worklist with the visit to the start to be made. -/
def start (g : Metaprogram) (v : VertexId) (frame : Frame) : Worklist :=
  { waiting := [{ vertex := v, frame, depth := 0 }], path := [], seen := .empty g.vertexCount }

/-- The edges that a visit puts on the stack. -/
def followed (g : Metaprogram) (mode : Mode) (maxDepth : Option Nat) (w : Worklist)
    (next : Visit) : List EdgeId :=
  if maxDepth.all (next.depth < ·) && !(upTo w.path next.depth).contains next.vertex &&
      (mode == .full || !w.seen.contains next.vertex)
  then g.outEdges next.vertex else []

/-- The node that a visit lists. -/
def nodeOf (g : Metaprogram) (mode : Mode) (maxDepth : Option Nat) (w : Worklist)
    (next : Visit) : CallNode :=
  { frame := next.frame, depth := next.depth,
    children := (w.followed g mode maxDepth next).length }

/-- The worklist after a visit, `rest` being the visits that wait after it. -/
def after (g : Metaprogram) (mode : Mode) (maxDepth : Option Nat) (w : Worklist)
    (next : Visit) (rest : List Visit) : Worklist :=
  { waiting := (w.followed g mode maxDepth next).map (Visit.along g (next.depth + 1)) ++ rest
    path := next.vertex :: upTo w.path next.depth
    seen := w.seen.insert next.vertex }

/-- Makes the next visit, if one waits: its vertex and the node that lists it. -/
def next? (g : Metaprogram) (mode : Mode) (maxDepth : Option Nat) (w : Worklist) :
    Option ((VertexId × CallNode) × Worklist) :=
  match w.waiting with
  | [] => none
  | next :: rest =>
      some ((next.vertex, w.nodeOf g mode maxDepth next), w.after g mode maxDepth next rest)

/-- The visits from one worklist to another, each with the node that it lists. -/
def Lists (g : Metaprogram) (mode : Mode) (maxDepth : Option Nat) :
    Worklist → List (VertexId × CallNode) → Worklist → Prop
  | w, [], d => w = d
  | w, visit :: rest, d => ∃ b, w.next? g mode maxDepth = some (visit, b) ∧
      Lists g mode maxDepth b rest d

variable {g : Metaprogram} {mode : Mode} {maxDepth limit : Option Nat} {w b d : Worklist}
  {visits more : List (VertexId × CallNode)} {above : List VertexId} {n : Nat}
  {rest : List Visit}

theorem Lists.append (h : Lists g mode maxDepth w visits b)
    (h' : Lists g mode maxDepth b more d) : Lists g mode maxDepth w (visits ++ more) d := by
  induction visits generalizing w with
  | nil =>
      cases h
      exact h'
  | cons visit visits ih =>
      obtain ⟨a, hnext, hrest⟩ := h
      exact ⟨a, hnext, ih hrest⟩

/-- What every visit keeps, all visits from one worklist to another keep. -/
theorem Lists.keeps {P : List (VertexId × CallNode) → Worklist → Prop}
    (hstep : ∀ {visits w visit b}, P visits w → w.next? g mode maxDepth = some (visit, b) →
      P (visits ++ [visit]) b)
    (hmore : Lists g mode maxDepth w more d) (h : P visits w) : P (visits ++ more) d := by
  induction more generalizing visits w with
  | nil =>
      cases hmore
      rwa [List.append_nil]
  | cons visit more ih =>
      obtain ⟨b, hnext, hrest⟩ := hmore
      have hd := ih hrest (hstep h hnext)
      rwa [List.append_assoc] at hd

/-- Both traversals look at the same things when they decide whether to enter a vertex. -/
theorem followed_eq (next : Visit) : w.followed g mode maxDepth next =
    g.followed mode (maxDepth.map (· - next.depth)) (upTo w.path next.depth) w.seen
      next.vertex := by
  have hlevels : maxDepth.all (next.depth < ·) =
      (maxDepth.map (· - next.depth) != some 0) := by
    cases maxDepth with
    | none => rfl
    | some m =>
        rw [Bool.eq_iff_iff, Option.all_some, Option.map_some, bne_iff_ne, ne_eq,
          Option.some.injEq, decide_eq_true_eq]
        omega
  rw [followed, Metaprogram.followed, Metaprogram.enters, hlevels]

/-- The worklist `d` has made all visits that waited above `rest`, and its path still begins
with the vertices `above`. -/
structure Lands (d : Worklist) (rest : List Visit) (seen : VertexSet) (above : List VertexId)
    (n : Nat) : Prop where
  waiting : d.waiting = rest
  seen : d.seen = seen
  long : n ≤ d.path.length
  above : upTo d.path n = above

/-- Visits from a worklist with a vertex on top list the nodes of a tree. -/
def ListsTree (g : Metaprogram) (mode : Mode) (maxDepth limit : Option Nat)
    (above : List VertexId) (frame : Frame) (v : VertexId)
    (visit : VertexSet → CallTree × VertexSet) : Prop :=
  ∀ (w : Worklist) (n : Nat) (rest : List Visit), limit = maxDepth.map (· - n) →
    w.waiting = { vertex := v, frame, depth := n } :: rest → n ≤ w.path.length →
    upTo w.path n = above →
    ∃ visits d, Lists g mode maxDepth w visits d ∧
      visits.map Prod.snd = (visit w.seen).1.nodesAt n ∧
      Lands d rest (visit w.seen).2 above n

theorem lands_after (g : Metaprogram) (mode : Mode) (maxDepth : Option Nat) (next : Visit)
    (rest : List Visit) (hlong : next.depth ≤ w.path.length) :
    Lands (w.after g mode maxDepth next rest)
      ((w.followed g mode maxDepth next).map (Visit.along g (next.depth + 1)) ++ rest)
      (w.seen.insert next.vertex) (next.vertex :: upTo w.path next.depth)
      (next.depth + 1) := by
  have hlen : (w.after g mode maxDepth next rest).path.length = next.depth + 1 := by
    rw [after, List.length_cons, Cursor.length_upTo hlong]
  refine ⟨rfl, rfl, Nat.le_of_eq hlen.symm, ?_⟩
  rw [← hlen]
  exact Cursor.upTo_length

theorem lists_forest {visit : EdgeId → VertexSet → CallTree × VertexSet} {es : List EdgeId}
    (h : ∀ e ∈ es, ListsTree g mode maxDepth (maxDepth.map (· - n)) above (g.edgeFrame e)
      (g.target e) (visit e))
    (hw : Lands w (es.map (Visit.along g n) ++ rest) w.seen above n) :
    ∃ visits d, Lists g mode maxDepth w visits d ∧
      visits.map Prod.snd = CallTree.forestNodesAt n (visitAll visit es w.seen).1 ∧
      Lands d rest (visitAll visit es w.seen).2 above n := by
  induction es generalizing w with
  | nil => exact ⟨[], w, rfl, rfl, hw⟩
  | cons e es ih =>
      obtain ⟨hfirst, hothers⟩ := List.forall_mem_cons.1 h
      obtain ⟨visits, b, hvisits, hnodes, hb⟩ := hfirst w n _ rfl hw.waiting hw.long hw.above
      obtain ⟨more, d, hmore, hmoreNodes, hd⟩ := ih hothers
        ⟨hb.waiting, rfl, hb.long, hb.above⟩
      rw [hb.seen] at hmoreNodes hd
      refine ⟨visits ++ more, d, hvisits.append hmore, ?_, hd⟩
      rw [List.map_append, hnodes, hmoreNodes]
      rfl

theorem listsTree_spread {frame : Frame} {v : VertexId}
    {visit : EdgeId → VertexSet → CallTree × VertexSet}
    (h : v ∉ above → ∀ e ∈ g.outEdges v, ListsTree g mode maxDepth (limit.map (· - 1))
      (v :: above) (g.edgeFrame e) (g.target e) (visit e)) :
    ListsTree g mode maxDepth limit above frame v
      (g.spread mode limit above frame v visit) := by
  rintro w n rest rfl hwaiting hlong rfl
  have hbelow : ∀ e ∈ w.followed g mode maxDepth { vertex := v, frame, depth := n },
      ListsTree g mode maxDepth (maxDepth.map (· - (n + 1))) (v :: upTo w.path n)
        (g.edgeFrame e) (g.target e) (visit e) := by
    intro e he
    rw [followed_eq] at he
    obtain ⟨henters, hout⟩ := Metaprogram.mem_followed.1 he
    have hlevels : (maxDepth.map (· - n)).map (· - 1) = maxDepth.map (· - (n + 1)) :=
      Option.map_map ..
    rw [← hlevels]
    exact h (Metaprogram.not_mem_of_enters henters) e hout
  obtain ⟨visits, d, hvisits, hnodes, hd⟩ := lists_forest hbelow
    (lands_after g mode maxDepth { vertex := v, frame, depth := n } rest hlong)
  refine ⟨_ :: visits, d, ⟨_, by rw [next?, hwaiting], hvisits⟩, ?_, ?_⟩
  · rw [List.map_cons, hnodes, nodeOf, followed_eq, Metaprogram.nodesAt_spread]
    rfl
  · -- what was visited below `v` stays on the path, but deeper than the next visit
    rw [followed_eq] at hd
    have hcut := Cursor.upTo_upTo (Nat.le_succ n) hd.long
    have hlen := Cursor.length_upTo hlong
    refine ⟨hd.waiting, hd.seen, Nat.le_of_succ_le hd.long, ?_⟩
    rw [← hcut, hd.above, Cursor.upTo_cons (Nat.le_of_eq hlen.symm),
      Cursor.upTo_upTo (Nat.le_refl n) hlong]

/-- A worklist that starts with one visit lists the call graph and then has nothing left to
visit. -/
theorem lists_callGraph (g : Metaprogram) (v : VertexId) (frame : Frame) (mode : Mode)
    (maxDepth : Option Nat) :
    ∃ visits d, Lists g mode maxDepth (start g v frame) visits d ∧ d.waiting = [] ∧
      visits.map Prod.snd = g.callGraph v frame mode maxDepth := by
  have htree := Metaprogram.grow_induction (P := ListsTree g mode maxDepth)
    (fun _ _ _ _ _ => listsTree_spread) (Metaprogram.hasRoom_nil g) maxDepth frame v
  obtain ⟨visits, d, hvisits, hnodes, hd⟩ := htree (start g v frame) 0 []
    (by cases maxDepth <;> rfl) rfl (Nat.zero_le _) rfl
  exact ⟨visits, d, hvisits, hd.waiting, hnodes⟩

end Worklist

namespace Metaprogram

/-- Whatever is traversed, the nodes that a worklist lists are those of the call graph, and they
are read as one tree and no other: only the first stands at depth zero, none stands more than
one level below the one before it, and all but the first are children. -/
theorem callGraph_reads (g : Metaprogram) (start : VertexId) (frame : Frame) (mode : Mode)
    (maxDepth : Option Nat) :
    let nodes := g.callGraph start frame mode maxDepth
    (∃ visits d, Worklist.Lists g mode maxDepth (.start g start frame) visits d ∧
        d.waiting = [] ∧ visits.map Prod.snd = nodes) ∧
      (∃ tree, CallTree.read? nodes = some tree ∧
        ∀ other, other.nodes = nodes → other = tree) ∧
      (∃ first later, nodes = first :: later ∧ first.depth = 0 ∧ ∀ n ∈ later, 1 ≤ n.depth) ∧
      nodes.IsChain CallTree.Descends ∧
      (nodes.map CallNode.children).sum + 1 = nodes.length := by
  intro nodes
  have htree : CallTree.read? nodes = some (g.callTree start frame mode maxDepth) :=
    CallTree.read?_eq_some_iff.2 rfl
  refine ⟨Worklist.lists_callGraph g start frame mode maxDepth, ⟨_, htree, fun other h => ?_⟩,
    ?_, CallTree.isChain_nodesAt _ 0, CallTree.sum_children_nodesAt _ 0⟩
  · have hother := CallTree.read?_eq_some_iff.2 h
    rw [htree, Option.some.injEq] at hother
    exact hother.symm
  · cases hshape : g.callTree start frame mode maxDepth with
    | node frame children =>
        have hnodes : nodes = (CallTree.node frame children).nodes := congrArg _ hshape
        exact ⟨_, _, hnodes, rfl, CallTree.le_depth_of_mem_forestNodesAt children 1⟩

end Metaprogram

end TemplateTrace
