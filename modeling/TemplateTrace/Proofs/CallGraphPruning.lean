import Mathlib.Data.List.Forall2
import TemplateTrace.Proofs.CallGraphWorklist

/-!
# Normal call graphs are pruned full ones

The two modes decide differently whether to enter a vertex: both refuse one that is on the way
from the start, and normal mode refuses what it has seen before as well. So wherever a normal
call graph goes on, the full one goes on too, and by the same edges. One is left of the other
when all children of some nodes are cut away, `grow_prunes`; that the marks differ at every turn
does not matter, and neither does a limit of the depth, which both have.

What is cut away is not lost. A mark is made only where a vertex is visited, and its first visit
follows every edge that leaves it, wherever in the tree that is (`Finds.opened`). So in the end
the marks are closed under the edges (`grow_finds`), and whatever a tree from the start goes by,
the normal call graph has it as well. A limit of the depth breaks just this, since it can keep
the first visit from being entered.

To speak of the edges of a tree takes no more than the vertex that its root stands for: the
children of a node are for the edges that leave its vertex, in their order. The trees are those
that are read from what a worklist lists in either mode.
-/

namespace TemplateTrace

namespace CallTree

/-- Cutting away all children of some nodes of a tree leaves another. The nodes that are left
keep their places, each with all of its children or none. -/
inductive Prunes : CallTree → CallTree → Prop
  | cut (frame : Frame) (children : List CallTree) :
      Prunes (.node frame children) (.node frame [])
  | keep (frame : Frame) {children kept : List CallTree}
      (h : List.Forall₂ Prunes children kept) : Prunes (.node frame children) (.node frame kept)

end CallTree

namespace Metaprogram

mutual

/-- The edges that lead to the nodes below the root of a tree, in the order of the nodes, the
root standing for the vertex `v`. -/
def edgesBelow (g : Metaprogram) (v : VertexId) : CallTree → List EdgeId
  | .node _ children => edgesAlong g (g.outEdges v) children

/-- The edges that lead to the nodes of a row of trees, the roots standing for the edges `es`. -/
def edgesAlong (g : Metaprogram) (es : List EdgeId) : List CallTree → List EdgeId
  | [] => []
  | tree :: others =>
      match es with
      | [] => []
      | e :: es => e :: (edgesBelow g (g.target e) tree ++ edgesAlong g es others)

end

/-- The edges `es` are found and their targets marked, and so is every edge that leaves a newly
marked vertex. -/
structure Finds (g : Metaprogram) (seen : VertexSet) (es : List EdgeId) (later : VertexSet) :
    Prop where
  bound : later.bound = g.vertexCount
  kept : ∀ u, seen.contains u = true → later.contains u = true
  marked : ∀ e ∈ es, g.target e < g.vertexCount → later.contains (g.target e) = true
  opened : ∀ u, later.contains u = true → seen.contains u = true ∨ ∀ e ∈ g.outEdges u, e ∈ es

variable {g : Metaprogram} {mode : Mode} {limit : Option Nat} {room : Nat}
  {above : List VertexId} {seen later last : VertexSet} {frame : Frame} {v : VertexId}
  {es more : List EdgeId} {visit : EdgeId → VertexSet → CallTree × VertexSet}

/-! ## Pruning -/

theorem enters_full_of_normal (h : enters .normal limit above seen v = true)
    (marks : VertexSet) : enters .full limit above marks v = true := by
  simp only [enters, Bool.and_eq_true] at h ⊢
  exact ⟨h.1, rfl⟩

/-- Whatever was marked before, a normal tree is left of the full one. -/
theorem grow_prunes (room : Nat) (limit : Option Nat) (above : List VertexId) (frame : Frame)
    (v : VertexId) (marks seen : VertexSet) :
    (g.grow .full room limit above frame v marks).1.Prunes
      (g.grow .normal room limit above frame v seen).1 := by
  induction room generalizing limit above frame v marks seen with
  | zero => exact .cut frame []
  | succ room ih =>
      rw [grow_succ, grow_succ, spread, spread]
      by_cases henters : enters .normal limit above seen v = true
      · rw [followed, followed, if_pos henters, if_pos (enters_full_of_normal henters marks)]
        refine .keep frame (forall₂_visitAll (fun e _ s t => ?_) _ _)
        exact ih ..
      · have hnone : g.followed .normal limit above seen v = [] := if_neg henters
        rw [hnone]
        exact .cut frame _

/-! ## The edges of a tree -/

theorem edgesAlong_nil (row : List CallTree) : g.edgesAlong [] row = [] := by
  cases row <;> rfl

theorem edgesBelow_spread :
    g.edgesBelow v (g.spread mode limit above frame v visit seen).1 =
      g.edgesAlong (g.followed mode limit above seen v)
        (visitAll visit (g.followed mode limit above seen v) (seen.insert v)).1 := by
  rw [spread, edgesBelow, followed]
  split
  · rfl
  · rfl

/-- The nodes of a tree have the frames of its edges, after that of its root. -/
def FramesBelow (g : Metaprogram) (frame : Frame) (v : VertexId)
    (visit : VertexSet → CallTree × VertexSet) : Prop :=
  ∀ seen depth, ((visit seen).1.nodesAt depth).map CallNode.frame =
    frame :: (g.edgesBelow v (visit seen).1).map g.edgeFrame

theorem frames_row (h : ∀ e ∈ es, FramesBelow g (g.edgeFrame e) (g.target e) (visit e))
    (seen : VertexSet) (depth : Nat) :
    (CallTree.forestNodesAt depth (visitAll visit es seen).1).map CallNode.frame =
      (g.edgesAlong es (visitAll visit es seen).1).map g.edgeFrame := by
  induction es generalizing seen with
  | nil => rfl
  | cons e es ih =>
      obtain ⟨hfirst, hothers⟩ := List.forall_mem_cons.1 h
      rw [visitAll, CallTree.forestNodesAt, edgesAlong, List.map_append, hfirst, ih hothers,
        List.map_cons, List.map_append, List.cons_append]

theorem framesBelow_grow (h : HasRoom g room above) (limit : Option Nat) (frame : Frame)
    (v : VertexId) : FramesBelow g frame v (g.grow mode room limit above frame v) := by
  refine grow_induction (P := fun _ _ frame v visit => FramesBelow g frame v visit)
    (fun limit above frame v visit ih seen depth => ?_) h limit frame v
  rw [nodesAt_spread, List.map_cons, edgesBelow_spread, frames_row fun e he => ?_]
  obtain ⟨henters, hout⟩ := mem_followed.1 he
  exact ih (not_mem_of_enters henters) e hout

/-! ## What is found without a limit -/

theorem Finds.append (h : Finds g seen es later) (h' : Finds g later more last) :
    Finds g seen (es ++ more) last where
  bound := h'.bound
  kept := fun u hu => h'.kept u (h.kept u hu)
  marked := by
    intro e he hlt
    rcases List.mem_append.1 he with he | he
    · exact h'.kept _ (h.marked e he hlt)
    · exact h'.marked e he hlt
  opened := by
    intro u hu
    rcases h'.opened u hu with hu | hnew
    · rcases h.opened u hu with hold | hnew
      · exact .inl hold
      · exact .inr fun e he => List.mem_append_left _ (hnew e he)
    · exact .inr fun e he => List.mem_append_right _ (hnew e he)

/-- A tree without a limit in normal mode marks its vertex and finds what it goes by, if the
vertices above it are marked. -/
def FindsBelow (g : Metaprogram) (limit : Option Nat) (above : List VertexId) (v : VertexId)
    (visit : VertexSet → CallTree × VertexSet) : Prop :=
  limit = none → ∀ seen : VertexSet, seen.bound = g.vertexCount →
    (∀ u ∈ above, seen.contains u = true) →
    Finds g seen (g.edgesBelow v (visit seen).1) (visit seen).2 ∧
      (v < g.vertexCount → (visit seen).2.contains v = true)

theorem finds_nil (hbound : seen.bound = g.vertexCount) : Finds g seen [] seen :=
  ⟨hbound, fun _ hu => hu, fun _ he => absurd he List.not_mem_nil, fun _ hu => .inl hu⟩

theorem finds_row (h : ∀ e ∈ es, FindsBelow g none above (g.target e) (visit e))
    (hbound : seen.bound = g.vertexCount) (habove : ∀ u ∈ above, seen.contains u = true) :
    Finds g seen (g.edgesAlong es (visitAll visit es seen).1) (visitAll visit es seen).2 ∧
      ∀ e ∈ es, e ∈ g.edgesAlong es (visitAll visit es seen).1 := by
  induction es generalizing seen with
  | nil =>
      exact ⟨finds_nil hbound, fun _ he => absurd he List.not_mem_nil⟩
  | cons e es ih =>
      obtain ⟨hfirst, hothers⟩ := List.forall_mem_cons.1 h
      obtain ⟨hbelow, htarget⟩ := hfirst rfl seen hbound habove
      obtain ⟨hrow, hmem⟩ := ih hothers hbelow.bound fun u hu => hbelow.kept u (habove u hu)
      have hboth := hbelow.append hrow
      rw [visitAll, edgesAlong]
      refine ⟨⟨hboth.bound, hboth.kept, ?_, ?_⟩, ?_⟩
      · exact List.forall_mem_cons.2 ⟨fun hlt => hrow.kept _ (htarget hlt), hboth.marked⟩
      · intro u hu
        exact (hboth.opened u hu).imp_right fun hnew d hd => List.mem_cons_of_mem _ (hnew d hd)
      · refine List.forall_mem_cons.2 ⟨List.mem_cons_self, fun d hd => ?_⟩
        exact List.mem_cons_of_mem _ (List.mem_append_right _ (hmem d hd))

theorem followed_of_new (hv : v ∉ above) (hnew : seen.contains v = false) :
    g.followed .normal none above seen v = g.outEdges v := by
  rw [followed, if_pos (by simp [enters, hv, hnew])]

theorem followed_of_seen (hseen : seen.contains v = true) :
    g.followed .normal limit above seen v = [] := by
  rw [followed, if_neg (by simp [enters, hseen])]

theorem contains_insert_iff (hbound : seen.bound = g.vertexCount) {u : VertexId} :
    (seen.insert v).contains u = true ↔
      seen.contains u = true ∨ v = u ∧ v < g.vertexCount := by
  rw [VertexSet.contains_insert, hbound, Bool.or_eq_true, Bool.and_eq_true, beq_iff_eq,
    decide_eq_true_eq]

/-- A new mark is right once all edges that leave the vertex are found. -/
theorem Finds.of_insert (hbound : seen.bound = g.vertexCount)
    (h : Finds g (seen.insert v) es later) (hall : ∀ e ∈ g.outEdges v, e ∈ es) :
    Finds g seen es later where
  bound := h.bound
  kept := fun u hu => h.kept u ((contains_insert_iff hbound).2 (.inl hu))
  marked := h.marked
  opened := by
    intro u hu
    rcases h.opened u hu with hold | hnew
    · rcases (contains_insert_iff hbound).1 hold with hold | ⟨rfl, -⟩
      · exact .inl hold
      · exact .inr hall
    · exact .inr hnew

theorem findsBelow_spread (h : v ∉ above → ∀ e ∈ g.outEdges v,
      FindsBelow g (limit.map (· - 1)) (v :: above) (g.target e) (visit e)) :
    FindsBelow g limit above v (g.spread .normal limit above frame v visit) := by
  rintro rfl seen hbound habove
  rw [edgesBelow_spread]
  cases hseen : seen.contains v with
  | true =>
      have hsame : (g.spread .normal none above frame v visit seen).2 = seen := by
        rw [spread, followed_of_seen hseen]
        exact VertexSet.insert_of_contains hseen
      rw [followed_of_seen hseen, edgesAlong_nil, hsame]
      exact ⟨finds_nil hbound, fun _ => hseen⟩
  | false =>
      have hbound' : (seen.insert v).bound = g.vertexCount := by
        rw [VertexSet.bound_insert]
        exact hbound
      have hv : v ∉ above := fun hmem => by
        rw [habove v hmem] at hseen
        cases hseen
      have hspread : (g.spread .normal none above frame v visit seen).2 =
          (visitAll visit (g.outEdges v) (seen.insert v)).2 := by
        rw [spread, followed_of_new hv hseen]
      rw [followed_of_new hv hseen, hspread]
      by_cases hlt : v < g.vertexCount
      · have hmark : (seen.insert v).contains v = true :=
          (contains_insert_iff hbound).2 (.inr ⟨rfl, hlt⟩)
        have habove' : ∀ u ∈ v :: above, (seen.insert v).contains u = true :=
          List.forall_mem_cons.2
            ⟨hmark, fun u hu => (contains_insert_iff hbound).2 (.inl (habove u hu))⟩
        obtain ⟨hfinds, hall⟩ := finds_row (h hv) hbound' habove'
        exact ⟨hfinds.of_insert hbound hall, fun _ => hfinds.kept v hmark⟩
      · -- a vertex out of range gets no mark, but it has no edges either
        rw [outEdges_eq_nil (Nat.le_of_not_lt hlt)]
        refine ⟨(finds_nil hbound').of_insert hbound fun e he => ?_, fun hv => absurd hv hlt⟩
        exact absurd (lt_of_mem_outEdges he) hlt

theorem grow_finds (h : HasRoom g room above) (frame : Frame) (v : VertexId) :
    FindsBelow g none above v (g.grow .normal room none above frame v) :=
  grow_induction (P := fun limit above _ v visit => FindsBelow g limit above v visit)
    (fun _ _ _ _ _ => findsBelow_spread) h none frame v

mutual

/-- What is closed under following edges has all edges of a tree whose first ones it has. -/
theorem mem_of_mem_edgesBelow (hes : ∀ e ∈ es, ∀ d ∈ g.outEdges (g.target e), d ∈ es)
    (tree : CallTree) (v : VertexId) (hv : ∀ e ∈ g.outEdges v, e ∈ es) :
    ∀ e ∈ g.edgesBelow v tree, e ∈ es := by
  match tree with
  | .node frame children => exact mem_of_mem_edgesAlong hes children (g.outEdges v) hv

theorem mem_of_mem_edgesAlong (hes : ∀ e ∈ es, ∀ d ∈ g.outEdges (g.target e), d ∈ es)
    (row : List CallTree) (ds : List EdgeId) (hds : ∀ d ∈ ds, d ∈ es) :
    ∀ e ∈ g.edgesAlong ds row, e ∈ es := by
  match row, ds with
  | [], _ => exact fun e he => absurd he List.not_mem_nil
  | _ :: _, [] => exact fun e he => absurd he List.not_mem_nil
  | tree :: others, d :: ds =>
      obtain ⟨hd, hds⟩ := List.forall_mem_cons.1 hds
      intro e he
      rcases List.mem_cons.1 he with rfl | he
      · exact hd
      · rcases List.mem_append.1 he with he | he
        · exact mem_of_mem_edgesBelow hes tree (g.target d) (hes d hd) e he
        · exact mem_of_mem_edgesAlong hes others ds hds e he

end

/-- Without a limit the normal call graph has every edge that any tree from the start has. -/
theorem mem_edgesBelow_callTree (start : VertexId) (frame : Frame) (tree : CallTree) :
    ∀ e ∈ g.edgesBelow start tree,
      e ∈ g.edgesBelow start (g.callTree start frame .normal none) := by
  obtain ⟨hfinds, hstart⟩ := grow_finds (hasRoom_nil g) frame start rfl
    (.empty g.vertexCount) (VertexSet.bound_empty _) fun _ hu => absurd hu List.not_mem_nil
  have hopened : ∀ v, (v < g.vertexCount → (g.grow .normal g.vertexCount none [] frame start
      (.empty g.vertexCount)).2.contains v = true) → ∀ e ∈ g.outEdges v,
      e ∈ g.edgesBelow start (g.callTree start frame .normal none) := by
    intro v hv e he
    rcases hfinds.opened v (hv (lt_of_mem_outEdges he)) with hold | hnew
    · rw [VertexSet.contains_empty] at hold
      cases hold
    · exact hnew e he
  exact mem_of_mem_edgesBelow (fun e he => hopened _ (hfinds.marked e he)) tree start
    (hopened start hstart)

/-- The normal call graph is left of the full one when all children of some nodes are cut away,
with the same limit of the depth or with none, both as a worklist lists them. Without a limit it
still has all edges that the full one has. -/
theorem callGraph_normal_prunes_full (g : Metaprogram) (start : VertexId) (frame : Frame)
    (maxDepth : Option Nat) :
    let full := g.callTree start frame .full
    let normal := g.callTree start frame .normal
    (∀ mode, ∃ visits d, Worklist.Lists g mode maxDepth (.start g start frame) visits d ∧
        d.waiting = [] ∧ visits.map Prod.snd = g.callGraph start frame mode maxDepth) ∧
      CallTree.read? (g.callGraph start frame .full maxDepth) = some (full maxDepth) ∧
      CallTree.read? (g.callGraph start frame .normal maxDepth) = some (normal maxDepth) ∧
      (full maxDepth).Prunes (normal maxDepth) ∧
      (g.callGraph start frame .full maxDepth).map CallNode.frame =
        frame :: (g.edgesBelow start (full maxDepth)).map g.edgeFrame ∧
      (g.callGraph start frame .normal maxDepth).map CallNode.frame =
        frame :: (g.edgesBelow start (normal maxDepth)).map g.edgeFrame ∧
      ∀ e ∈ g.edgesBelow start (full none), e ∈ g.edgesBelow start (normal none) := by
  intro full normal
  refine ⟨fun mode => Worklist.lists_callGraph g start frame mode maxDepth,
    CallTree.read?_eq_some_iff.2 rfl, CallTree.read?_eq_some_iff.2 rfl, ?_, ?_, ?_, ?_⟩
  · exact grow_prunes _ _ _ _ _ _ _
  · exact framesBelow_grow (hasRoom_nil g) maxDepth frame start _ 0
  · exact framesBelow_grow (hasRoom_nil g) maxDepth frame start _ 0
  · exact mem_edgesBelow_callTree start frame (full none)

end Metaprogram

end TemplateTrace
