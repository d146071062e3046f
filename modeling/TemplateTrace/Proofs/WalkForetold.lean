import TemplateTrace.Proofs.CallTreeGrowth
import TemplateTrace.Proofs.WalkSiblings

/-!
# The call graph of a frame foretells the walk

The call graph of the current frame is a traversal of its own, which begins with no vertex above
it and no mark made. The walk goes on from what it has: a path, marks, and edges that wait. In
full mode, on a graph without cycles, none of that matters. A vertex that is reached is never
above itself, so every vertex is entered whenever it is come by, and what lies below it is the
same tree wherever it is met: `grow_full_congr`, in which neither the vertices above, nor the
marks, nor the number of levels left has to be the same on both sides.

So an unfinished walk always has all that leaves the current vertex on top of what waits
(`waits_below`), and its steps come by the nodes of that tree, one for each
(`visits_forest`). What waits beside the path comes after them, and none of it leads deeper than
the current frame.
-/

namespace TemplateTrace

namespace CallTree

mutual

theorem nodesAt_add (tree : CallTree) (n depth : Nat) :
    tree.nodesAt (n + depth) =
      (tree.nodesAt depth).map fun node => { node with depth := n + node.depth } := by
  match tree with
  | .node frame children =>
      rw [nodesAt, nodesAt, List.map_cons, Nat.add_assoc,
        forestNodesAt_add children n (depth + 1)]

theorem forestNodesAt_add (trees : List CallTree) (n depth : Nat) :
    forestNodesAt (n + depth) trees =
      (forestNodesAt depth trees).map fun node => { node with depth := n + node.depth } := by
  match trees with
  | [] => rfl
  | tree :: others =>
      rw [forestNodesAt, forestNodesAt, List.map_append, nodesAt_add tree n depth,
        forestNodesAt_add others n depth]

end

end CallTree

namespace Metaprogram

/-- Nothing instantiates itself, directly or not. -/
def Acyclic (g : Metaprogram) : Prop := ∀ v, ¬ Relation.TransGen g.Joins v v

variable {g : Metaprogram} {mode : Mode} {limit : Option Nat} {room more : Nat}
  {above others : List VertexId} {seen marks : VertexSet} {frame : Frame} {v : VertexId}

/-- A graph has no cycle if its vertices can be ranked so that every edge leads upwards. -/
theorem WellFormed.acyclic (hg : g.WellFormed) (rank : VertexId → Nat)
    (h : ∀ e < g.edgeCount, rank (g.source e) < rank (g.target e)) : g.Acyclic := by
  have hjoins : ∀ u v, g.Joins u v → rank u < rank v := by
    rintro u v ⟨e, he, rfl⟩
    obtain ⟨hlt, rfl⟩ := hg.source_eq he
    exact h e hlt
  intro v hv
  have hlt : Relation.TransGen (fun a b : Nat => a < b) (rank v) (rank v) :=
    hv.lift rank hjoins
  rw [Relation.transGen_eq_self] at hlt
  exact Nat.lt_irrefl _ hlt

/-! ## One tree below a vertex -/

/-- Where no edge leaves, a tree is its root. -/
theorem grow_of_outEdges_nil (h : g.outEdges v = []) :
    (g.grow mode room limit above frame v seen).1 = .node frame [] := by
  cases room with
  | zero => rfl
  | succ room =>
      have hnone : g.followed mode limit above seen v = [] := by
        rw [followed, h, ite_self]
      rw [grow_succ, spread, hnone]
      rfl

theorem followed_of_above (hacyclic : g.Acyclic)
    (h : ∀ u ∈ above, Relation.TransGen g.Joins u v) :
    g.followed .full none above seen v = g.outEdges v := by
  have hv : v ∉ above := fun hmem => hacyclic v (h v hmem)
  rw [followed, if_pos (by simp [enters, hv])]

/-- Without cycles, what lies below a vertex in full mode depends on the vertex alone. -/
theorem grow_full_congr (hacyclic : g.Acyclic) (h : HasRoom g room above)
    (h' : HasRoom g more others) (habove : ∀ u ∈ above, Relation.TransGen g.Joins u v)
    (hothers : ∀ u ∈ others, Relation.TransGen g.Joins u v) (seen marks : VertexSet) :
    (g.grow .full room none above frame v seen).1 =
      (g.grow .full more none others frame v marks).1 := by
  induction room generalizing more above others frame v seen marks with
  | zero =>
      have hnone := h.outEdges_eq_nil fun hv => hacyclic v (habove v hv)
      rw [grow_of_outEdges_nil hnone, grow_of_outEdges_nil hnone]
  | succ room ih =>
      cases more with
      | zero =>
          have hnone := h'.outEdges_eq_nil fun hv => hacyclic v (hothers v hv)
          rw [grow_of_outEdges_nil hnone, grow_of_outEdges_nil hnone]
      | succ more =>
          have hbelow : ∀ {ws : List VertexId} {e}, e ∈ g.outEdges v →
              (∀ u ∈ ws, Relation.TransGen g.Joins u v) →
              ∀ u ∈ v :: ws, Relation.TransGen g.Joins u (g.target e) := by
            intro ws e he hws
            have hlast : g.Joins v (g.target e) := ⟨e, he, rfl⟩
            exact List.forall_mem_cons.2 ⟨.single hlast, fun u hu => (hws u hu).tail hlast⟩
          rw [grow_succ, grow_succ, spread, spread, followed_of_above hacyclic habove,
            followed_of_above hacyclic hothers]
          refine congrArg (CallTree.node frame)
            (List.forall₂_eq_eq_eq ▸ forall₂_visitAll (fun e he s t => ?_) _ _)
          have hlt := lt_of_mem_outEdges he
          exact ih (h.cons (fun hv => hacyclic v (habove v hv)) hlt)
            (h'.cons (fun hv => hacyclic v (hothers v hv)) hlt) (hbelow he habove)
            (hbelow he hothers) s t

end Metaprogram

namespace Cursor

open Worklist (pendingAt)

variable {g : Metaprogram} {c d : Cursor} {path : List EdgeId} {e : EdgeId} {u : VertexId}
  {m n : Nat}

/-! ## What waits on top -/

/-- Every vertex of a path leads to its end. -/
theorem Chain.reachable (hg : g.WellFormed) (h : Chain g path) (hu : u ∈ stations g path) :
    g.Reachable u (endOf g path) := by
  induction path with
  | nil =>
      cases List.mem_singleton.1 hu
      exact .refl
  | cons e before ih =>
      obtain ⟨he, hsource, hbefore⟩ := h
      rcases List.mem_cons.1 hu with rfl | hu
      · exact .refl
      · refine (ih hbefore hu).tail ⟨e, ?_, rfl⟩
        rw [← hsource]
        exact hg.mem_outEdges he

theorem Chain.leads (hg : g.WellFormed) (h : Chain g path)
    (he : e ∈ g.outEdges (endOf g path)) :
    ∀ u ∈ stations g path, Relation.TransGen g.Joins u (g.target e) :=
  fun _ hu => Relation.TransGen.tail' (h.reachable hg hu) ⟨e, he, rfl⟩

theorem Chain.nodup (hg : g.WellFormed) (hacyclic : g.Acyclic) (h : Chain g path) :
    (stations g path).Nodup := by
  induction path with
  | nil => exact List.pairwise_singleton _ _
  | cons e before ih =>
      obtain ⟨he, hsource, hbefore⟩ := h
      have hout : e ∈ g.outEdges (endOf g before) := by
        rw [← hsource]
        exact hg.mem_outEdges he
      refine List.nodup_cons.2 ⟨fun hmem => ?_, ih hbefore⟩
      exact hacyclic _ (hbefore.leads hg hout _ hmem)

/-- In full mode and without cycles a step adds all that leaves the vertex that it comes to. -/
theorem unfolded_of_acyclic (hg : g.WellFormed) (hacyclic : g.Acyclic)
    (hmode : g.mode = .full) (hc : Sound g c) {next : Pending} (hnext : next ∈ c.pending) :
    unfolded g c next = pendingFrom g (g.target next.edge) (next.depth + 1) := by
  have hchain : Chain g (next.edge :: upTo c.path (next.depth - 1)) :=
    ⟨hc.in_range next hnext, hc.source_eq next hnext, hc.chain.drop _⟩
  have hnew : onPath g (upTo c.path (next.depth - 1)) (g.target next.edge) = false := by
    rw [Bool.eq_false_iff, Ne, onPath_iff]
    exact (List.nodup_cons.1 (hchain.nodup hg hacyclic)).1
  rw [unfolded, hnew, hmode]
  rfl

/-- Whatever steps were made, all that leaves the current vertex waits on top. -/
theorem waits_below (hg : g.WellFormed) (hacyclic : g.Acyclic) (hmode : g.mode = .full)
    (h : steps? g n (start g) = some c) (hfin : c.finished = false) :
    c.pending = pendingAt (c.path.length + 1) (g.outEdges (endOf g c.path)) ++
      waitingBeside g c.path := by
  cases n with
  | zero =>
      cases h
      exact (List.append_nil _).symm
  | succ n =>
      rw [steps?_succ] at h
      obtain ⟨b, hb, hstep⟩ := Option.bind_eq_some_iff.1 h
      have hsound := sound_of_steps? hg hb
      obtain ⟨-, ⟨-, rfl⟩ | ⟨next, rest, hpending, rfl⟩⟩ := step?_cases hstep
      · cases hfin
      · have hdepth : (b.follow g next rest).path.length = next.depth :=
          hsound.depth_follow hpending
        rw [(awaits_of_steps? hg hb).pending_follow hg hsound hpending, hdepth,
          unfolded_of_acyclic hg hacyclic hmode hsound (mem_pending hpending)]
        rfl

/-! ## The steps that follow -/

/-- The steps from an unfinished walk come by what lies below the current frame, and then what
waits beside the path is on top. -/
theorem visits_callGraph (hg : g.WellFormed) (hacyclic : g.Acyclic) (hmode : g.mode = .full)
    (h : steps? g n (start g) = some c) (hfin : c.finished = false) :
    ∃ trees d, g.callTree (endOf g c.path) (frameOf g c.path) .full none =
        .node (frameOf g c.path) trees ∧
      Visits g c (CallTree.forestNodesAt (c.depth + 1) trees) d ∧
      d.finished = false ∧ Sound g d ∧ d.pending = waitingBeside g c.path := by
  have hc := sound_of_steps? hg h
  have hend : endOf g c.path ∈ stations g c.path := by
    cases c.path with
    | nil => exact List.mem_singleton_self _
    | cons e before => exact List.mem_cons_self
  have hlt := hc.chain.stations_lt hg _ hend
  obtain ⟨room, hroom⟩ := Nat.exists_eq_add_of_lt (Nat.zero_lt_of_lt hlt)
  rw [Nat.zero_add] at hroom
  have hpath : Metaprogram.HasRoom g g.vertexCount (stations g c.path) :=
    ⟨hc.chain.nodup hg hacyclic, hc.chain.stations_lt hg, Nat.le_add_right _ _⟩
  have hfirst : Metaprogram.HasRoom g room [endOf g c.path] := by
    have hnone := Metaprogram.hasRoom_nil g
    rw [hroom] at hnone
    exact hnone.cons List.not_mem_nil hlt
  obtain ⟨d, hvisits, hd⟩ := visits_forest (listsTree hg g.vertexCount) _ hc hfin
    (waits_below hg hacyclic hmode h hfin) (Nat.le_refl _) (Nat.le_add_right _ _)
  have hwhole : upTo c.path c.path.length = c.path := upTo_length
  rw [hwhole, hmode] at hvisits
  refine ⟨_, d, ?_, hvisits, hd.finished, hd.sound, hd.pending⟩
  have htree : g.followed .full none [] (.empty g.vertexCount) (endOf g c.path) =
      g.outEdges (endOf g c.path) :=
    Metaprogram.followed_of_above hacyclic fun _ hu => absurd hu List.not_mem_nil
  rw [Metaprogram.callTree, hroom, Metaprogram.grow_succ, Metaprogram.spread, ← hroom, htree]
  refine congrArg (CallTree.node _)
    (List.forall₂_eq_eq_eq ▸ forall₂_visitAll (fun e he s t => ?_) _ _)
  refine Metaprogram.grow_full_congr hacyclic hfirst hpath ?_ (hc.chain.leads hg he) s t
  exact List.forall_mem_singleton.2 (.single ⟨e, he, rfl⟩)

/-- In full mode and without cycles, whatever moves were made, the call graph of the current
frame lists what the next steps come by, each node as much deeper as the frame is. The step after
them ends the walk or comes to a frame no deeper than the current one. -/
theorem callGraph_foretells_steps {events : List Event} {mode : Mode}
    {rootName result : String} (h : Metaprogram.ofEvents events mode rootName result = .ok g)
    (hmode : g.mode = .full) (hacyclic : g.Acyclic) (moves : List Move)
    (hfin : (afterMoves g moves).finished = false) :
    let c := afterMoves g moves
    let nodes := c.callGraph g .full none
    (∀ i node, nodes[i]? = some node →
      ∃ b, steps? g i c = some b ∧ b.finished = false ∧ b.frame? g = some node.frame ∧
        b.depth = c.depth + node.depth) ∧
      ∃ b, steps? g nodes.length c = some b ∧ (b.finished = true ∨ b.depth ≤ c.depth) := by
  intro c nodes
  have hg := Metaprogram.wellFormed_ofEvents h
  have hcourse : OnCourse g c := onCourse_afterMoves g moves
  have hfin : c.finished = false := hfin
  obtain ⟨trees, d, htree, hvisits, hend, hsound, hpending⟩ :=
    visits_callGraph hg hacyclic hmode hcourse hfin
  have hnodes : nodes = { frame := frameOf g c.path, depth := 0, children := trees.length } ::
      CallTree.forestNodesAt 1 trees := by
    show c.callGraph g .full none = _
    rw [callGraph, if_neg (by simp [hfin]), Metaprogram.callGraph, htree]
    rfl
  have hdeeper := CallTree.forestNodesAt_add trees c.depth 1
  rw [hnodes]
  constructor
  · intro i node hi
    cases i with
    | zero =>
        cases hi
        exact ⟨c, rfl, hfin, by rw [frame?, if_neg (by simp [hfin])], rfl⟩
    | succ i =>
        rw [List.getElem?_cons_succ] at hi
        have hget : (CallTree.forestNodesAt (c.depth + 1) trees)[i]? =
            some { node with depth := c.depth + node.depth } := by
          rw [hdeeper, List.getElem?_map, hi]
          rfl
        exact hvisits.get hget
  · have hlen : (CallTree.forestNodesAt 1 trees).length =
        (CallTree.forestNodesAt (c.depth + 1) trees).length := by
      rw [hdeeper, List.length_map]
    rw [List.length_cons, steps?_succ, hlen, hvisits.steps?, Option.bind_some]
    cases hwaits : waitingBeside g c.path with
    | nil => exact ⟨_, step?_nil hend (hpending.trans hwaits), .inl rfl⟩
    | cons next rest =>
        rw [hwaits] at hpending
        refine ⟨_, step?_cons hend hpending, .inr ?_⟩
        rw [hsound.depth_follow hpending]
        refine depth_le_of_mem_waitingBeside (g := g) ?_
        rw [hwaits]
        exact List.mem_cons_self

/-- The second visit to `b` has been left and is come back to. What lies below it is found again,
and the walk ends after that. -/
theorem callGraph_foretells_steps_revisited :
    let g := (outline revisited).graph .full "main" "int"
    let c := afterMoves g [.stepInto 5, .stepBack]
    Metaprogram.ofEvents revisited .full "main" "int" = .ok g ∧ g.mode = .full ∧ g.Acyclic ∧
      c.finished = false ∧ c.path = [3] ∧ c.callGraph g .full none =
        [{ frame := g.edgeFrame 3, depth := 0, children := 1 },
          { frame := g.edgeFrame 2, depth := 1, children := 0 }] ∧
      (∃ b, steps? g 1 c = some b ∧ b.frame? g = some (g.edgeFrame 2) ∧ b.depth = 2) ∧
      ∃ b, steps? g 2 c = some b ∧ (b.finished = true ∨ b.depth ≤ 1) := by
  intro g c
  have h : Metaprogram.ofEvents revisited .full "main" "int" = .ok g :=
    Metaprogram.ofEvents_of_balanced balanced_revisited
  have hacyclic : g.Acyclic := (Metaprogram.wellFormed_ofEvents h).acyclic id (by decide)
  have hfin : c.finished = false := by decide
  have hnodes : c.callGraph g .full none =
      [{ frame := g.edgeFrame 3, depth := 0, children := 1 },
        { frame := g.edgeFrame 2, depth := 1, children := 0 }] := by decide
  have hpath : c.path = [3] := by decide
  have hdepth : c.depth = 1 := congrArg List.length hpath
  obtain ⟨hsteps, hlast⟩ :=
    callGraph_foretells_steps h rfl hacyclic [.stepInto 5, .stepBack] hfin
  obtain ⟨b, hb, -, hframe, hbelow⟩ := hsteps 1 _ (congrArg (·[1]?) hnodes)
  rw [hdepth] at hbelow
  rw [hnodes, hdepth] at hlast
  exact ⟨h, rfl, hacyclic, hfin, hpath, hnodes, ⟨b, hb, hframe, hbelow⟩, hlast⟩

end Cursor

end TemplateTrace
