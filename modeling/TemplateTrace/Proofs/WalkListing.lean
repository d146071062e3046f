import Mathlib.Data.List.Perm.Subperm
import TemplateTrace.Proofs.WalkPath

/-!
# Steps list the call graph

The call graph of the root and the walk are two traversals of one graph. The call graph is
grown by recursion: a vertex is handed the vertices above it and the marks made before it, and
hands back the marks made below it. The walk has no recursion. It has the path, the edges that
wait, and one set of marks.

`ListsTree` says what a walk does with one edge that waits on top: its steps visit the nodes of
the tree that the recursion grows below the edge, in pre-order, and then what waited under the
edge is on top again, with the marks that the recursion hands back and the path that it began
with. A row of edges is one after the other, `visits_forest`, and a tree is its root and a row,
`listsTree`. Both traversals decide alike whether to enter a vertex because they look at the
same things: `unfolded_eq` is that decision.

The recursion is also handed a number of levels that may follow. It never matters, because a
path of distinct vertices that is as long as there are vertices holds all of them
(`not_enters_of_full`).
-/

namespace TemplateTrace

namespace Cursor

variable {g : Metaprogram} {b c d : Cursor} {nodes more : List CallNode} {n room : Nat}
  {rest : List Pending}

/-! ## Steps that visit nodes -/

/-- Steps from one cursor to another that visit some nodes in order, none of them the end of
the walk. -/
def Visits (g : Metaprogram) : Cursor → List CallNode → Cursor → Prop
  | c, [], d => c = d
  | c, node :: rest, d => ∃ b, c.step? g = some b ∧ b.finished = false ∧
      b.frame? g = some node.frame ∧ b.depth = node.depth ∧ Visits g b rest d

theorem Visits.append (h : Visits g c nodes b) (h' : Visits g b more d) :
    Visits g c (nodes ++ more) d := by
  induction nodes generalizing c with
  | nil =>
      cases h
      exact h'
  | cons node rest ih =>
      obtain ⟨a, hstep, hfin, hframe, hdepth, hrest⟩ := h
      exact ⟨a, hstep, hfin, hframe, hdepth, ih hrest⟩

theorem Visits.steps? (h : Visits g c nodes d) : steps? g nodes.length c = some d := by
  induction nodes generalizing c with
  | nil =>
      cases h
      rfl
  | cons node rest ih =>
      obtain ⟨b, hstep, -, -, -, hrest⟩ := h
      rw [List.length_cons, Cursor.steps?, hstep]
      exact ih hrest

theorem Visits.get {node : CallNode} (h : Visits g c nodes d) (hn : nodes[n]? = some node) :
    ∃ b, Cursor.steps? g (n + 1) c = some b ∧ b.finished = false ∧
      b.frame? g = some node.frame ∧ b.depth = node.depth := by
  induction nodes generalizing c n with
  | nil => simp at hn
  | cons first rest ih =>
      obtain ⟨b, hstep, hfin, hframe, hdepth, hrest⟩ := h
      cases n with
      | zero =>
          cases hn
          exact ⟨b, by rw [steps?_one, hstep], hfin, hframe, hdepth⟩
      | succ n =>
          obtain ⟨a, ha, hnode⟩ := ih hrest hn
          exact ⟨a, by rw [Cursor.steps?, hstep]; exact ha, hnode⟩

/-! ## One decision -/

theorem contains_stations {path : List EdgeId} {v : VertexId} :
    (stations g path).contains v = onPath g path v := by
  rw [Bool.eq_iff_iff, List.contains_iff_mem, onPath_iff]

/-- The walk adds what leaves a vertex exactly when the recursion enters it. -/
theorem unfolded_eq (next : Pending) :
    unfolded g c next =
      if Metaprogram.enters g.mode none (stations g (upTo c.path (next.depth - 1)))
        c.discovered (g.target next.edge)
      then pendingFrom g (g.target next.edge) (next.depth + 1) else [] := by
  rw [unfolded, Metaprogram.enters, contains_stations]
  rfl

/-- A path of distinct vertices as long as there are vertices leaves none to enter. -/
theorem not_enters_of_full {mode : Mode} {limit : Option Nat} {path : List VertexId}
    {seen : VertexSet} {v : VertexId} {bound : Nat} (hnodup : path.Nodup)
    (hrange : ∀ u ∈ path, u < bound) (hv : v < bound) (hlen : bound ≤ path.length) :
    Metaprogram.enters mode limit path seen v = false := by
  have hsub : List.Subperm path (List.range bound) :=
    List.subperm_of_subset hnodup fun u hu => List.mem_range.2 (hrange u hu)
  have hperm := hsub.perm_of_length_le (by rwa [List.length_range])
  have hmem : v ∈ path := hperm.mem_iff.2 (List.mem_range.2 hv)
  rw [Metaprogram.enters, List.contains_iff_mem.2 hmem]
  simp

theorem Chain.stations_lt {path : List EdgeId} (hg : g.WellFormed) (h : Chain g path) :
    ∀ v ∈ stations g path, v < g.vertexCount := by
  intro v hv
  rw [stations, List.mem_append, List.mem_singleton, List.mem_map] at hv
  rcases hv with ⟨e, he, rfl⟩ | rfl
  · exact hg.target_lt (h.in_range e he)
  · exact hg.root_lt

/-! ## Trees and rows of trees -/

/-- The cursor `d` has done with all that waited above `rest`, and has kept the first `n`
edges of the path of `c`. -/
structure Lands (g : Metaprogram) (c d : Cursor) (n : Nat) (rest : List Pending)
    (seen : VertexSet) : Prop where
  finished : d.finished = false
  pending : d.pending = rest
  discovered : d.discovered = seen
  sound : Sound g d
  kept_le : n ≤ d.path.length
  kept_eq : upTo d.path n = upTo c.path n

/-- The steps from a cursor with an edge on top visit the tree that grows below the edge. -/
def ListsTree (g : Metaprogram) (room : Nat) : Prop :=
  ∀ (c : Cursor) (e : EdgeId) (n : Nat) (rest : List Pending), Sound g c →
    c.finished = false → c.pending = { edge := e, depth := n + 1 } :: rest →
    g.vertexCount ≤ room + (n + 1) →
    ∃ d, Visits g c ((g.grow g.mode room none (stations g (upTo c.path n)) (g.edgeFrame e)
        (g.target e) c.discovered).1.nodesAt (n + 1)) d ∧
      Lands g c d n rest (g.grow g.mode room none (stations g (upTo c.path n))
        (g.edgeFrame e) (g.target e) c.discovered).2

theorem visits_forest (hroom : ListsTree g room) (es : List EdgeId) (hc : Sound g c)
    (hfin : c.finished = false)
    (hpending : c.pending = es.map (fun edge => { edge, depth := n + 1 }) ++ rest)
    (hkept : n ≤ c.path.length) (hlen : g.vertexCount ≤ room + (n + 1)) :
    ∃ d, Visits g c (CallTree.forestNodesAt (n + 1)
        (visitAll (fun e => g.grow g.mode room none (stations g (upTo c.path n))
          (g.edgeFrame e) (g.target e)) es c.discovered).1) d ∧
      Lands g c d n rest (visitAll (fun e => g.grow g.mode room none
        (stations g (upTo c.path n)) (g.edgeFrame e) (g.target e)) es c.discovered).2 := by
  induction es generalizing c with
  | nil => exact ⟨c, rfl, hfin, hpending, rfl, hc, hkept, rfl⟩
  | cons e es ih =>
      obtain ⟨b, hfirst, hb⟩ := hroom c e n _ hc hfin hpending hlen
      obtain ⟨d, hothers, hd⟩ := ih hb.sound hb.finished hb.pending hb.kept_le
      rw [hb.kept_eq, hb.discovered] at hothers hd
      exact ⟨d, hfirst.append hothers, hd.finished, hd.pending, hd.discovered, hd.sound,
        hd.kept_le, hd.kept_eq.trans hb.kept_eq⟩

theorem Sound.kept_le {e : EdgeId} (hc : Sound g c)
    (hpending : c.pending = { edge := e, depth := n + 1 } :: rest) : n ≤ c.path.length :=
  Nat.le_of_succ_le_succ (hc.depth_le _ (mem_pending hpending))

theorem Sound.follow_lands {e : EdgeId} (hg : g.WellFormed) (hc : Sound g c)
    (hpending : c.pending = { edge := e, depth := n + 1 } :: rest) :
    Lands g c (c.follow g { edge := e, depth := n + 1 } rest) n
      (unfolded g c { edge := e, depth := n + 1 } ++ rest)
      (c.discovered.insert (g.target e)) := by
  have hn := hc.kept_le hpending
  have hlen := length_upTo hn
  refine ⟨rfl, rfl, rfl, hc.follow hg hpending, ?_, ?_⟩
  · rw [path_follow, List.length_cons, Nat.add_sub_cancel, hlen]
    exact Nat.le_succ n
  · rw [path_follow, Nat.add_sub_cancel, upTo_cons (Nat.le_of_eq hlen.symm),
      upTo_upTo (Nat.le_refl n) hn]

theorem visits_follow {e : EdgeId} {children : Nat} (hc : Sound g c)
    (hfin : c.finished = false)
    (hpending : c.pending = { edge := e, depth := n + 1 } :: rest)
    (h : Visits g (c.follow g { edge := e, depth := n + 1 } rest) nodes d) :
    Visits g c ({ frame := g.edgeFrame e, depth := n + 1, children } :: nodes) d := by
  refine ⟨_, step?_cons hfin hpending, rfl, rfl, ?_, h⟩
  rw [depth, path_follow, List.length_cons, Nat.add_sub_cancel,
    length_upTo (hc.kept_le hpending)]

/-- With no level left the path is as long as there are vertices, and the edge adds nothing. -/
theorem listsTree_zero (hg : g.WellFormed) : ListsTree g 0 := by
  intro c e n rest hc hfin hpending hlen
  have hmem := mem_pending hpending
  have hkept := hc.kept_le hpending
  have hlands := hc.follow_lands hg hpending
  have hleaf : Metaprogram.enters g.mode none (stations g (upTo c.path n)) c.discovered
      (g.target e) = false := by
    refine not_enters_of_full (hc.open_distinct _ hmem) ((hc.chain.drop _).stations_lt hg)
      (hg.target_lt (hc.in_range _ hmem)) ?_
    rw [length_stations, length_upTo hkept]
    omega
  rw [unfolded_eq, Nat.add_sub_cancel, hleaf] at hlands
  rw [Metaprogram.grow, CallTree.nodesAt, CallTree.forestNodesAt]
  exact ⟨_, visits_follow hc hfin hpending rfl, hlands⟩

/-- Where the recursion enters a vertex, the walk goes by the row of edges that leave it. -/
theorem listsTree_succ (hg : g.WellFormed) (ih : ListsTree g room) :
    ListsTree g (room + 1) := by
  intro c e n rest hc hfin hpending hlen
  have hkept := hc.kept_le hpending
  have hlands := hc.follow_lands hg hpending
  rw [unfolded_eq, Nat.add_sub_cancel] at hlands
  rw [Metaprogram.grow]
  have hvisit : ∀ {children nodes d},
      Visits g (c.follow g { edge := e, depth := n + 1 } rest) nodes d →
      Visits g c ({ frame := g.edgeFrame e, depth := n + 1, children } :: nodes) d :=
    fun h => visits_follow hc hfin hpending h
  have hpath : (c.follow g { edge := e, depth := n + 1 } rest).path = e :: upTo c.path n := rfl
  -- from here on the cursor after the step is known by its parts alone
  generalize c.follow g { edge := e, depth := n + 1 } rest = b at hlands hvisit hpath
  split
  · next henters =>
      rw [if_pos henters] at hlands
      have hpending' : b.pending = (g.outEdges (g.target e)).map
          (fun edge => { edge, depth := n + 1 + 1 }) ++ rest := hlands.pending
      have hlen' : b.path.length = n + 1 := by
        rw [hpath, List.length_cons, length_upTo hkept]
      have hwhole : upTo b.path (n + 1) = e :: upTo c.path n := by
        rw [← hlen', upTo_length, hpath]
      obtain ⟨d, hvisits, hd⟩ := visits_forest ih (g.outEdges (g.target e)) hlands.sound
        hlands.finished hpending' (Nat.le_of_eq hlen'.symm) (by omega)
      rw [hlands.discovered, hwhole, stations_cons] at hvisits hd
      refine ⟨d, hvisit hvisits, hd.finished, hd.pending, hd.discovered, hd.sound,
        Nat.le_of_succ_le hd.kept_le, ?_⟩
      rw [← upTo_upTo (Nat.le_succ n) hd.kept_le, hd.kept_eq,
        upTo_upTo (Nat.le_succ n) (Nat.le_of_eq hlen'.symm), hlands.kept_eq]
  · next hleaf =>
      rw [if_neg hleaf] at hlands
      rw [CallTree.nodesAt, CallTree.forestNodesAt]
      exact ⟨b, hvisit rfl, hlands⟩

theorem listsTree (hg : g.WellFormed) (room : Nat) : ListsTree g room := by
  induction room with
  | zero => exact listsTree_zero hg
  | succ room ih => exact listsTree_succ hg ih

/-! ## The whole walk -/

/-- The call tree of the root has below it what the steps from the start visit, and after
those nothing waits. -/
theorem visits_callTree (hg : g.WellFormed) :
    ∃ trees d, g.callTree Metaprogram.root g.rootFrame g.mode none = .node g.rootFrame trees ∧
      Visits g (start g) (CallTree.forestNodesAt 1 trees) d ∧ d.finished = false ∧
      d.pending = [] := by
  obtain ⟨room, hroom⟩ := Nat.exists_eq_add_of_lt hg.root_lt
  rw [Metaprogram.root, Nat.zero_add] at hroom
  have hgrow : ∀ seen, g.grow g.mode g.vertexCount none [] g.rootFrame Metaprogram.root seen =
      g.grow g.mode (room + 1) none [] g.rootFrame Metaprogram.root seen :=
    fun seen => by rw [← hroom]
  have henters : Metaprogram.enters g.mode none [] (VertexSet.empty g.vertexCount)
      Metaprogram.root = true := by
    simp [Metaprogram.enters]
  have hpending : (start g).pending =
      (g.outEdges Metaprogram.root).map (fun edge => { edge, depth := 0 + 1 }) ++ [] :=
    (List.append_nil _).symm
  obtain ⟨d, hvisits, hd⟩ := visits_forest (listsTree hg room) (g.outEdges Metaprogram.root)
    (sound_start hg) rfl hpending (Nat.zero_le _) (Nat.le_of_eq hroom)
  refine ⟨_, d, ?_, hvisits, hd.finished, hd.pending⟩
  rw [Metaprogram.callTree, hgrow, Metaprogram.grow, if_pos henters]
  rfl

/-- The steps from the start come by the nodes of the call graph in their order, one for each,
and the step after the last node ends the walk for good. -/
theorem steps_list_callGraph {events : List Event} {mode : Mode} {rootName result : String}
    (h : Metaprogram.ofEvents events mode rootName result = .ok g) :
    let nodes := g.callGraph Metaprogram.root g.rootFrame g.mode none
    (∀ i node, nodes[i]? = some node →
      ∃ c, steps? g i (start g) = some c ∧ c.finished = false ∧
        c.frame? g = some node.frame ∧ c.depth = node.depth) ∧
      ∃ c, steps? g nodes.length (start g) = some c ∧ c.finished = true ∧
        c.step? g = none := by
  have hg := Metaprogram.wellFormed_ofEvents h
  obtain ⟨trees, d, htree, hvisits, hfin, hpending⟩ := visits_callTree hg
  rw [Metaprogram.callGraph, htree, CallTree.nodes, CallTree.nodesAt]
  constructor
  · intro i node hi
    cases i with
    | zero =>
        cases hi
        exact ⟨start g, rfl, rfl, rfl, rfl⟩
    | succ i => exact hvisits.get hi
  · refine ⟨{ d with finished := true, history := .finish :: d.history }, ?_, rfl,
      step?_finished rfl⟩
    rw [List.length_cons, steps?_succ, hvisits.steps?]
    exact step?_nil hfin hpending

theorem steps_list_callGraph_entwined :
    ∃ g, Metaprogram.ofEvents entwined .full "main" "int" = .ok g ∧
      (g.callGraph Metaprogram.root g.rootFrame g.mode none).length = 8 ∧
      ∃ c, steps? g 8 (start g) = some c ∧ c.finished = true ∧ c.step? g = none := by
  have h : Metaprogram.ofEvents entwined .full "main" "int" = .ok _ :=
    Metaprogram.ofEvents_of_balanced balanced_entwined
  refine ⟨_, h, by decide, ?_⟩
  exact (steps_list_callGraph h).2

end Cursor

end TemplateTrace
