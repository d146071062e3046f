import Mathlib.Data.List.Sort
import TemplateTrace.Proofs.CallGraphWorklist

/-!
# Full call graphs enumerate routes

In full mode nothing but the vertices above a vertex decides whether it is entered. So a call
graph in full mode has one node for each way from the start that leaves no vertex twice, and the
order of the nodes is the order of these ways by the places of their edges among the edges that
leave each vertex, `callGraph_full_eq_routes`.

A way is a `Route`: the edges in order, each with its place. That a place determines an edge and
the places determine the order is why both are kept. `routesBelow` lists the routes by the same
recursion as the tree grows. Its three properties are then separate inductions: which routes it
holds (`mem_routesBelow`), in which order (`routesBelow_sorted`), and that the tree lists their
nodes (`nodesAt_grow_full`).

Sorted lists with the same members are equal, and from that follows what a limit of the depth
does: it leaves the routes that are short enough. That a worklist, which has one path for all
routes, comes by the same nodes is `Worklist.lists_callGraph`.
-/

namespace TemplateTrace

/-- Some edges in order, each with its place among the edges that leave its vertex. -/
abbrev Route := List (Nat × EdgeId)

/-- The order of routes by the places of their edges; a route comes before what extends it. -/
def Precedes (r s : Route) : Prop := r.map Prod.fst < s.map Prod.fst

namespace Metaprogram

/-- Each edge of a route leaves the vertex that the edges before it lead to, at its place. -/
def IsRoute (g : Metaprogram) : VertexId → Route → Prop
  | _, [] => True
  | v, (i, e) :: rest => (g.outEdges v)[i]? = some e ∧ IsRoute g (g.target e) rest

/-- The vertices that a route from `v` leaves. -/
def departures (g : Metaprogram) : VertexId → Route → List VertexId
  | _, [] => []
  | v, (_, e) :: rest => v :: departures g (g.target e) rest

/-- The vertex at which a route from `v` ends. -/
def arrival (g : Metaprogram) : VertexId → Route → VertexId
  | v, [] => v
  | _, (_, e) :: rest => arrival g (g.target e) rest

/-- The frame at the end of a route: that of its last edge, or `frame` if there is none. -/
def routeFrame (g : Metaprogram) (frame : Frame) (r : Route) : Frame :=
  match r.getLast? with
  | none => frame
  | some (_, e) => g.edgeFrame e

/-- The node that a route from `start` ends at. -/
def routeNode (g : Metaprogram) (start : VertexId) (frame : Frame) (maxDepth : Option Nat)
    (r : Route) : CallNode :=
  { frame := g.routeFrame frame r
    depth := r.length
    children :=
      if g.arrival start r ∉ g.departures start r ∧ maxDepth.all (r.length < ·)
      then (g.outEdges (g.arrival start r)).length else 0 }

/-- The nodes down to a depth, those at that depth as leaves. -/
def cutAt (depth : Nat) (nodes : List CallNode) : List CallNode :=
  (nodes.filter (·.depth ≤ depth)).map fun n =>
    if n.depth = depth then { n with children := 0 } else n

/-- The routes from `v` by which a traversal goes on that has come by the vertices `above`. -/
def routesBelow (g : Metaprogram) :
    (room : Nat) → (limit : Option Nat) → (above : List VertexId) → VertexId → List Route
  | 0, _, _, _ => [[]]
  | room + 1, limit, above, v =>
      [] :: (g.followed .full limit above (.empty 0) v).zipIdx.flatMap fun (e, i) =>
        (routesBelow g room (limit.map (· - 1)) (v :: above) (g.target e)).map ((i, e) :: ·)

/-- The node that a route from `v` ends at, below the vertices `above`. -/
def nodeBelow (g : Metaprogram) :
    (limit : Option Nat) → (above : List VertexId) → Frame → VertexId → (depth : Nat) →
      Route → CallNode
  | limit, above, frame, v, depth, [] =>
      { frame, depth, children := (g.followed .full limit above (.empty 0) v).length }
  | limit, above, _, v, depth, (_, e) :: rest =>
      nodeBelow g (limit.map (· - 1)) (v :: above) (g.edgeFrame e) (g.target e) (depth + 1) rest

variable {g : Metaprogram} {limit : Option Nat} {room i : Nat} {above : List VertexId}
  {seen : VertexSet} {v : VertexId} {e : EdgeId} {r s : Route}

/-! ## Entering in full mode -/

theorem enters_full_iff : enters .full limit above seen v = true ↔
    (∀ m ∈ limit, 0 < m) ∧ v ∉ above := by
  cases limit with
  | none => simp [enters]
  | some m => simp [enters, Nat.pos_iff_ne_zero]

/-- The marks do not matter in full mode. -/
theorem followed_full_seen (seen : VertexSet) :
    g.followed .full limit above seen v = g.followed .full limit above (.empty 0) v := rfl

theorem getElem?_followed_full : (g.followed .full limit above seen v)[i]? = some e ↔
    (∀ m ∈ limit, 0 < m) ∧ v ∉ above ∧ (g.outEdges v)[i]? = some e := by
  rw [followed]
  split
  · next henters =>
      obtain ⟨hlimit, hv⟩ := enters_full_iff.1 henters
      exact ⟨fun he => ⟨hlimit, hv, he⟩, fun he => he.2.2⟩
  · next hleaf =>
      constructor
      · intro he
        simp at he
      · exact fun he => absurd (enters_full_iff.2 ⟨he.1, he.2.1⟩) hleaf

/-! ## Which routes there are -/

theorem nil_mem_routesBelow : [] ∈ g.routesBelow room limit above v := by
  cases room with
  | zero => exact List.mem_singleton_self _
  | succ room => exact List.mem_cons_self

theorem cons_mem_routesBelow : (i, e) :: r ∈ g.routesBelow (room + 1) limit above v ↔
    (g.followed .full limit above (.empty 0) v)[i]? = some e ∧
      r ∈ g.routesBelow room (limit.map (· - 1)) (v :: above) (g.target e) := by
  rw [routesBelow, List.mem_cons]
  simp only [List.cons_ne_nil, false_or, List.mem_flatMap, List.mem_map, List.cons.injEq,
    Prod.mk.injEq, List.mem_zipIdx_iff_getElem?]
  constructor
  · rintro ⟨⟨e', i'⟩, hplace, r', hr, ⟨rfl, rfl⟩, rfl⟩
    exact ⟨hplace, hr⟩
  · rintro ⟨hplace, hr⟩
    exact ⟨(e, i), hplace, r, hr, ⟨rfl, rfl⟩, rfl⟩

/-- The routes below some vertices are those that leave none of them, and no other twice. -/
theorem mem_routesBelow (h : HasRoom g room above) : r ∈ g.routesBelow room limit above v ↔
    g.IsRoute v r ∧ (g.departures v r).Nodup ∧ (∀ u ∈ g.departures v r, u ∉ above) ∧
      ∀ m ∈ limit, r.length ≤ m := by
  induction r generalizing room limit above v with
  | nil => simp [nil_mem_routesBelow, IsRoute, departures]
  | cons step r ih =>
      obtain ⟨i, e⟩ := step
      cases room with
      | zero =>
          constructor
          · intro hr
            simp [routesBelow] at hr
          · -- no room is left, so the vertex has no edge for a route to begin with
            rintro ⟨⟨hplace, -⟩, -, hfresh, -⟩
            rw [h.outEdges_eq_nil (hfresh v List.mem_cons_self)] at hplace
            simp at hplace
      | succ room =>
          rw [cons_mem_routesBelow, getElem?_followed_full]
          constructor
          · rintro ⟨⟨hlimit, hv, hplace⟩, hr⟩
            have hlt := lt_of_mem_outEdges (List.mem_of_getElem? hplace)
            obtain ⟨hroute, hnodup, hfresh, hlen⟩ := (ih (h.cons hv hlt)).1 hr
            refine ⟨⟨hplace, hroute⟩, ?_, ?_, ?_⟩
            · exact List.nodup_cons.2 ⟨fun hmem => hfresh v hmem List.mem_cons_self, hnodup⟩
            · exact List.forall_mem_cons.2
                ⟨hv, fun u hu hmem => hfresh u hu (List.mem_cons_of_mem _ hmem)⟩
            · rintro m rfl
              have hpos := hlimit m rfl
              have hle := hlen (m - 1) rfl
              rw [List.length_cons]
              omega
          · rintro ⟨⟨hplace, hroute⟩, hnodup, hfresh, hlen⟩
            obtain ⟨hv, hfresh⟩ := List.forall_mem_cons.1 hfresh
            obtain ⟨hnew, hnodup⟩ := List.nodup_cons.1 hnodup
            have hlt := lt_of_mem_outEdges (List.mem_of_getElem? hplace)
            refine ⟨⟨fun m hm => ?_, hv, hplace⟩,
              (ih (h.cons hv hlt)).2 ⟨hroute, hnodup, fun u hu hmem => ?_, ?_⟩⟩
            · exact Nat.lt_of_lt_of_le (Nat.succ_pos _) (hlen m hm)
            · rcases List.mem_cons.1 hmem with rfl | hmem
              · exact hnew hu
              · exact hfresh u hu hmem
            · intro m hm
              obtain ⟨m', hm', rfl⟩ := Option.map_eq_some_iff.1 hm
              have hle := hlen m' hm'
              rw [List.length_cons] at hle
              omega

/-! ## In which order they come -/

theorem precedes_cons_iff {j : Nat} {f : EdgeId} :
    Precedes ((i, e) :: r) ((j, f) :: s) ↔ i < j ∨ i = j ∧ Precedes r s :=
  List.cons_lt_cons_iff

theorem nil_precedes : Precedes [] ((i, e) :: r) := List.nil_lt_cons _ _

theorem zipIdx_sorted {α : Type} (l : List α) : l.zipIdx.Pairwise fun a b => a.2 < b.2 := by
  rw [← List.pairwise_map (f := Prod.snd) (R := (· < ·)), List.zipIdx_map_snd]
  exact List.pairwise_lt_range'

theorem routesBelow_sorted (room : Nat) (limit : Option Nat) (above : List VertexId)
    (v : VertexId) : (g.routesBelow room limit above v).Pairwise Precedes := by
  induction room generalizing limit above v with
  | zero => exact List.pairwise_singleton _ _
  | succ room ih =>
      rw [routesBelow, List.pairwise_cons, List.pairwise_flatMap]
      refine ⟨fun r hr => ?_, fun (e, i) _ => ?_, (zipIdx_sorted _).imp ?_⟩
      · obtain ⟨⟨e, i⟩, -, hr⟩ := List.mem_flatMap.1 hr
        obtain ⟨r, -, rfl⟩ := List.mem_map.1 hr
        exact nil_precedes
      · refine List.pairwise_map.2 ((ih _ _ _).imp fun h => ?_)
        exact precedes_cons_iff.2 (.inr ⟨rfl, h⟩)
      · rintro ⟨e, i⟩ ⟨f, j⟩ hij r hr s hs
        obtain ⟨r, -, rfl⟩ := List.mem_map.1 hr
        obtain ⟨s, -, rfl⟩ := List.mem_map.1 hs
        exact precedes_cons_iff.2 (.inl hij)

/-! ## Their nodes -/

theorem routeFrame_cons (frame : Frame) :
    g.routeFrame frame ((i, e) :: r) = g.routeFrame (g.edgeFrame e) r := by
  rw [routeFrame, routeFrame, List.getLast?_cons]
  cases r.getLast? <;> rfl

theorem length_followed_full : (g.followed .full limit above seen v).length =
    if v ∉ above ∧ limit.all (0 < ·) then (g.outEdges v).length else 0 := by
  have hiff : enters .full limit above seen v = true ↔ v ∉ above ∧ limit.all (0 < ·) := by
    rw [enters_full_iff, and_comm]
    cases limit <;> simp
  rw [followed]
  by_cases h : enters .full limit above seen v = true
  · rw [if_pos h, if_pos (hiff.1 h)]
  · rw [if_neg h, if_neg (mt hiff.2 h)]
    rfl

theorem nodeBelow_eq (limit : Option Nat) (above : List VertexId) (frame : Frame)
    (v : VertexId) (depth : Nat) (r : Route) :
    g.nodeBelow limit above frame v depth r =
      { frame := g.routeFrame frame r
        depth := depth + r.length
        children :=
          if g.arrival v r ∉ above ++ g.departures v r ∧ limit.all (r.length < ·)
          then (g.outEdges (g.arrival v r)).length else 0 } := by
  induction r generalizing limit above frame v depth with
  | nil =>
      rw [nodeBelow, length_followed_full, departures, List.append_nil]
      rfl
  | cons step r ih =>
      obtain ⟨i, e⟩ := step
      have hmem : g.arrival (g.target e) r ∈ (v :: above) ++ g.departures (g.target e) r ↔
          g.arrival (g.target e) r ∈ above ++ v :: g.departures (g.target e) r := by
        simp only [List.mem_append, List.mem_cons]
        exact or_assoc.trans or_left_comm
      have hlimit : (limit.map (· - 1)).all (r.length < ·) =
          limit.all (((i, e) :: r).length < ·) := by
        cases limit with
        | none => rfl
        | some m => simp [Nat.lt_sub_iff_add_lt]
      rw [nodeBelow, ih, routeFrame_cons, arrival, departures, List.length_cons,
        Nat.add_assoc, Nat.add_comm 1]
      simp only [hmem, hlimit, List.length_cons]

theorem routeNode_eq_nodeBelow (start : VertexId) (frame : Frame) (maxDepth : Option Nat)
    (r : Route) : g.routeNode start frame maxDepth r =
      g.nodeBelow maxDepth [] frame start 0 r := by
  rw [nodeBelow_eq, List.nil_append, Nat.zero_add]
  rfl

theorem forestNodesAt_visitAll {visit : EdgeId → VertexSet → CallTree × VertexSet}
    {es : List EdgeId} {depth : Nat} {nodes : EdgeId → List CallNode}
    (h : ∀ e ∈ es, ∀ seen, (visit e seen).1.nodesAt depth = nodes e) (seen : VertexSet) :
    CallTree.forestNodesAt depth (visitAll visit es seen).1 = es.flatMap nodes := by
  induction es generalizing seen with
  | nil => rfl
  | cons e es ih =>
      obtain ⟨hfirst, hothers⟩ := List.forall_mem_cons.1 h
      rw [List.flatMap_cons, ← hfirst seen, ← ih hothers (visit e seen).2]
      rfl

/-- A tree in full mode lists the ends of the routes. -/
theorem nodesAt_grow_full (h : HasRoom g room above) (seen : VertexSet) (frame : Frame)
    (depth : Nat) : (g.grow .full room limit above frame v seen).1.nodesAt depth =
      (g.routesBelow room limit above v).map (g.nodeBelow limit above frame v depth) := by
  induction room generalizing limit above frame v depth seen with
  | zero =>
      rw [grow, routesBelow, List.map_singleton, nodeBelow, h.followed_eq_nil]
      rfl
  | succ room ih =>
      have hbelow : ∀ e ∈ g.followed .full limit above (.empty 0) v, ∀ seen,
          (g.grow .full room (limit.map (· - 1)) (v :: above) (g.edgeFrame e) (g.target e)
            seen).1.nodesAt (depth + 1) =
          (g.routesBelow room (limit.map (· - 1)) (v :: above) (g.target e)).map
            (g.nodeBelow (limit.map (· - 1)) (v :: above) (g.edgeFrame e) (g.target e)
              (depth + 1)) := fun e he seen => by
        obtain ⟨henters, hout⟩ := mem_followed.1 he
        exact ih (h.cons (not_mem_of_enters henters) (lt_of_mem_outEdges hout)) ..
      rw [grow_succ, nodesAt_spread, routesBelow, List.map_cons, nodeBelow,
        followed_full_seen seen, forestNodesAt_visitAll hbelow, List.map_flatMap]
      congr 1
      -- the places of the edges do not show in the nodes
      conv_lhs => rw [← List.zipIdx_map_fst 0 (g.followed .full limit above (.empty 0) v)]
      rw [List.flatMap_map]
      refine List.flatMap_congr fun step _ => ?_
      rw [List.map_map]
      rfl

/-! ## Full call graphs -/

/-- The routes from a vertex that leave no vertex twice, down to a depth. -/
theorem exists_routes (g : Metaprogram) (start : VertexId) (frame : Frame)
    (maxDepth : Option Nat) :
    ∃ routes : List Route,
      (∀ r, r ∈ routes ↔ g.IsRoute start r ∧ (g.departures start r).Nodup ∧
        ∀ m ∈ maxDepth, r.length ≤ m) ∧
      routes.Pairwise Precedes ∧
      g.callGraph start frame .full maxDepth =
        routes.map (g.routeNode start frame maxDepth) := by
  refine ⟨g.routesBelow g.vertexCount maxDepth [] start, fun r => ?_,
    routesBelow_sorted _ _ _ _, ?_⟩
  · rw [mem_routesBelow (hasRoom_nil g)]
    simp
  · rw [callGraph, callTree, CallTree.nodes, nodesAt_grow_full (hasRoom_nil g)]
    exact List.map_congr_left fun r _ => (routeNode_eq_nodeBelow start frame maxDepth r).symm

instance : Std.Irrefl Precedes := ⟨fun r => List.lt_irrefl (r.map Prod.fst)⟩

instance : Std.Antisymm Precedes := ⟨fun _ _ h h' => absurd h' (List.lt_asymm h)⟩

theorem cutAt_map_routeNode (start : VertexId) (frame : Frame) (depth : Nat)
    (routes : List Route) :
    cutAt depth (routes.map (g.routeNode start frame none)) =
      (routes.filter fun r => r.length ≤ depth).map
        (g.routeNode start frame (some depth)) := by
  rw [cutAt, List.filter_map, List.map_map]
  refine List.map_congr_left fun r hr => ?_
  have hle : r.length ≤ depth := of_decide_eq_true (List.mem_filter.1 hr).2
  by_cases hlast : r.length = depth
  · simp [routeNode, hlast]
  · have hlt : r.length < depth := Nat.lt_of_le_of_ne hle hlast
    simp [routeNode, hlast, hlt]

/-- In full mode a call graph lists the routes that leave no vertex twice, each once and in
order, as a worklist does that has one path for all of them. A limit of the depth cuts the list
that there is without it. -/
theorem callGraph_full_eq_routes (g : Metaprogram) (start : VertexId) (frame : Frame)
    (maxDepth : Option Nat) :
    (∃ routes : List Route,
      (∀ r, r ∈ routes ↔ g.IsRoute start r ∧ (g.departures start r).Nodup ∧
        ∀ m ∈ maxDepth, r.length ≤ m) ∧
      routes.Pairwise Precedes ∧
      g.callGraph start frame .full maxDepth =
        routes.map (g.routeNode start frame maxDepth) ∧
      ∃ visits d, Worklist.Lists g .full maxDepth (.start g start frame) visits d ∧
        d.waiting = [] ∧
        visits.map Prod.snd = routes.map (g.routeNode start frame maxDepth)) ∧
    ∀ m, g.callGraph start frame .full (some m) =
      cutAt m (g.callGraph start frame .full none) := by
  obtain ⟨routes, hmem, hsorted, hnodes⟩ := exists_routes g start frame maxDepth
  obtain ⟨visits, d, hlists, hdone, hvisits⟩ :=
    Worklist.lists_callGraph g start frame .full maxDepth
  refine ⟨⟨routes, hmem, hsorted, hnodes, visits, d, hlists, hdone, hvisits.trans hnodes⟩,
    fun m => ?_⟩
  obtain ⟨routes, hmem, hsorted, hnodes⟩ := exists_routes g start frame none
  obtain ⟨short, hmemShort, hsortedShort, hnodesShort⟩ := exists_routes g start frame (some m)
  have hshort : short = routes.filter fun r => r.length ≤ m := by
    refine hsortedShort.eq_of_mem_iff (hsorted.filter _) fun r => ?_
    rw [hmemShort, List.mem_filter, hmem]
    simp [and_assoc]
  rw [hnodes, hnodesShort, hshort, cutAt_map_routeNode]

end Metaprogram

end TemplateTrace
