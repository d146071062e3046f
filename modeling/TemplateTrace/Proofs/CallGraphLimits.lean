import TemplateTrace.Proofs.CallGraphCoverage
import TemplateTrace.Proofs.CallGraphRoutes

/-!
# What a limit of the depth hides

A limit of the depth keeps the vertices at that depth from being entered. In full mode that
hides what is deeper and nothing else. In normal mode it can hide more: a vertex whose first
visit is at the limit is not entered then, and not at a later visit either, because it has been
seen, even if that one is above the limit. What lies below it is then missing although another
way to it is short enough, `callGraph_limit_hides_near`.

Nothing else is lost. What a normal call graph with a limit lists is what can be reached by
edges that leave vertices listed first above the limit, `callGraph_limited_lists`, since such a
first entry has all its edges below it and no other entry has any. The argument is once more about the worklist: whenever it has listed a vertex first above the limit, each
edge that leaves the vertex leads to one that is listed or waits to be (`Limited.opened`), and
each visit that waits is reached through such vertices, by as many edges as it is deep
(`Limited.awaited`).
-/

namespace TemplateTrace

/-- The depth at which a vertex is listed first. -/
def firstDepth? (visits : List (VertexId × CallNode)) (v : VertexId) : Option Nat :=
  (visits.find? (·.1 == v)).map (·.2.depth)

section FirstDepth

variable {visits : List (VertexId × CallNode)} {n : CallNode} {u v : VertexId} {d : Nat}

theorem firstDepth?_eq_none : firstDepth? visits v = none ↔ v ∉ visits.map Prod.fst := by
  rw [firstDepth?, Option.map_eq_none_iff, List.find?_eq_none, List.mem_map]
  simp only [beq_iff_eq, not_exists, not_and]

theorem firstDepth?_concat : firstDepth? (visits ++ [(v, n)]) u =
    (firstDepth? visits u).or (if v = u then some n.depth else none) := by
  rw [firstDepth?, List.find?_append, firstDepth?]
  cases visits.find? (·.1 == u) with
  | some visit => rfl
  | none =>
      by_cases h : v = u
      · simp [h]
      · simp [h]

theorem firstDepth?_new (h : v ∉ visits.map Prod.fst) :
    firstDepth? (visits ++ [(v, n)]) v = some n.depth := by
  rw [firstDepth?_concat, firstDepth?_eq_none.2 h, if_pos rfl]
  rfl

theorem firstDepth?_append (h : firstDepth? visits u = some d) :
    firstDepth? (visits ++ [(v, n)]) u = some d := by
  rw [firstDepth?_concat, h]
  rfl

theorem mem_of_firstDepth? (h : firstDepth? visits v = some d) :
    ∃ visit ∈ visits, visit.1 = v ∧ visit.2.depth = d := by
  obtain ⟨visit, hfind, hdepth⟩ := Option.map_eq_some_iff.1 h
  have hv := List.find?_some hfind
  rw [beq_iff_eq] at hv
  exact ⟨visit, List.mem_of_find?_eq_some hfind, hv, hdepth⟩

end FirstDepth

namespace Metaprogram

variable {g : Metaprogram} {start v : VertexId} {r s : Route} {e : EdgeId} {m d : Nat}
  {visits : List (VertexId × CallNode)} {n : CallNode}

theorem arrival_append : g.arrival v (r ++ s) = g.arrival (g.arrival v r) s := by
  induction r generalizing v with
  | nil => rfl
  | cons step r ih => exact ih

theorem departures_append :
    g.departures v (r ++ s) = g.departures v r ++ g.departures (g.arrival v r) s := by
  induction r generalizing v with
  | nil => rfl
  | cons step r ih => exact congrArg (v :: ·) ih

theorem isRoute_append :
    g.IsRoute v (r ++ s) ↔ g.IsRoute v r ∧ g.IsRoute (g.arrival v r) s := by
  induction r generalizing v with
  | nil => exact (iff_of_eq (true_and _)).symm
  | cons step r ih =>
      rw [List.cons_append, IsRoute, IsRoute, ih, and_assoc]
      rfl

/-- Some route with `d` edges leads to a vertex, and it leaves only vertices that are listed
first above the limit. -/
def Near (g : Metaprogram) (start : VertexId) (m : Nat) (visits : List (VertexId × CallNode))
    (v : VertexId) (d : Nat) : Prop :=
  d ≤ m ∧ ∃ r, g.IsRoute start r ∧ r.length = d ∧ g.arrival start r = v ∧
    ∀ u ∈ g.departures start r, ∃ k < m, firstDepth? visits u = some k

theorem Near.concat (h : g.Near start m visits v d) (w : VertexId) (n : CallNode) :
    g.Near start m (visits ++ [(w, n)]) v d := by
  obtain ⟨hd, r, hroute, hlen, harrival, hopen⟩ := h
  refine ⟨hd, r, hroute, hlen, harrival, fun u hu => ?_⟩
  obtain ⟨k, hk, hfirst⟩ := hopen u hu
  exact ⟨k, hk, firstDepth?_append hfirst⟩

/-- One edge more, if the vertex that it leaves is listed first above the limit. -/
theorem Near.along (h : g.Near start m visits v d) (hd : d < m)
    (hfirst : firstDepth? visits v = some d) (he : e ∈ g.outEdges v) :
    g.Near start m visits (g.target e) (d + 1) := by
  obtain ⟨-, r, hroute, hlen, rfl, hopen⟩ := h
  obtain ⟨i, hi⟩ := List.mem_iff_getElem?.1 he
  refine ⟨hd, r ++ [(i, e)], isRoute_append.2 ⟨hroute, hi, trivial⟩, ?_, ?_, ?_⟩
  · rw [List.length_append, hlen, List.length_singleton]
  · rw [arrival_append]
    rfl
  · rw [departures_append, List.forall_mem_append]
    exact ⟨hopen, List.forall_mem_singleton.2 ⟨d, hd, hfirst⟩⟩

end Metaprogram

namespace Worklist

open Metaprogram

variable {g : Metaprogram} {start u v : VertexId} {e : EdgeId} {frame : Frame} {m d : Nat}
  {w b : Worklist} {visit : VertexId × CallNode} {visits : List (VertexId × CallNode)}
  {next : Visit} {rest : List Visit}

/-- A vertex is listed or waits to be. -/
def Comes (visits : List (VertexId × CallNode)) (w : Worklist) (v : VertexId) : Prop :=
  v ∈ visits.map Prod.fst ∨ ∃ next ∈ w.waiting, next.vertex = v

/-- A worklist in normal mode with a limit, and the visits that led to it. -/
structure Limited (g : Metaprogram) (start : VertexId) (m : Nat)
    (visits : List (VertexId × CallNode)) (w : Worklist) : Prop extends Marks g visits w where
  listed : ∀ visit ∈ visits, g.Near start m visits visit.1 visit.2.depth
  awaited : ∀ next ∈ w.waiting,
    next.vertex < g.vertexCount ∧ g.Near start m visits next.vertex next.depth
  begun : Comes visits w start
  opened : ∀ u d, firstDepth? visits u = some d → d < m →
    ∀ e ∈ g.outEdges u, Comes visits w (g.target e)
  /-- Only the first entry of a vertex has anything below it, if it is above the limit. -/
  children : ∀ i visit, visits[i]? = some visit → visit.2.children =
    if visit.2.depth = m ∨ visit.1 ∈ (visits.take i).map Prod.fst then 0
    else (g.outEdges visit.1).length

theorem limited_start (hs : start < g.vertexCount) :
    Limited g start m [] (Worklist.start g start frame) where
  toMarks := marks_start g start frame
  listed := fun _ hv => absurd hv List.not_mem_nil
  awaited := List.forall_mem_singleton.2
    ⟨hs, Nat.zero_le m, [], trivial, rfl, rfl, fun _ hu => absurd hu List.not_mem_nil⟩
  begun := .inr ⟨_, List.mem_singleton_self _, rfl⟩
  opened := fun _ _ hfirst => nomatch hfirst
  children := fun _ _ hvisit => nomatch hvisit

/-- With a limit only a first visit above it is followed by others. -/
theorem Limited.mem_followed (h : Limited g start m visits w) :
    e ∈ w.followed g .normal (some m) next ↔
      next.depth < m ∧ next.vertex ∉ visits.map Prod.fst ∧ e ∈ g.outEdges next.vertex := by
  rw [h.followed_eq, ← h.marked]
  cases w.seen.contains next.vertex <;> by_cases hd : next.depth < m <;> simp [hd]

theorem Comes.after (h : Comes visits w v) (hwaiting : w.waiting = next :: rest) (mode : Mode)
    (maxDepth : Option Nat) (n : CallNode) :
    Comes (visits ++ [(next.vertex, n)]) (w.after g mode maxDepth next rest) v := by
  rw [Comes, List.map_append, List.mem_append]
  rcases h with hlisted | ⟨p, hp, rfl⟩
  · exact .inl (.inl hlisted)
  · rw [hwaiting] at hp
    rcases List.mem_cons.1 hp with rfl | hp
    · exact .inl (.inr (List.mem_singleton_self _))
    · exact .inr ⟨p, List.mem_append_right _ hp, rfl⟩

theorem Limited.awaited_after (hg : g.WellFormed) (h : Limited g start m visits w)
    (hwaiting : w.waiting = next :: rest) :
    ∀ p ∈ (w.after g .normal (some m) next rest).waiting, p.vertex < g.vertexCount ∧
      g.Near start m (visits ++ [(next.vertex, w.nodeOf g .normal (some m) next)])
        p.vertex p.depth := by
  have hnear := (h.awaited next (by rw [hwaiting]; exact List.mem_cons_self)).2
  refine List.forall_mem_append.2 ⟨fun p hp => ?_, fun p hp => ?_⟩
  · obtain ⟨e, he, rfl⟩ := List.mem_map.1 hp
    obtain ⟨hdepth, hnot, hout⟩ := h.mem_followed.1 he
    exact ⟨hg.target_lt (hg.source_eq hout).1,
      (hnear.concat _ _).along hdepth (firstDepth?_new hnot) hout⟩
  · obtain ⟨hlt, hnear⟩ := h.awaited p (by rw [hwaiting]; exact List.mem_cons_of_mem _ hp)
    exact ⟨hlt, hnear.concat _ _⟩

theorem Limited.opened_after (h : Limited g start m visits w)
    (hwaiting : w.waiting = next :: rest)
    (hfirst : firstDepth? (visits ++ [(next.vertex, w.nodeOf g .normal (some m) next)]) u =
      some d) (hd : d < m) (he : e ∈ g.outEdges u) :
    Comes (visits ++ [(next.vertex, w.nodeOf g .normal (some m) next)])
      (w.after g .normal (some m) next rest) (g.target e) := by
  cases hold : firstDepth? visits u with
  | some k =>
      rw [firstDepth?_append hold] at hfirst
      cases hfirst
      exact (h.opened u d hold hd e he).after hwaiting _ _ _
  | none =>
      -- the vertex is listed first by this visit, so its edges are followed
      rw [firstDepth?_concat, hold, Option.none_or] at hfirst
      split at hfirst
      · next heq =>
          subst heq
          cases hfirst
          have hmem := h.mem_followed.2 ⟨hd, firstDepth?_eq_none.1 hold, he⟩
          exact .inr ⟨.along g _ e, List.mem_append_left _ (List.mem_map_of_mem hmem), rfl⟩
      · cases hfirst

theorem Limited.children_nodeOf (h : Limited g start m visits w) (hdepth : next.depth ≤ m) :
    (w.nodeOf g .normal (some m) next).children =
      if next.depth = m ∨ next.vertex ∈ visits.map Prod.fst then 0
      else (g.outEdges next.vertex).length := by
  have hlimit : (some m).all (next.depth < ·) = false ↔ next.depth = m := by
    rw [Option.all_some, decide_eq_false_iff_not]
    omega
  rw [h.toMarks.children_nodeOf]
  simp only [hlimit]

theorem Limited.step (hg : g.WellFormed) (h : Limited g start m visits w)
    (hnext : w.next? g .normal (some m) = some (visit, b)) :
    Limited g start m (visits ++ [visit]) b := by
  cases hwaiting : w.waiting with
  | nil =>
      rw [next?, hwaiting] at hnext
      cases hnext
  | cons next rest =>
      rw [next?, hwaiting] at hnext
      cases hnext
      obtain ⟨hlt, hnear⟩ := h.awaited next (by rw [hwaiting]; exact List.mem_cons_self)
      exact {
        toMarks := h.after hlt _ _ _ _
        listed := List.forall_mem_append.2 ⟨fun visit hv => (h.listed visit hv).concat _ _,
          List.forall_mem_singleton.2 (hnear.concat _ _)⟩
        awaited := h.awaited_after hg hwaiting
        begun := h.begun.after hwaiting _ _ _
        opened := fun _ _ hfirst hd _ he => h.opened_after hwaiting hfirst hd he
        children := forall_getElem?_concat
          (P := fun before (visit : VertexId × CallNode) => visit.2.children =
            if visit.2.depth = m ∨ visit.1 ∈ before.map Prod.fst then 0
            else (g.outEdges visit.1).length)
          h.children (h.children_nodeOf hnear.1) }

/-- When nothing waits, a route that leaves no vertex listed first at the limit does not get
away from what is listed. -/
theorem Limited.arrival_mem (h : Limited g start m visits w) (hdone : w.waiting = [])
    {v : VertexId} {r : Route} (hv : v ∈ visits.map Prod.fst) (hroute : g.IsRoute v r)
    (hopen : ∀ u ∈ g.departures v r, firstDepth? visits u ≠ some m) :
    g.arrival v r ∈ visits.map Prod.fst := by
  induction r generalizing v with
  | nil => exact hv
  | cons step r ih =>
      obtain ⟨i, e⟩ := step
      obtain ⟨hplace, hroute⟩ := hroute
      obtain ⟨hfirst, hopen⟩ := List.forall_mem_cons.1 hopen
      obtain ⟨d, hd⟩ := Option.ne_none_iff_exists'.1 (mt firstDepth?_eq_none.1 (not_not.2 hv))
      obtain ⟨visit, hmem, -, hdepth⟩ := mem_of_firstDepth? hd
      have hle : d ≤ m := hdepth ▸ (h.listed visit hmem).1
      have hlt : d < m := Nat.lt_of_le_of_ne hle fun heq => hfirst (heq ▸ hd)
      rcases h.opened v d hd hlt e (List.mem_of_getElem? hplace) with hlisted | ⟨p, hp, -⟩
      · exact ih hlisted hroute hopen
      · rw [hdone] at hp
        exact absurd hp List.not_mem_nil

end Worklist

namespace Metaprogram

variable {events : List Event} {mode : Mode} {rootName result : String} {g : Metaprogram}

/-- In normal mode a call graph with a limit has no node deeper than the limit. One at the limit
has no children, and neither has one of a vertex that is listed before; any other has all edges
that leave its vertex below it. The call graph lists a vertex exactly if some route with no more edges than the limit leads there and leaves none that is
listed first at the limit. -/
theorem callGraph_limited_lists (h : ofEvents events mode rootName result = .ok g)
    (start : VertexId) (hs : start < g.vertexCount) (frame : Frame) (m : Nat) :
    ∃ visits,
      (∃ d, Worklist.Lists g .normal (some m) (.start g start frame) visits d ∧
        d.waiting = []) ∧
      visits.map Prod.snd = g.callGraph start frame .normal (some m) ∧
      (∀ n ∈ g.callGraph start frame .normal (some m), n.depth ≤ m) ∧
      (∀ i v n, visits[i]? = some (v, n) → n.children =
        if n.depth = m ∨ v ∈ (visits.take i).map Prod.fst then 0 else (g.outEdges v).length) ∧
      ∀ v, v ∈ visits.map Prod.fst ↔
        ∃ r, g.IsRoute start r ∧ r.length ≤ m ∧ g.arrival start r = v ∧
          ∀ u ∈ g.departures start r, firstDepth? visits u ≠ some m := by
  have hg := wellFormed_ofEvents h
  obtain ⟨visits, d, hlists, hdone, hnodes⟩ :=
    Worklist.lists_callGraph g start frame .normal (some m)
  have hd : Worklist.Limited g start m visits d :=
    hlists.keeps (fun hw hnext => hw.step hg hnext) (Worklist.limited_start hs)
  refine ⟨visits, ⟨d, hlists, hdone⟩, hnodes, ?_, fun i v n => hd.children i (v, n),
    fun v => ⟨fun hv => ?_, ?_⟩⟩
  · rw [← hnodes, List.forall_mem_map]
    exact fun visit hv => (hd.listed visit hv).1
  · obtain ⟨visit, hmem, rfl⟩ := List.mem_map.1 hv
    obtain ⟨hle, r, hroute, hlen, harrival, hopen⟩ := hd.listed visit hmem
    refine ⟨r, hroute, hlen ▸ hle, harrival, fun u hu heq => ?_⟩
    obtain ⟨k, hk, hfirst⟩ := hopen u hu
    rw [hfirst] at heq
    cases heq
    exact Nat.lt_irrefl _ hk
  · rintro ⟨r, hroute, -, rfl, hopen⟩
    refine hd.arrival_mem hdone (hd.begun.resolve_right ?_) hroute hopen
    rintro ⟨p, hp, -⟩
    rw [hdone] at hp
    exact List.not_mem_nil hp

/-- Two edges lead to `c`, by the second visit to `b`. The first was at the limit. -/
theorem callGraph_limited_lists_revisited :
    ∃ g, ofEvents revisited .normal "main" "int" = .ok g ∧ root < g.vertexCount ∧
      g.callGraph root g.rootFrame .normal (some 2) =
        [{ frame := g.rootFrame, depth := 0, children := 2 },
          { frame := g.edgeFrame 0, depth := 1, children := 1 },
          { frame := g.edgeFrame 1, depth := 2, children := 0 },
          { frame := g.edgeFrame 3, depth := 1, children := 0 }] ∧
      ∃ visits, visits.map Prod.snd = g.callGraph root g.rootFrame .normal (some 2) ∧
        (∀ i v n, visits[i]? = some (v, n) → n.children =
          if n.depth = 2 ∨ v ∈ (visits.take i).map Prod.fst then 0
          else (g.outEdges v).length) ∧
        ∀ v, v ∈ visits.map Prod.fst ↔
          ∃ r, g.IsRoute root r ∧ r.length ≤ 2 ∧ g.arrival root r = v ∧
            ∀ u ∈ g.departures root r, firstDepth? visits u ≠ some 2 := by
  have h : ofEvents revisited .normal "main" "int" = .ok _ :=
    ofEvents_of_balanced balanced_revisited
  refine ⟨_, h, by decide, by decide, ?_⟩
  obtain ⟨visits, -, hnodes, -, hchildren, hlisted⟩ :=
    callGraph_limited_lists h root (by decide) _ 2
  exact ⟨visits, hnodes, hchildren, hlisted⟩

/-- Not everything that few enough edges lead to is listed. -/
theorem callGraph_limit_hides_near :
    ∃ g, ofEvents revisited .normal "main" "int" = .ok g ∧
      ¬ ∀ r, g.IsRoute root r → r.length ≤ 2 →
        ∃ n ∈ g.callGraph root g.rootFrame .normal (some 2),
          n.frame.name = g.name (g.arrival root r) := by
  have h : ofEvents revisited .normal "main" "int" = .ok _ :=
    ofEvents_of_balanced balanced_revisited
  refine ⟨_, h, fun hall => ?_⟩
  -- from the root to `b`, and from there to `c`
  obtain ⟨n, hn, hname⟩ := hall [(1, 3), (0, 2)] ⟨rfl, rfl, trivial⟩ (Nat.le_refl 2)
  revert n
  decide

end Metaprogram

end TemplateTrace
