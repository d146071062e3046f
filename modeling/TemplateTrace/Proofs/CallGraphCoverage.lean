import Mathlib.Logic.Relation
import TemplateTrace.Proofs.CallGraphWorklist
import TemplateTrace.Proofs.WalkReplay

/-!
# Normal call graphs cover what is reachable

In normal mode a vertex is entered at its first visit only. A call graph in normal mode then
lists each instantiation below its start once: one node for the start, and one for each edge
that leaves a vertex reachable from it, `callGraph_normal_covers`.

The argument is about the worklist, whose visits list the same nodes. While it runs, the edges
that led to the visits so far, together with those that wait, are all the edges that leave a
marked vertex, each once (`Progress.edges`). A visit to a new vertex marks it and puts the edges
that leave it on the stack; a visit to a marked one does neither. When nothing waits, every edge
that leaves a marked vertex has been followed, so what is marked is closed under the edges.

From the root every vertex of a trace is reachable, since a beginning lies directly inside one
that came before it or inside none.
-/

namespace TemplateTrace

namespace Metaprogram

/-- One thing instantiates another. -/
def Joins (g : Metaprogram) (u v : VertexId) : Prop := ∃ e ∈ g.outEdges u, g.target e = v

/-- One thing instantiates another, directly or not; each is reachable from itself. -/
def Reachable (g : Metaprogram) : VertexId → VertexId → Prop := Relation.ReflTransGen g.Joins

/-- Visits from `start` by the edges `es`, in order, with the nodes that list them. A vertex has
all its edges below it at its first visit and nothing at later ones. -/
structure Unfolds (g : Metaprogram) (start : VertexId) (frame : Frame)
    (visits : List (VertexId × CallNode)) (es : List EdgeId) : Prop where
  vertices : visits.map Prod.fst = start :: es.map g.target
  frames : visits.map (·.2.frame) = frame :: es.map g.edgeFrame
  children : ∀ i v n, visits[i]? = some (v, n) → n.children =
    if v ∈ (visits.take i).map Prod.fst then 0 else (g.outEdges v).length

/-- The visits come by all that is reachable, and by every edge of it once. -/
structure Covers (g : Metaprogram) (start : VertexId) (frame : Frame)
    (visits : List (VertexId × CallNode)) (es : List EdgeId) : Prop
    extends Unfolds g start frame visits es where
  distinct : es.Nodup
  edges : ∀ e, e ∈ es ↔ e < g.edgeCount ∧ g.Reachable start (g.source e)
  reached : ∀ v, v ∈ visits.map Prod.fst ↔ g.Reachable start v

/-- The edges that leave marked vertices. -/
def edgesOf (g : Metaprogram) (seen : VertexSet) : List EdgeId :=
  (List.range g.edgeCount).filter fun e => seen.contains (g.source e)

variable {g : Metaprogram} {start u v : VertexId} {frame : Frame} {e : EdgeId}
  {seen : VertexSet} {visits : List (VertexId × CallNode)} {es : List EdgeId}

theorem mem_edgesOf : e ∈ g.edgesOf seen ↔
    e < g.edgeCount ∧ seen.contains (g.source e) = true := by
  rw [edgesOf, List.mem_filter, List.mem_range]

theorem edgesOf_empty (bound : Nat) : g.edgesOf (.empty bound) = [] :=
  List.filter_eq_nil_iff.2 fun e _ => by simp

theorem WellFormed.mem_outEdges (hg : g.WellFormed) (he : e < g.edgeCount) :
    e ∈ g.outEdges (g.source e) := by
  rw [hg.outEdges_eq (hg.source_lt he), List.mem_filter, List.mem_range]
  exact ⟨he, beq_self_eq_true _⟩

theorem WellFormed.source_eq (hg : g.WellFormed) (he : e ∈ g.outEdges v) :
    e < g.edgeCount ∧ g.source e = v := by
  rw [hg.outEdges_eq (lt_of_mem_outEdges he), List.mem_filter, List.mem_range, beq_iff_eq] at he
  exact he

theorem WellFormed.reachable_target (hg : g.WellFormed) (he : e < g.edgeCount)
    (h : g.Reachable start (g.source e)) : g.Reachable start (g.target e) :=
  h.tail ⟨e, hg.mem_outEdges he, rfl⟩

/-! ## Visits one after the other -/

/-- Entries that are judged by those before them, and one more at the end. -/
theorem forall_getElem?_concat {α : Type} {P : List α → α → Prop} {l : List α} {a : α}
    (h : ∀ i b, l[i]? = some b → P (l.take i) b) (ha : P l a) :
    ∀ i b, (l ++ [a])[i]? = some b → P ((l ++ [a]).take i) b := by
  intro i b hi
  rcases Nat.lt_trichotomy i l.length with hlt | rfl | hgt
  · rw [List.getElem?_append_left hlt] at hi
    rw [List.take_append_of_le_length (Nat.le_of_lt hlt)]
    exact h i b hi
  · rw [List.getElem?_concat_length] at hi
    cases hi
    rwa [List.take_left]
  · have hnone : (l ++ [a])[i]? = none := by
      rw [List.getElem?_eq_none]
      rw [List.length_append, List.length_singleton]
      omega
    rw [hnone] at hi
    cases hi

/-! ## Marking a vertex -/

theorem filter_or_perm {α : Type} {p q : α → Bool} (l : List α)
    (hdisjoint : ∀ a, q a = true → p a = false) :
    (l.filter fun a => p a || q a).Perm (l.filter p ++ l.filter q) := by
  have hsplit := List.filter_append_perm p (l.filter fun a => p a || q a)
  rw [List.filter_filter, List.filter_filter] at hsplit
  refine hsplit.symm.trans (.of_eq ?_)
  congr 1
  · exact List.filter_congr fun a _ => by cases p a <;> rfl
  · refine List.filter_congr fun a _ => ?_
    cases hq : q a with
    | false => cases p a <;> rfl
    | true => rw [hdisjoint a hq]; rfl

/-- A new mark adds the edges that leave the vertex. -/
theorem WellFormed.edgesOf_insert (hg : g.WellFormed) (hbound : seen.bound = g.vertexCount)
    (hv : v < g.vertexCount) (hnew : seen.contains v = false) :
    (g.edgesOf (seen.insert v)).Perm (g.edgesOf seen ++ g.outEdges v) := by
  have hmarks : g.edgesOf (seen.insert v) = (List.range g.edgeCount).filter fun e =>
      seen.contains (g.source e) || g.source e == v := by
    refine List.filter_congr fun e _ => ?_
    rw [VertexSet.contains_insert, hbound, decide_eq_true hv, Bool.and_true, Bool.beq_comm]
  rw [hmarks, hg.outEdges_eq hv]
  refine filter_or_perm _ fun e he => ?_
  rw [eq_of_beq he, hnew]

theorem Unfolds.concat {n : CallNode} (h : g.Unfolds start frame visits es)
    (hv : v = g.target e) (hframe : n.frame = g.edgeFrame e)
    (hchildren : n.children =
      if v ∈ visits.map Prod.fst then 0 else (g.outEdges v).length) :
    g.Unfolds start frame (visits ++ [(v, n)]) (es ++ [e]) where
  vertices := by
    rw [List.map_append, h.vertices, List.map_append, hv]
    rfl
  frames := by
    rw [List.map_append, h.frames, List.map_append, List.map_singleton, List.map_singleton,
      hframe]
    rfl
  children := by
    intro i u m hi
    exact forall_getElem?_concat (P := fun before visit => visit.2.children =
        if visit.1 ∈ before.map Prod.fst then 0 else (g.outEdges visit.1).length)
      (fun i visit => h.children i visit.1 visit.2) hchildren i (u, m) hi

end Metaprogram

namespace Worklist

open Metaprogram
open Cursor (upTo)

variable {g : Metaprogram} {start : VertexId} {frame : Frame} {w b d : Worklist}
  {visit : VertexId × CallNode} {visits more : List (VertexId × CallNode)} {es : List EdgeId}
  {next : Visit} {left : List Pending}

/-- The visits that edges ask for, each edge with the depth that it leads to. -/
def visitsOf (g : Metaprogram) (left : List Pending) : List Visit :=
  left.map fun p => .along g p.depth p.edge

/-- Some edges, all waiting for one depth. -/
def pendingAt (depth : Nat) (es : List EdgeId) : List Pending :=
  es.map fun edge => { edge, depth }

/-- The marks are those of the visited vertices, and what is on the path was visited. -/
structure Marks (g : Metaprogram) (visits : List (VertexId × CallNode)) (w : Worklist) :
    Prop where
  bound : w.seen.bound = g.vertexCount
  marked : ∀ v, w.seen.contains v = true ↔ v ∈ visits.map Prod.fst
  path_marked : ∀ v ∈ w.path, w.seen.contains v = true

/-- A worklist in normal mode, with the visits that led to it. -/
structure Progress (g : Metaprogram) (start : VertexId) (frame : Frame)
    (visits : List (VertexId × CallNode)) (es : List EdgeId) (w : Worklist) : Prop
    extends Unfolds g start frame visits es where
  bound : w.seen.bound = g.vertexCount
  marked : ∀ v, w.seen.contains v = true ↔ v ∈ visits.map Prod.fst
  path_marked : ∀ v ∈ w.path, w.seen.contains v = true
  reachable : ∀ v ∈ visits.map Prod.fst, g.Reachable start v
  /-- The edges that were followed and those that wait are all that leave a marked vertex. -/
  edges : ∃ left, w.waiting = visitsOf g left ∧
    (es ++ left.map Pending.edge).Perm (g.edgesOf w.seen)

/-! ## One visit -/

theorem marks_start (g : Metaprogram) (v : VertexId) (frame : Frame) :
    Marks g [] (Worklist.start g v frame) where
  bound := VertexSet.bound_empty _
  marked := by simp [Worklist.start]
  path_marked := fun _ hu => absurd hu List.not_mem_nil

theorem contains_after (hbound : w.seen.bound = g.vertexCount)
    (hv : next.vertex < g.vertexCount) (u : VertexId) :
    (w.seen.insert next.vertex).contains u = true ↔
      w.seen.contains u = true ∨ u = next.vertex := by
  rw [VertexSet.contains_insert, hbound, decide_eq_true hv, Bool.and_true, Bool.or_eq_true,
    beq_iff_eq, eq_comm (a := u)]

theorem Marks.after (h : Marks g visits w) (hv : next.vertex < g.vertexCount) (mode : Mode)
    (maxDepth : Option Nat) (n : CallNode) (rest : List Visit) :
    Marks g (visits ++ [(next.vertex, n)]) (w.after g mode maxDepth next rest) where
  bound := by
    rw [Worklist.after, VertexSet.bound_insert]
    exact h.bound
  marked := by
    intro v
    rw [Worklist.after, contains_after h.bound hv, h.marked, List.map_append, List.mem_append,
      List.map_singleton, List.mem_singleton]
  path_marked := by
    intro v hmem
    rw [Worklist.after, contains_after h.bound hv]
    rcases List.mem_cons.1 hmem with rfl | hmem
    · exact .inr rfl
    · exact .inl (h.path_marked v (List.mem_of_mem_drop hmem))

/-- What is on the path is marked, so the marks and the limit decide. -/
theorem Marks.followed_eq (h : Marks g visits w) (maxDepth : Option Nat) (next : Visit) :
    w.followed g .normal maxDepth next =
      if maxDepth.all (next.depth < ·) && !w.seen.contains next.vertex
      then g.outEdges next.vertex else [] := by
  rw [followed]
  cases hseen : w.seen.contains next.vertex with
  | true => simp
  | false =>
      have hnot : next.vertex ∉ upTo w.path next.depth := fun hmem => by
        rw [h.path_marked _ (List.mem_of_mem_drop hmem)] at hseen
        cases hseen
      simp [hnot]

theorem Marks.followed_unlimited (h : Marks g visits w) (next : Visit) :
    w.followed g .normal none next =
      if w.seen.contains next.vertex then [] else g.outEdges next.vertex := by
  rw [h.followed_eq]
  cases w.seen.contains next.vertex <;> rfl

theorem Marks.edgesOf_after (hg : g.WellFormed) (h : Marks g visits w)
    (hv : next.vertex < g.vertexCount) :
    (g.edgesOf (w.seen.insert next.vertex)).Perm
      (g.edgesOf w.seen ++ w.followed g .normal none next) := by
  rw [h.followed_unlimited]
  cases hseen : w.seen.contains next.vertex with
  | true =>
      rw [if_pos rfl, List.append_nil, VertexSet.insert_of_contains hseen]
  | false =>
      rw [if_neg Bool.false_ne_true]
      exact hg.edgesOf_insert h.bound hv hseen

theorem visitsOf_append (more left : List Pending) :
    visitsOf g (more ++ left) = visitsOf g more ++ visitsOf g left :=
  List.map_append

theorem visitsOf_pendingAt (depth : Nat) (es : List EdgeId) :
    visitsOf g (pendingAt depth es) = es.map (.along g depth) := by
  rw [visitsOf, pendingAt, List.map_map]
  rfl

theorem edges_pendingAt (depth : Nat) (es : List EdgeId) :
    (pendingAt depth es).map Pending.edge = es := by
  rw [pendingAt, List.map_map]
  exact List.map_id es

/-- What a visit lists has no children if it is at the limit or not the first one. -/
theorem Marks.children_nodeOf (h : Marks g visits w) (maxDepth : Option Nat) (next : Visit) :
    (w.nodeOf g .normal maxDepth next).children =
      if maxDepth.all (next.depth < ·) = false ∨ next.vertex ∈ visits.map Prod.fst then 0
      else (g.outEdges next.vertex).length := by
  rw [nodeOf, h.followed_eq]
  simp only [← h.marked]
  cases maxDepth.all (next.depth < ·) with
  | false => rfl
  | true =>
      cases w.seen.contains next.vertex with
      | true => rfl
      | false => rfl

theorem Marks.children_unlimited (h : Marks g visits w) (next : Visit) :
    (w.nodeOf g .normal none next).children =
      if next.vertex ∈ visits.map Prod.fst then 0 else (g.outEdges next.vertex).length := by
  rw [h.children_nodeOf]
  simp only [Option.all_none, Bool.true_eq_false, false_or]

theorem Progress.marks (h : Progress g start frame visits es w) : Marks g visits w :=
  ⟨h.bound, h.marked, h.path_marked⟩

/-- What a visit keeps, whatever it visits. -/
theorem progress_after (hg : g.WellFormed)
    (h : g.Unfolds start frame (visits ++ [(next.vertex, w.nodeOf g .normal none next)]) es)
    (hmarks : Marks g visits w)
    (hreachable : ∀ v ∈ visits.map Prod.fst, g.Reachable start v)
    (hedges : (es ++ left.map Pending.edge).Perm (g.edgesOf w.seen))
    (hv : next.vertex < g.vertexCount) (hnext : g.Reachable start next.vertex) :
    Progress g start frame (visits ++ [(next.vertex, w.nodeOf g .normal none next)]) es
      (w.after g .normal none next (visitsOf g left)) := by
  have hafter := hmarks.after hv .normal none (w.nodeOf g .normal none next) (visitsOf g left)
  refine ⟨h, hafter.bound, hafter.marked, hafter.path_marked, ?_, ?_⟩
  · rw [List.map_append, List.forall_mem_append]
    exact ⟨hreachable, List.forall_mem_singleton.2 hnext⟩
  · refine ⟨pendingAt (next.depth + 1) (w.followed g .normal none next) ++ left, ?_, ?_⟩
    · rw [visitsOf_append, visitsOf_pendingAt]
      rfl
    · rw [List.map_append, edges_pendingAt]
      refine List.Perm.trans ?_ (hmarks.edgesOf_after hg hv).symm
      refine List.Perm.trans ?_ (hedges.append_right _)
      rw [List.append_assoc]
      exact List.perm_append_comm.append_left es

theorem Progress.step (hg : g.WellFormed) (h : Progress g start frame visits es w)
    (hnext : w.next? g .normal none = some (visit, b)) :
    ∃ e, Progress g start frame (visits ++ [visit]) (es ++ [e]) b := by
  obtain ⟨left, hwaiting, hedges⟩ := h.edges
  cases left with
  | nil =>
      rw [next?, hwaiting] at hnext
      cases hnext
  | cons p left =>
      rw [next?, hwaiting] at hnext
      cases hnext
      -- the edge of the visit waited, so it leaves a vertex that was visited
      have hmem : p.edge ∈ g.edgesOf w.seen := hedges.mem_iff.1 (by simp)
      obtain ⟨he, hsource⟩ := mem_edgesOf.1 hmem
      have hreachable := hg.reachable_target he (h.reachable _ ((h.marked _).1 hsource))
      have hunfolds := h.toUnfolds.concat (e := p.edge) rfl rfl
        (h.marks.children_unlimited (.along g p.depth p.edge))
      rw [List.map_cons, ← List.singleton_append, ← List.append_assoc] at hedges
      exact ⟨p.edge, progress_after hg hunfolds h.marks h.reachable hedges (hg.target_lt he)
        hreachable⟩

theorem progress_start (hg : g.WellFormed) (hs : start < g.vertexCount) {first : Visit}
    (hfirst : first = { vertex := start, frame, depth := 0 }) :
    Progress g start frame
      [(first.vertex, (Worklist.start g start frame).nodeOf g .normal none first)] []
      ((Worklist.start g start frame).after g .normal none first []) := by
  have hmarks := marks_start g start frame
  have hedges : ([] ++ ([] : List Pending).map Pending.edge).Perm
      (g.edgesOf (Worklist.start g start frame).seen) := by
    rw [Worklist.start, edgesOf_empty]
    exact .nil
  have hchildren := hmarks.children_unlimited first
  subst hfirst
  refine progress_after hg ⟨rfl, rfl, ?_⟩ hmarks (fun _ hv => absurd hv List.not_mem_nil)
    hedges hs .refl
  intro i v n hi
  cases i with
  | zero =>
      cases hi
      exact hchildren
  | succ i => cases hi

theorem Progress.lists (hg : g.WellFormed) (h : Progress g start frame visits es w)
    (hmore : Lists g .normal none w more d) :
    ∃ es', Progress g start frame (visits ++ more) es' d := by
  refine hmore.keeps (P := fun visits w => ∃ es, Progress g start frame visits es w) ?_ ⟨es, h⟩
  rintro visits w visit b ⟨es, h⟩ hnext
  obtain ⟨e, hb⟩ := h.step hg hnext
  exact ⟨es ++ [e], hb⟩

/-- When nothing waits, the edges that were followed lead from marked vertices to marked
vertices, and none that leaves one is missing. -/
theorem Progress.covers (hg : g.WellFormed) (h : Progress g start frame visits es w)
    (hdone : w.waiting = []) : g.Covers start frame visits es := by
  obtain ⟨left, hwaiting, hedges⟩ := h.edges
  have hnone : left = [] := List.map_eq_nil_iff.1 (hwaiting.symm.trans hdone)
  rw [hnone, List.map_nil, List.append_nil] at hedges
  have hmem : ∀ e, e ∈ es ↔ e < g.edgeCount ∧ g.source e ∈ visits.map Prod.fst := by
    intro e
    rw [hedges.mem_iff, mem_edgesOf, h.marked]
  have hreached : ∀ v, v ∈ visits.map Prod.fst ↔ g.Reachable start v := by
    refine fun v => ⟨h.reachable v, fun hv => ?_⟩
    induction hv with
    | refl =>
        rw [h.vertices]
        exact List.mem_cons_self
    | tail _ hjoins hu =>
        obtain ⟨e, he, rfl⟩ := hjoins
        obtain ⟨hlt, hsource⟩ := hg.source_eq he
        rw [h.vertices]
        refine List.mem_cons_of_mem _ (List.mem_map_of_mem ((hmem e).2 ⟨hlt, ?_⟩))
        rwa [hsource]
  refine ⟨h.toUnfolds, hedges.nodup_iff.2 (List.nodup_range.filter _), fun e => ?_, hreached⟩
  rw [hmem, hreached]

end Worklist

namespace Metaprogram

/-! ## What is below the root -/

section Root

variable {o : Outline} {mode : Mode} {rootName result : String} {e : EdgeId} {v : VertexId}

/-- A beginning leaves the root or a vertex that an earlier one leads to. -/
theorem source_graph (hn : o.Nested) (he : e < o.openings.length) :
    (o.graph mode rootName result).source e = root ∨
      ∃ m < e, (o.graph mode rootName result).source e =
        (o.graph mode rootName result).target m := by
  cases hcause : causeOf o.openings e with
  | none => exact .inl (source_graph_of_uncaused he hcause)
  | some m =>
      exact .inr ⟨m, (insideOf_of_causeOf hn hcause).2, source_graph_of_caused hn he hcause⟩

theorem reachable_source (hn : o.Nested) (he : e < o.openings.length) :
    (o.graph mode rootName result).Reachable root
      ((o.graph mode rootName result).source e) := by
  have hg : (o.graph mode rootName result).WellFormed := wellFormed_draw hn.known
  induction e using Nat.strong_induction_on with
  | _ e ih =>
      rcases source_graph hn he with hroot | ⟨m, hm, hsource⟩
      · rw [hroot]
        exact .refl
      · have hlt := Nat.lt_trans hm he
        rw [hsource]
        exact hg.reachable_target (by rwa [Outline.graph, edgeCount_draw]) (ih m hm hlt)

/-- Every vertex but the root is what some beginning leads to. -/
theorem reachable_vertex (hn : o.Nested) (hv : v < (o.graph mode rootName result).vertexCount) :
    (o.graph mode rootName result).Reachable root v := by
  have hg : (o.graph mode rootName result).WellFormed := wellFormed_draw hn.known
  cases v with
  | zero => exact .refl
  | succ k =>
      rw [Outline.graph, vertexCount_draw, Nat.succ_lt_succ_iff] at hv
      obtain ⟨p, hp, hcontext⟩ := mem_contextsOf.1 (List.getElem_mem hv)
      obtain ⟨e, hget⟩ := List.mem_iff_getElem?.1 hp
      have he := (List.getElem?_eq_some_iff.1 hget).1
      have htarget : (o.graph mode rootName result).target e = k.succ := by
        rw [Outline.graph, target_draw hget, vertexOf, hcontext,
          (nodup_contextsOf _).idxOf_getElem]
      rw [← htarget]
      exact hg.reachable_target (by rwa [Outline.graph, edgeCount_draw]) (reachable_source hn he)

end Root

variable {events : List Event} {mode : Mode} {rootName result : String} {g : Metaprogram}
  {e : EdgeId}

theorem reachable_of_lt (h : ofEvents events mode rootName result = .ok g) {v : VertexId}
    (hv : v < g.vertexCount) : g.Reachable root v := by
  rw [ofEvents_eq_graph h] at hv ⊢
  exact reachable_vertex (Outline.nested_outline events) hv

theorem reachable_root (h : ofEvents events mode rootName result = .ok g)
    (he : e < g.edgeCount) : g.Reachable root (g.source e) :=
  reachable_of_lt h ((wellFormed_ofEvents h).source_lt he)

/-- In normal mode the call graph of a vertex comes by what is reachable from it, and by each
instantiation there once; that of the root comes by all that there are. -/
theorem callGraph_normal_covers (h : ofEvents events mode rootName result = .ok g)
    (start : VertexId) (hs : start < g.vertexCount) (frame : Frame) :
    ∃ visits es,
      (∃ d, Worklist.Lists g .normal none (.start g start frame) visits d ∧ d.waiting = []) ∧
      visits.map Prod.snd = g.callGraph start frame .normal none ∧
      g.Covers start frame visits es ∧
      (start = root → (g.callGraph start frame .normal none).length = g.edgeCount + 1) := by
  have hg := wellFormed_ofEvents h
  obtain ⟨visits, d, hlists, hdone, hnodes⟩ :=
    Worklist.lists_callGraph g start frame .normal none
  obtain ⟨es, hcovers⟩ : ∃ es, g.Covers start frame visits es := by
    cases visits with
    | nil =>
        cases hlists
        cases hdone
    | cons visit visits =>
        obtain ⟨b, hnext, hrest⟩ := hlists
        cases hnext
        obtain ⟨es, hd⟩ := (Worklist.progress_start hg hs rfl).lists hg hrest
        exact ⟨es, hd.covers hg hdone⟩
  refine ⟨visits, es, ⟨d, hlists, hdone⟩, hnodes, hcovers, ?_⟩
  rintro rfl
  have hall : es.Perm (List.range g.edgeCount) :=
    (List.perm_ext_iff_of_nodup hcovers.distinct List.nodup_range).2 fun e => by
      rw [hcovers.edges, List.mem_range]
      exact and_iff_left_of_imp (reachable_root h)
  have hlen := congrArg List.length hcovers.vertices
  rw [List.length_map, List.length_cons, List.length_map, hall.length_eq,
    List.length_range] at hlen
  rw [← hnodes, List.length_map, hlen]

/-- Below `c` a walk comes by `b` and `a` and by `b` once more, but not by the root. -/
theorem callGraph_normal_covers_entwined :
    ∃ g, ofEvents entwined .full "main" "int" = .ok g ∧ g.edgeCount = 5 ∧
      root < g.vertexCount ∧ (g.callGraph root g.rootFrame .normal none).length = 6 ∧
      3 < g.vertexCount ∧ ∃ visits es,
        visits.map Prod.snd = g.callGraph 3 (g.edgeFrame 3) .normal none ∧
        g.Covers 3 (g.edgeFrame 3) visits es := by
  have h : ofEvents entwined .full "main" "int" = .ok _ :=
    ofEvents_of_balanced balanced_entwined
  refine ⟨_, h, by decide, by decide, ?_, by decide, ?_⟩
  · obtain ⟨-, -, -, -, -, hlen⟩ := callGraph_normal_covers h root (by decide) _
    exact hlen rfl
  · obtain ⟨visits, es, -, hnodes, hcovers, -⟩ := callGraph_normal_covers h 3 (by decide) _
    exact ⟨visits, es, hnodes, hcovers⟩

end Metaprogram

end TemplateTrace
