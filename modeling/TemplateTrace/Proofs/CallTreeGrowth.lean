import TemplateTrace.Proofs.WalkListing

/-!
# How call trees grow

`grow` hands down the vertices above a vertex and a number of levels that may still follow. The
number is there for the recursion to end by, and no tree is ever cut short by it: the vertices
above one are distinct, so when no level is left they are all that there are (`HasRoom`).

Proofs about the trees should not see that number. They get a tree as `spread`, the node of a
vertex with one child for each edge that is followed, and `grow_induction` for the rest: what
`spread` keeps holds of every tree that grows. A graph need not be well-formed for that, since a
vertex out of range has no edges.
-/

namespace TemplateTrace

theorem length_visitAll {α β σ : Type} (visit : α → σ → β × σ) (as : List α) (state : σ) :
    (visitAll visit as state).1.length = as.length := by
  induction as generalizing state with
  | nil => rfl
  | cons a as ih => exact congrArg (· + 1) (ih _)

/-- What two visits keep of every element they keep of a list, whatever states they hand on. -/
theorem forall₂_visitAll {α β γ σ τ : Type} {R : β → γ → Prop} {visit : α → σ → β × σ}
    {other : α → τ → γ × τ} {as : List α}
    (h : ∀ a ∈ as, ∀ s t, R (visit a s).1 (other a t).1) (s : σ) (t : τ) :
    List.Forall₂ R (visitAll visit as s).1 (visitAll other as t).1 := by
  induction as generalizing s t with
  | nil => exact .nil
  | cons a as ih =>
      obtain ⟨hfirst, hothers⟩ := List.forall_mem_cons.1 h
      exact .cons (hfirst s t) (ih hothers _ _)

namespace Metaprogram

/-- The edges by which a traversal goes on from a vertex: all that leave it if the vertex is
entered. -/
def followed (g : Metaprogram) (mode : Mode) (limit : Option Nat) (above : List VertexId)
    (seen : VertexSet) (v : VertexId) : List EdgeId :=
  if enters mode limit above seen v then g.outEdges v else []

/-- The vertices above one are distinct, and with `room` more they would be all. -/
structure HasRoom (g : Metaprogram) (room : Nat) (above : List VertexId) : Prop where
  distinct : above.Nodup
  in_range : ∀ u ∈ above, u < g.vertexCount
  enough : g.vertexCount ≤ room + above.length

/-- A tree whose children are made by `visit`, one for each edge that is followed. -/
def spread (g : Metaprogram) (mode : Mode) (limit : Option Nat) (above : List VertexId)
    (frame : Frame) (v : VertexId) (visit : EdgeId → VertexSet → CallTree × VertexSet)
    (seen : VertexSet) : CallTree × VertexSet :=
  let below := visitAll visit (g.followed mode limit above seen v) (seen.insert v)
  (.node frame below.1, below.2)

variable {g : Metaprogram} {mode : Mode} {limit : Option Nat} {room : Nat}
  {above : List VertexId} {seen : VertexSet} {v : VertexId} {e : EdgeId}

theorem outEdges_eq_nil (h : g.vertexCount ≤ v) : g.outEdges v = [] := by
  rw [outEdges, Array.getElem?_eq_none h]

theorem lt_of_mem_outEdges (h : e ∈ g.outEdges v) : v < g.vertexCount := by
  by_contra hv
  rw [outEdges_eq_nil (Nat.le_of_not_lt hv)] at h
  exact List.not_mem_nil h

theorem mem_followed : e ∈ g.followed mode limit above seen v ↔
    enters mode limit above seen v = true ∧ e ∈ g.outEdges v := by
  rw [followed]
  split
  · next h => exact ⟨fun he => ⟨h, he⟩, And.right⟩
  · next h => exact ⟨fun he => absurd he List.not_mem_nil, fun he => absurd he.1 h⟩

theorem not_mem_of_enters (h : enters mode limit above seen v = true) : v ∉ above := by
  intro hv
  rw [enters, List.contains_iff_mem.2 hv] at h
  simp at h

theorem hasRoom_nil (g : Metaprogram) : HasRoom g g.vertexCount [] where
  distinct := List.nodup_nil
  in_range := fun _ hu => absurd hu List.not_mem_nil
  enough := Nat.le_refl _

theorem HasRoom.cons (h : HasRoom g (room + 1) above) (hv : v ∉ above)
    (hlt : v < g.vertexCount) : HasRoom g room (v :: above) where
  distinct := List.nodup_cons.2 ⟨hv, h.distinct⟩
  in_range := List.forall_mem_cons.2 ⟨hlt, h.in_range⟩
  enough := by
    have := h.enough
    rw [List.length_cons]
    omega

/-- Without room nothing new has edges that leave it. -/
theorem HasRoom.outEdges_eq_nil (h : HasRoom g 0 above) (hv : v ∉ above) :
    g.outEdges v = [] := by
  refine Metaprogram.outEdges_eq_nil (Nat.le_of_not_lt fun hlt => hv ?_)
  have henters : enters .full none above (.empty 0) v = false :=
    Cursor.not_enters_of_full h.distinct h.in_range hlt (by simpa using h.enough)
  simpa [enters] using henters

theorem HasRoom.followed_eq_nil (h : HasRoom g 0 above) :
    g.followed mode limit above seen v = [] := by
  refine List.eq_nil_iff_forall_not_mem.2 fun e he => ?_
  obtain ⟨henters, hout⟩ := mem_followed.1 he
  rw [h.outEdges_eq_nil (not_mem_of_enters henters)] at hout
  exact List.not_mem_nil hout

theorem grow_succ (frame : Frame) : g.grow mode (room + 1) limit above frame v =
    g.spread mode limit above frame v fun e =>
      g.grow mode room (limit.map (· - 1)) (v :: above) (g.edgeFrame e) (g.target e) := by
  funext seen
  rw [grow, spread, followed]
  split <;> rfl

theorem nodesAt_spread (frame : Frame) (visit : EdgeId → VertexSet → CallTree × VertexSet)
    (depth : Nat) :
    (g.spread mode limit above frame v visit seen).1.nodesAt depth =
      { frame, depth, children := (g.followed mode limit above seen v).length } ::
        CallTree.forestNodesAt (depth + 1)
          (visitAll visit (g.followed mode limit above seen v) (seen.insert v)).1 := by
  rw [spread, CallTree.nodesAt, length_visitAll]

/-- What a step down keeps holds of every tree that grows: `spread` is that step, and its
children come from vertices that were not above them. -/
theorem grow_induction
    {P : Option Nat → List VertexId → Frame → VertexId →
      (VertexSet → CallTree × VertexSet) → Prop}
    (step : ∀ limit above frame v visit,
      (v ∉ above → ∀ e ∈ g.outEdges v,
        P (limit.map (· - 1)) (v :: above) (g.edgeFrame e) (g.target e) (visit e)) →
      P limit above frame v (g.spread mode limit above frame v visit))
    (h : HasRoom g room above) (limit : Option Nat) (frame : Frame) (v : VertexId) :
    P limit above frame v (g.grow mode room limit above frame v) := by
  induction room generalizing limit above frame v with
  | zero =>
      -- any children will do for `spread`, as no edge is followed
      have hleaf : g.grow mode 0 limit above frame v =
          g.spread mode limit above frame v fun e => g.grow mode 0 none [] frame e := by
        funext seen
        rw [spread, h.followed_eq_nil]
        rfl
      rw [hleaf]
      refine step _ _ _ _ _ fun hv e he => ?_
      rw [h.outEdges_eq_nil hv] at he
      exact absurd he List.not_mem_nil
  | succ room ih =>
      rw [grow_succ]
      exact step _ _ _ _ _ fun hv e he => ih (h.cons hv (lt_of_mem_outEdges he)) _ _ _

end Metaprogram

end TemplateTrace
