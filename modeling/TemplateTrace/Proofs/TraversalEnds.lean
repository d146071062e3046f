import TemplateTrace.Proofs.WalkStops

/-!
# Every traversal ends

A walk that goes on to its end takes at most as many steps as its cursor is worth, and so a loop
that steps until something happens ends, whatever it waits for (`Sound.loopEnds`). In normal mode
the number of steps is known: the walk follows each edge once, and one step more ends it.

The worklist of a call graph has no bound of its own. That it ends is `Worklist.lists_callGraph`,
and since the recursion goes down by as many levels as there are vertices at most, no node is
deeper than that.
-/

namespace TemplateTrace

/-! ## Depths of call graphs -/

namespace Metaprogram

variable {g : Metaprogram} {mode : Mode} {n bound : Nat} {es : List EdgeId}

theorem depth_le_of_mem_forest {visit : EdgeId → VertexSet → CallTree × VertexSet}
    (h : ∀ e seen, ∀ node ∈ (visit e seen).1.nodesAt n, node.depth ≤ bound) (seen : VertexSet) :
    ∀ node ∈ CallTree.forestNodesAt n (visitAll visit es seen).1, node.depth ≤ bound := by
  induction es generalizing seen with
  | nil => exact fun node hnode => absurd hnode List.not_mem_nil
  | cons e es ih =>
      intro node hnode
      rcases List.mem_append.1 hnode with hfirst | hothers
      · exact h e seen node hfirst
      · exact ih _ node hothers

/-- A tree goes down by no more levels than it was given room. -/
theorem depth_le_of_mem_grow (room n : Nat) (limit : Option Nat) (above : List VertexId)
    (frame : Frame) (v : VertexId) (seen : VertexSet) :
    ∀ node ∈ (g.grow mode room limit above frame v seen).1.nodesAt n, node.depth ≤ n + room := by
  induction room generalizing n limit above frame v seen with
  | zero =>
      intro node hnode
      rw [grow, CallTree.nodesAt, CallTree.forestNodesAt, List.mem_singleton] at hnode
      rw [hnode]
      exact Nat.le_refl n
  | succ room ih =>
      intro node hnode
      rw [grow_succ, nodesAt_spread] at hnode
      rcases List.mem_cons.1 hnode with rfl | hbelow
      · exact Nat.le_add_right n _
      · refine depth_le_of_mem_forest (fun e seen node hnode => ?_) _ node hbelow
        have hle := ih (n + 1) _ _ _ _ seen node hnode
        omega

theorem depth_le_of_mem_callGraph (g : Metaprogram) (start : VertexId) (frame : Frame)
    (mode : Mode) (maxDepth : Option Nat) :
    ∀ node ∈ g.callGraph start frame mode maxDepth, node.depth ≤ g.vertexCount := by
  intro node hnode
  have hle := depth_le_of_mem_grow _ 0 _ _ _ _ _ node hnode
  omega

end Metaprogram

/-! ## The number of steps in normal mode -/

namespace Cursor

variable {g : Metaprogram} {c : Cursor} {passed : List (EdgeId × Cursor)}

/-- A walk takes one step for each edge that it follows, and one to end. -/
theorem Passes.steps? (h : Passes g c passed) :
    ∃ d, steps? g (passed.length + 1) c = some d ∧ d.finished = true := by
  induction passed generalizing c with
  | nil => exact ⟨_, (steps?_one c).trans (step?_nil h.1 h.2), rfl⟩
  | cons q later ih =>
      obtain ⟨hstep, -, -, hlater⟩ := h
      obtain ⟨d, hsteps, hend⟩ := ih hlater
      refine ⟨d, ?_, hend⟩
      rw [List.length_cons, Cursor.steps?, hstep]
      exact hsteps

theorem Passes.length_eq_edgeCount {events : List Event} {rootName result : String}
    (h : Metaprogram.ofEvents events .normal rootName result = .ok g)
    (hpasses : Passes g (start g) passed) : passed.length = g.edgeCount := by
  have hg := Metaprogram.wellFormed_ofEvents h
  have hmode := Metaprogram.mode_of_ofEvents h
  obtain ⟨last, hlast, hdone⟩ := (explores_start hg).passes hg hpasses
  obtain ⟨-, honce⟩ := hlast.complete hg hdone fun v => Metaprogram.reachable_of_lt h
  have hlength := (honce hmode).length_eq
  rwa [List.nil_append, List.length_map, List.length_range] at hlength

/-- From wherever moves lead to, steps come to the end of the walk, and so the loops of the moves
that run until something happens end; from the start there are as many steps in normal mode as
there are edges, and one. The worklist of a call graph comes to an end as well, on every graph,
and lists nothing deeper than there are vertices. -/
theorem traversals_end {events : List Event} {mode : Mode} {rootName result : String}
    (h : Metaprogram.ofEvents events mode rootName result = .ok g) (moves : List Move) :
    let c := afterMoves g moves
    (∃ n ≤ c.stepBound g, ∃ d, Cursor.steps? g n c = some d ∧ d.finished = true) ∧
    (c.finished = false →
      LoopEnds g (·.depth ≤ c.depth) c (c.stepOver g).2 ∧
      (c.isAtRoot = false → LoopEnds g (·.depth < c.depth) c (c.stepOut g).2) ∧
      ∀ test, LoopEnds g (frameSatisfies g test) c (c.continueUntil g test).2) ∧
    (mode = .normal →
      ∃ d, Cursor.steps? g (g.edgeCount + 1) (start g) = some d ∧ d.finished = true) ∧
    ∀ (graph : Metaprogram) (v : VertexId) (frame : Frame) (mode : Mode) (maxDepth : Option Nat),
      ∃ visits w, Worklist.Lists graph mode maxDepth (.start graph v frame) visits w ∧
        w.waiting = [] ∧ visits.map Prod.snd = graph.callGraph v frame mode maxDepth ∧
        ∀ visit ∈ visits, visit.2.depth ≤ graph.vertexCount := by
  intro c
  have hg := Metaprogram.wellFormed_ofEvents h
  have hc : Sound g c := sound_of_steps? hg (onCourse_afterMoves g moves)
  refine ⟨?_, fun hfin => ⟨?_, fun haway => ?_, fun test => ?_⟩, ?_, ?_⟩
  · obtain ⟨n, hle, hend⟩ := hc.exists_end hg
    exact ⟨n, hle.trans (weight_le_stepBound g c), hend⟩
  · rw [stepOver, if_neg (by simp [hfin])]
    exact hc.loopEnds _ hg hfin
  · rw [stepOut, if_neg (by simp [hfin]), if_neg (by simp [haway])]
    exact hc.loopEnds _ hg hfin
  · rw [continueUntil_of_unfinished hfin]
    exact hc.loopEnds _ hg hfin
  · rintro rfl
    obtain ⟨passed, hpasses⟩ := (sound_start hg).exists_passes hg rfl
    rw [← hpasses.length_eq_edgeCount h]
    exact hpasses.steps?
  · intro graph v frame mode maxDepth
    obtain ⟨visits, w, hlists, hdone, hnodes⟩ :=
      Worklist.lists_callGraph graph v frame mode maxDepth
    refine ⟨visits, w, hlists, hdone, hnodes, fun visit hvisit => ?_⟩
    have hmem := List.mem_map_of_mem (f := Prod.snd) hvisit
    rw [hnodes] at hmem
    exact graph.depth_le_of_mem_callGraph v frame mode maxDepth _ hmem

/-- A walk on a graph with a cycle, from inside of it. -/
theorem traversals_end_entwined :
    let g := (outline entwined).graph .normal "main" "int"
    let c := afterMoves g [.stepInto 3, .stepBack]
    Metaprogram.ofEvents entwined .normal "main" "int" = .ok g ∧ c.finished = false ∧
      c.path = [1, 0] ∧ LoopEnds g (·.depth < c.depth) c (c.stepOut g).2 ∧
      (∃ d, Cursor.steps? g 6 (start g) = some d ∧ d.finished = true) ∧
      ∃ visits w, Worklist.Lists g .full none (.start g 1 (g.edgeFrame 0)) visits w ∧
        w.waiting = [] ∧ visits.length = 3 := by
  intro g c
  have h : Metaprogram.ofEvents entwined .normal "main" "int" = .ok g :=
    Metaprogram.ofEvents_of_balanced balanced_entwined
  have hfin : c.finished = false := by decide
  obtain ⟨-, hloops, hnormal, hlists⟩ := traversals_end h [.stepInto 3, .stepBack]
  obtain ⟨visits, w, hvisits, hdone, hnodes, -⟩ := hlists g 1 (g.edgeFrame 0) .full none
  refine ⟨h, hfin, by decide, (hloops hfin).2.1 (by decide), hnormal rfl, visits, w, hvisits,
    hdone, ?_⟩
  have hlength : (g.callGraph 1 (g.edgeFrame 0) .full none).length = 3 := by decide
  rw [← hlength, ← hnodes, List.length_map]

end Cursor

end TemplateTrace
