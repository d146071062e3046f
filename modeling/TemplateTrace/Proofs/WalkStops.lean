import Mathlib.Data.List.Dedup
import TemplateTrace.Debugger.Shell
import TemplateTrace.Proofs.CallGraphCoverage
import TemplateTrace.Proofs.WalkEnd

/-!
# Where a walk can stop

A new breakpoint is announced with a number of locations, which is counted over the vertices and
asks nothing of the walk. Going on from stop to stop is the walk. The two agree since the walk
comes by every vertex: whatever leaves a vertex that it has marked was followed or still waits
(`Explores.covered`), so at its end, when nothing waits, the marks are closed under the edges,
and all that there is can be reached from the root. That holds in both modes, because a vertex
that is not marked yet is not on the path either, and so neither rule keeps the walk from what
leaves it. In normal mode nothing else waits, and so each edge is followed once.

The root is not a location, and the walk does not come back to it, since no edge leads there.
-/

namespace TemplateTrace

open Metaprogram (root)

/-- Whether a breakpoint accepts the name of a vertex. -/
def Breakpoint.acceptsAt (b : Breakpoint) (g : Metaprogram) (v : VertexId) : Bool :=
  b.accepts (g.name v)

namespace Cursor

variable {g : Metaprogram} {c d : Cursor} {es : List EdgeId} {e : EdgeId}
  {passed : List (EdgeId × Cursor)} {next : Pending} {rest : List Pending}
  {test : Frame → Bool}

/-! ## All is covered -/

/-- A cursor to which a walk came from the start by following some edges in order. -/
structure Explores (g : Metaprogram) (es : List EdgeId) (c : Cursor) : Prop
    extends Sound g c where
  in_order : ∀ e ∈ es, e < g.edgeCount
  marked : ∀ v, c.discovered.contains v = true ↔ v = root ∨ v ∈ es.map g.target
  path_followed : ∀ e ∈ c.path, e ∈ es
  /-- What leaves a marked vertex was followed or waits. -/
  covered : g.edgesOf c.discovered ⊆ es ++ c.pending.map Pending.edge
  /-- In normal mode nothing else was followed or waits, and nothing twice. -/
  once : g.mode = .normal → (es ++ c.pending.map Pending.edge).Perm (g.edgesOf c.discovered)

theorem edges_pendingFrom (v : VertexId) (depth : Nat) :
    (pendingFrom g v depth).map Pending.edge = g.outEdges v :=
  Worklist.edges_pendingAt depth (g.outEdges v)

theorem explores_start (hg : g.WellFormed) : Explores g [] (start g) := by
  have hnone : (VertexSet.empty g.vertexCount).contains root = false :=
    VertexSet.contains_empty _ _
  have hedges : ([] ++ (start g).pending.map Pending.edge).Perm
      (g.edgesOf (start g).discovered) := by
    refine .symm ((hg.edgesOf_insert (VertexSet.bound_empty _) hg.root_lt hnone).trans ?_)
    rw [Metaprogram.edgesOf_empty, start, edges_pendingFrom]
  refine ⟨sound_start hg, List.forall_mem_nil _, fun v => ?_, List.forall_mem_nil _,
    hedges.symm.subset, fun _ => hedges⟩
  rw [start, VertexSet.contains_insert, VertexSet.contains_empty, VertexSet.bound_empty,
    Bool.false_or, decide_eq_true hg.root_lt, Bool.and_true, beq_iff_eq, eq_comm]
  exact (or_iff_left List.not_mem_nil).symm

theorem Explores.station_marked (h : Explores g es c) {v : VertexId} {n : Nat}
    (hv : v ∈ stations g (upTo c.path n)) : c.discovered.contains v = true := by
  rw [stations, List.mem_append, List.mem_map, List.mem_singleton] at hv
  rw [h.marked]
  rcases hv with ⟨e, he, rfl⟩ | hroot
  · exact .inr (List.mem_map_of_mem (h.path_followed e (List.mem_of_mem_drop he)))
  · exact .inl hroot

/-- A new vertex is not on the path, so all that leaves it comes to wait. -/
theorem Explores.unfolded_of_new (h : Explores g es c)
    (hnew : c.discovered.contains (g.target next.edge) = false) :
    unfolded g c next = pendingFrom g (g.target next.edge) (next.depth + 1) := by
  have haway : onPath g (upTo c.path (next.depth - 1)) (g.target next.edge) = false := by
    rw [Bool.eq_false_iff, ne_eq, onPath_iff]
    intro hmem
    rw [h.station_marked hmem] at hnew
    cases hnew
  rw [unfolded, if_pos (by simp [haway, hnew])]

theorem unfolded_of_marked (hmode : g.mode = .normal)
    (hmarked : c.discovered.contains (g.target next.edge) = true) :
    unfolded g c next = [] := by
  rw [unfolded, if_neg (by simp [hmode, hmarked])]

theorem Explores.follow (hg : g.WellFormed) (h : Explores g es c)
    (hpending : c.pending = next :: rest) :
    Explores g (es ++ [next.edge]) (c.follow g next rest) := by
  have hedge := h.in_range next (mem_pending hpending)
  have htarget := hg.target_lt hedge
  -- what is followed or waits after the step is what was before, and what the step adds
  have hgrows : (es ++ [next.edge] ++ (c.follow g next rest).pending.map Pending.edge).Perm
      (es ++ c.pending.map Pending.edge ++ (unfolded g c next).map Pending.edge) := by
    rw [pending_follow, hpending, List.map_append, List.map_cons, List.append_assoc,
      List.append_assoc, List.singleton_append, List.cons_append]
    exact (List.perm_append_comm.cons _).append_left es
  refine ⟨h.toSound.follow hg hpending, ?_, fun v => ?_, ?_, ?_, fun hmode => ?_⟩
  · exact List.forall_mem_append.2 ⟨h.in_order, List.forall_mem_singleton.2 hedge⟩
  · rw [discovered_follow, VertexSet.contains_insert, h.bound, decide_eq_true htarget,
      Bool.and_true, Bool.or_eq_true, beq_iff_eq, h.marked, List.map_append, List.mem_append,
      List.map_singleton, List.mem_singleton, or_assoc, eq_comm (a := g.target next.edge)]
  · rw [path_follow]
    intro e he
    rcases List.mem_cons.1 he with rfl | hkept
    · exact List.mem_append_right _ (List.mem_singleton_self _)
    · exact List.mem_append_left _ (h.path_followed e (List.mem_of_mem_drop hkept))
  · rw [discovered_follow]
    refine fun e he => hgrows.mem_iff.2 ?_
    cases hseen : c.discovered.contains (g.target next.edge) with
    | true =>
        rw [VertexSet.insert_of_contains hseen] at he
        exact List.mem_append_left _ (h.covered he)
    | false =>
        have hmem := (hg.edgesOf_insert h.bound htarget hseen).mem_iff.1 he
        rw [h.unfolded_of_new hseen, edges_pendingFrom]
        rcases List.mem_append.1 hmem with hold | hleaves
        · exact List.mem_append_left _ (h.covered hold)
        · exact List.mem_append_right _ hleaves
  · rw [discovered_follow]
    refine hgrows.trans (((h.once hmode).append_right _).trans ?_)
    cases hseen : c.discovered.contains (g.target next.edge) with
    | true =>
        rw [unfolded_of_marked hmode hseen, VertexSet.insert_of_contains hseen, List.map_nil,
          List.append_nil]
    | false =>
        rw [h.unfolded_of_new hseen, edges_pendingFrom]
        exact (hg.edgesOf_insert h.bound htarget hseen).symm

theorem Explores.passes (hg : g.WellFormed) (h : Explores g es c) (hp : Passes g c passed) :
    ∃ d, Explores g (es ++ passed.map Prod.fst) d ∧ d.pending = [] := by
  induction passed generalizing es c with
  | nil => exact ⟨c, by rwa [List.map_nil, List.append_nil], hp.2⟩
  | cons q later ih =>
      obtain ⟨hstep, hfin, hlast, hlater⟩ := hp
      obtain ⟨-, ⟨-, hend⟩ | ⟨next, rest, hpending, hd⟩⟩ := step?_cases hstep
      · rw [hend] at hfin
        cases hfin
      · have hedge : next.edge = q.1 := by
          rw [hd, path_follow] at hlast
          exact Option.some.inj hlast
        obtain ⟨last, hexplores, hdone⟩ := ih (hd ▸ h.follow hg hpending) hlater
        rw [hedge, List.append_assoc] at hexplores
        exact ⟨last, hexplores, hdone⟩

/-- When nothing waits the walk has come by every vertex, in normal mode by every edge once. -/
theorem Explores.complete (hg : g.WellFormed) (h : Explores g es c) (hdone : c.pending = [])
    (hreach : ∀ v < g.vertexCount, g.Reachable root v) :
    (∀ v, v ∈ es.map g.target ↔ v ≠ root ∧ v < g.vertexCount) ∧
      (g.mode = .normal → es.Perm (List.range g.edgeCount)) := by
  have hcovered := h.covered
  have honce := h.once
  rw [hdone, List.map_nil, List.append_nil] at hcovered honce
  have hmarked : ∀ v, g.Reachable root v → c.discovered.contains v = true := by
    intro v hv
    induction hv with
    | refl => exact (h.marked root).2 (.inl rfl)
    | tail _ hjoins hu =>
        obtain ⟨e, he, rfl⟩ := hjoins
        obtain ⟨hlt, hsource⟩ := hg.source_eq he
        rw [← hsource] at hu
        exact (h.marked _).2
          (.inr (List.mem_map_of_mem (hcovered (Metaprogram.mem_edgesOf.2 ⟨hlt, hu⟩))))
  refine ⟨fun v => ⟨fun hv => ?_, fun ⟨hne, hlt⟩ => ?_⟩, fun hmode => ?_⟩
  · obtain ⟨e, he, rfl⟩ := List.mem_map.1 hv
    exact ⟨hg.target_ne_root (h.in_order e he), hg.target_lt (h.in_order e he)⟩
  · exact ((h.marked v).1 (hmarked v (hreach v hlt))).resolve_left hne
  · refine (honce hmode).trans (.of_eq (List.filter_eq_self.2 fun e he => ?_))
    exact hmarked _ (hreach _ (hg.source_lt (List.mem_range.1 he)))

/-! ## From stop to stop -/

/-- Going on again and again comes by `stops`, in order, and then to the end. -/
def Continues (g : Metaprogram) (test : Frame → Bool) : Cursor → List Cursor → Prop
  | c, [] => ∃ last, c.continueUntil g test = (.moved, last) ∧ last.finished = true
  | c, d :: later =>
      c.continueUntil g test = (.moved, d) ∧ d.finished = false ∧ Continues g test d later

theorem Continues.congr {stops : List Cursor}
    (heq : c.continueUntil g test = d.continueUntil g test)
    (h : Continues g test d stops) : Continues g test c stops := by
  cases stops with
  | nil => rwa [Continues, heq]
  | cons stop later => rwa [Continues, heq]

/-- The walk goes straight on to its end exactly if there are no stops. -/
theorem Continues.eq_nil_iff {stops : List Cursor} (h : Continues g test c stops) :
    stops = [] ↔ ∃ last, c.continueUntil g test = (.moved, last) ∧ last.finished = true := by
  cases stops with
  | nil => exact iff_of_true rfl h
  | cons d later =>
      obtain ⟨hgo, hfin, -⟩ := h
      refine iff_of_false (List.cons_ne_nil d later) ?_
      rintro ⟨last, hlast, hend⟩
      rw [hgo, Prod.mk.injEq] at hlast
      rw [hlast.2, hend] at hfin
      cases hfin

theorem continueUntil_of_unfinished (h : c.finished = false) :
    c.continueUntil g test =
      (.moved, c.advanceUntil g (frameSatisfies g test) (c.stepBound g)) := by
  rw [continueUntil, if_neg (by rw [h]; exact Bool.false_ne_true)]

theorem Sound.continueUntil_step (test : Frame → Bool) (hg : g.WellFormed) (hc : Sound g c)
    (h : c.step? g = some d) (hd : d.finished = false) :
    c.continueUntil g test =
      if frameSatisfies g test d then (.moved, d) else d.continueUntil g test := by
  rw [continueUntil_of_unfinished (step?_cases h).1, hc.advanceUntil_step hg h,
    continueUntil_of_unfinished hd]
  split
  · rfl
  · rfl

theorem Sound.continueUntil_last (hg : g.WellFormed) (hc : Sound g c)
    (hfin : c.finished = false) (hdone : c.pending = []) :
    ∃ last, c.continueUntil g test = (.moved, last) ∧ last.finished = true := by
  rw [continueUntil_of_unfinished hfin, hc.advanceUntil_step hg (step?_nil hfin hdone),
    advanceUntil_of_finished rfl, ite_self]
  exact ⟨_, rfl, rfl⟩

theorem vertex?_of_head (hfin : c.finished = false) (hhead : c.path.head? = some e) :
    c.vertex? g = some (g.target e) := by
  obtain ⟨before, hpath⟩ := List.head?_eq_some_iff.1 hhead
  rw [vertex?, hfin, hpath]
  rfl

theorem frameSatisfies_of_head (b : Breakpoint) (hfin : c.finished = false)
    (hhead : c.path.head? = some e) :
    frameSatisfies g b.stopsAt c = b.acceptsAt g (g.target e) := by
  obtain ⟨before, hpath⟩ := List.head?_eq_some_iff.1 hhead
  rw [frameSatisfies, frame?, hfin, hpath]
  rfl

/-- The stops are where the vertex that the walk comes by has a name that is accepted. -/
theorem Passes.exists_stops (hg : g.WellFormed) (b : Breakpoint) (hc : Sound g c)
    (h : Passes g c passed) :
    ∃ stops, Continues g b.stopsAt c stops ∧ stops.map (vertex? g) =
      (((passed.map Prod.fst).map g.target).filter (b.acceptsAt g)).map some := by
  induction passed generalizing c with
  | nil => exact ⟨[], hc.continueUntil_last hg h.1 h.2, rfl⟩
  | cons q later ih =>
      obtain ⟨hstep, hfin, hlast, hlater⟩ := h
      obtain ⟨stops, hstops, hvertices⟩ := ih (hc.step? hg hstep) hlater
      have hgo := hc.continueUntil_step b.stopsAt hg hstep hfin
      rw [frameSatisfies_of_head b hfin hlast] at hgo
      rw [List.map_cons, List.map_cons]
      by_cases haccept : b.acceptsAt g (g.target q.1) = true
      · rw [if_pos haccept] at hgo
        rw [List.filter_cons_of_pos haccept]
        refine ⟨q.2 :: stops, ⟨hgo, hfin, hstops⟩, ?_⟩
        rw [List.map_cons, List.map_cons, vertex?_of_head hfin hlast, hvertices]
      · rw [if_neg haccept] at hgo
        rw [List.filter_cons_of_neg haccept]
        exact ⟨stops, hstops.congr hgo, hvertices⟩

end Cursor

/-! ## What is announced -/

theorem Metaprogram.names_eq (g : Metaprogram) :
    g.vertices.toList.map Vertex.name = (List.range g.vertexCount).map g.name := by
  refine List.ext_getElem (by simp [vertexCount]) fun v hv hv' => ?_
  rw [List.getElem_map, List.getElem_map, List.getElem_range, name,
    Array.getElem?_eq_getElem (by simpa using hv), Array.getElem_toList]

/-- The locations of a breakpoint are the vertices other than the root that it accepts. -/
theorem Session.locations_eq (s : Session) (b : Breakpoint) {vs : List VertexId}
    (hnodup : vs.Nodup) (hvs : ∀ v, v ∈ vs ↔
      v ≠ root ∧ v < s.program.vertexCount ∧ b.acceptsAt s.program v = true) :
    s.locations b = vs.length := by
  have hnames : s.locations b =
      ((List.range s.program.vertexCount).drop 1).countP (b.acceptsAt s.program) := by
    have hmap := congrArg (fun names => (names.drop 1).countP b.accepts) s.program.names_eq
    rw [← List.map_drop, ← List.map_drop, List.countP_map, List.countP_map] at hmap
    exact hmap
  rw [hnames, List.countP_eq_length_filter]
  refine List.Perm.length_eq ((List.perm_ext_iff_of_nodup ?_ hnodup).2 fun v => ?_)
  · exact (List.nodup_range.sublist (List.drop_sublist _ _)).filter _
  · have hrange : ∀ m n : Nat, 1 ≤ n ∧ n < 1 + (m - 1) ↔ n ≠ 0 ∧ n < m := by omega
    rw [List.mem_filter, hvs, List.drop_one, List.tail_range, List.mem_range'_1, hrange]
    exact and_assoc

theorem Shell.breakpointNotice_iff (pattern : String) (n : Nat) :
    breakpointNotice pattern n =
      "Breakpoint \"" ++ pattern ++ "\" will never stop the execution" ↔ n = 0 := by
  constructor
  · intro h
    by_contra hne
    rw [breakpointNotice, if_neg hne] at h
    simp [← String.toList_inj] at h
  · rintro rfl
    rfl

/-- What is shown when a breakpoint is added to an evaluated expression. -/
theorem Shell.shown_addBreakpoint {shell : Shell} {s : Session} {args : List Char}
    {b : Breakpoint} (hsession : shell.session = some s) (hargs : args ≠ [])
    (hread : Breakpoint.read? (String.ofList args) = some b) :
    (shell.addBreakpoint args).shown =
      [.rawText (breakpointNotice (String.ofList args) (s.locations b))] := by
  rw [addBreakpoint, if_neg (by simpa using hargs), hsession]
  simp only [hread]

namespace Cursor

/-- Going on to a breakpoint from the start stops at the vertices other than the root whose
name it accepts, at each of them, and in normal mode once for each edge that leads to one of
them. As many vertices are announced when the breakpoint is added. It is said to stop nothing
exactly if the walk goes straight on to its end. -/
theorem continue_stops_at_locations {events : List Event} {mode : Mode}
    {rootName result : String} {g : Metaprogram}
    (h : Metaprogram.ofEvents events mode rootName result = .ok g) (b : Breakpoint) :
    ∃ (stops : List Cursor) (vs : List VertexId),
      Continues g b.stopsAt (start g) stops ∧ stops.map (vertex? g) = vs.map some ∧
      (∀ v, v ∈ vs ↔ v ≠ root ∧ v < g.vertexCount ∧ b.acceptsAt g v = true) ∧
      (mode = .normal → stops.length =
        (List.range g.edgeCount).countP fun e => b.acceptsAt g (g.target e)) ∧
      (∀ s : Session, s.program = g → s.locations b = vs.dedup.length) ∧
      (∀ (shell : Shell) (s : Session) (args : List Char), shell.session = some s →
        s.program = g → args ≠ [] → Breakpoint.read? (String.ofList args) = some b →
          (shell.addBreakpoint args).shown =
            [.rawText (if vs.dedup.length = 0 then
                "Breakpoint \"" ++ String.ofList args ++ "\" will never stop the execution"
              else "Breakpoint \"" ++ String.ofList args ++ "\" will stop the execution on " ++
                Nat.repr vs.dedup.length ++ " location" ++
                  (if vs.dedup.length = 1 then "" else "s"))] ∧
          ((shell.addBreakpoint args).shown = [.rawText
              ("Breakpoint \"" ++ String.ofList args ++ "\" will never stop the execution")] ↔
            ∃ last, (start g).continueUntil g b.stopsAt = (.moved, last) ∧
              last.finished = true)) ∧
      (vs.dedup.length = 0 ↔
        ∃ last, (start g).continueUntil g b.stopsAt = (.moved, last) ∧ last.finished = true) := by
  have hg := Metaprogram.wellFormed_ofEvents h
  obtain ⟨passed, hpasses⟩ := (sound_start hg).exists_passes hg rfl
  obtain ⟨stops, hstops, hvertices⟩ := hpasses.exists_stops hg b (sound_start hg)
  obtain ⟨last, hlast, hdone⟩ := (explores_start hg).passes hg hpasses
  rw [List.nil_append] at hlast
  obtain ⟨hall, honce⟩ := hlast.complete hg hdone fun v => Metaprogram.reachable_of_lt h
  -- from here on only the vertices that the walk came by matter
  generalize passed.map Prod.fst = es at hvertices hall honce
  have hmem : ∀ v, v ∈ (es.map g.target).filter (b.acceptsAt g) ↔
      v ≠ root ∧ v < g.vertexCount ∧ b.acceptsAt g v = true := by
    intro v
    rw [List.mem_filter, hall, and_assoc]
  have hlocations : ∀ s : Session, s.program = g →
      s.locations b = ((es.map g.target).filter (b.acceptsAt g)).dedup.length := by
    rintro s rfl
    exact s.locations_eq b (List.nodup_dedup _) fun v => by rw [List.mem_dedup, hmem]
  have hlength := congrArg List.length hvertices
  rw [List.length_map, List.length_map] at hlength
  have hnone : ((es.map g.target).filter (b.acceptsAt g)).dedup.length = 0 ↔
      ∃ last, (start g).continueUntil g b.stopsAt = (.moved, last) ∧ last.finished = true := by
    rw [← hstops.eq_nil_iff, List.length_eq_zero_iff, List.dedup_eq_nil,
      ← List.length_eq_zero_iff, ← hlength, List.length_eq_zero_iff]
  refine ⟨stops, _, hstops, hvertices, hmem, fun hmode => ?_, hlocations, ?_, hnone⟩
  · have hnormal : g.mode = .normal := by
      rw [Metaprogram.ofEvents_eq_graph h]
      exact hmode
    rw [hlength, ← List.countP_eq_length_filter, List.countP_map, (honce hnormal).countP_eq]
    rfl
  · intro shell s args hsession hprogram hargs hread
    have hshown := Shell.shown_addBreakpoint hsession hargs hread
    rw [hlocations s hprogram] at hshown
    refine ⟨hshown, ?_⟩
    rw [hshown, ← hnone, ← Shell.breakpointNotice_iff, List.singleton_inj,
      Document.rawText.injEq]

/-- The walk stops at `b` inside `a` and at `b` inside `c`, which are one location. -/
theorem continue_stops_at_locations_entwined :
    ∃ g b, Metaprogram.ofEvents entwined .normal "main" "int" = .ok g ∧
      Breakpoint.read? "b" = some b ∧
      ∃ (stops : List Cursor) (vs : List VertexId),
        Continues g b.stopsAt (start g) stops ∧ stops.length = 2 ∧
          stops.map (vertex? g) = vs.map some ∧ vs.dedup.length = 1 ∧
          (Shell.addBreakpoint
            { session := some { expression := "main", program := g, cursor := start g } }
            ['b']).shown =
              [.rawText "Breakpoint \"b\" will stop the execution on 1 location"] := by
  have h : Metaprogram.ofEvents entwined .normal "main" "int" = .ok _ :=
    Metaprogram.ofEvents_of_balanced balanced_entwined
  have hread : Breakpoint.read? "b" = some ((Breakpoint.read? "b").get (by decide +kernel)) :=
    (Option.some_get _).symm
  obtain ⟨stops, vs, hstops, hvertices, -, hnormal, hlocations, hshown, -⟩ :=
    continue_stops_at_locations h ((Breakpoint.read? "b").get (by decide +kernel))
  have hone : vs.dedup.length = 1 := by
    rw [← hlocations { expression := "main", program := _, cursor := default } rfl]
    decide +kernel
  refine ⟨_, _, h, hread, stops, vs, hstops, (hnormal rfl).trans (by decide +kernel), hvertices,
    hone, ?_⟩
  rw [(hshown _ _ ['b'] rfl rfl (List.cons_ne_nil _ _) hread).1, hone]
  rfl

end Cursor

end TemplateTrace
