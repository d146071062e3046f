import TemplateTrace.Proofs.CallGraphCoverage
import TemplateTrace.Proofs.TraceBalance

/-!
# What a builder always holds

A builder may be driven past the events that it refuses, so what it holds is to be said of every
sequence of events and not of the balanced ones only. `Represents` says it without the builder's
stack and table: an edge for each beginning, a vertex for each context, and the beginning that
an edge starts from found by the balance of the events between the two.

The invariant of a single event is `Builder.Follows`, from `BuilderGraph.lean`: the builder
holds the drawing of the outline of its events. A refused end changes neither, since a builder
refuses an end exactly when nothing is open, and then the outline has no stack to take from
(`Follows.next`). What is left is to read the drawing, `represents_graph`.
-/

namespace TemplateTrace

/-- The context that an event begins. -/
def Event.context? : Event → Option String
  | .begins i => some i.context
  | .ends _ _ _ => none

/-- The contexts that are begun, each once, in the order in which they first are. -/
def contextNames (events : List Event) : List String :=
  (events.filterMap Event.context?).eraseDups

namespace Metaprogram

/-- The graph holds some events: the beginning at place `n`, before which `beginCount` others
have come, is the edge of that number, and nothing is in the graph that they do not ask for. -/
structure Represents (g : Metaprogram) (rootName : String) (events : List Event) : Prop where
  edgeCount_eq : g.edgeCount = beginCount events
  edge : ∀ {n i}, events[n]? = some (.begins i) →
    ∃ edge, g.edges[beginCount (events.take n)]? = some edge ∧ edge.kind = i.kind ∧
      edge.location = i.location ∧ edge.time = i.time ∧ edge.memory = i.memory ∧
      g.name edge.target = i.context
  /-- An edge leaves the vertex of the innermost beginning that is open when it comes. -/
  source_inside : ∀ {m n i}, events[n]? = some (.begins i) → Encloses events m n →
    g.source (beginCount (events.take n)) = g.target (beginCount (events.take m))
  source_outside : ∀ {n i}, events[n]? = some (.begins i) → (∀ m, ¬ Encloses events m n) →
    g.source (beginCount (events.take n)) = root
  names_eq : g.vertices.toList.map Vertex.name = rootName :: contextNames events
  names_nodup : (contextNames events).Nodup
  sorted : ∀ v, (g.outEdges v).Pairwise (· < ·)
  mem_outEdges : ∀ {v e}, e ∈ g.outEdges v ↔ e < g.edgeCount ∧ g.source e = v
  source_lt : ∀ {e}, e < g.edgeCount → g.source e < g.vertexCount
  target_lt : ∀ {e}, e < g.edgeCount → g.target e < g.vertexCount
  /-- Not even if a context has the name of the root. -/
  target_ne_root : ∀ {e}, e < g.edgeCount → g.target e ≠ root
  reachable : ∀ {v}, v < g.vertexCount → g.Reachable root v

end Metaprogram

/-- The builder after one more event; one that is refused leaves it as it was. -/
def Builder.next (b : Builder) (event : Event) : Builder :=
  match b.handle event with
  | .ok next => next
  | .error _ => b

/-- The builder after more events, whether it takes or refuses them. -/
def Builder.afterAll (b : Builder) (events : List Event) : Builder := events.foldl next b

/-! ## Events that are refused -/

namespace Builder

variable {b : Builder} {o : Outline} {mode : Mode} {rootName result : String} {event : Event}

theorem Follows.next (h : b.Follows o mode rootName result) (hn : o.Nested) :
    (b.next event).Follows (o.after event) mode rootName result := by
  rw [Builder.next]
  split
  · next hb => exact h.handle hn hb
  · next error hb =>
      cases event with
      | begins i => cases hb
      | ends kind time memory =>
          cases hop : o.opened with
          | nil =>
              have hsame : o.after (.ends kind time memory) = o := by
                rw [Outline.after, hop, List.tail_nil, ← hop]
              rw [hsame]
              exact h
          | cons q below =>
              -- an end that closes something is not refused
              have hopened := h.opened
              rw [hop, List.map_cons] at hopened
              obtain ⟨closed, hclose, -⟩ := close_of_cons kind hopened
              rw [Builder.handle, hclose] at hb
              cases hb

theorem Follows.afterAll (h : b.Follows o mode rootName result) (hn : o.Nested)
    (events : List Event) :
    (b.afterAll events).Follows (o.afterAll events) mode rootName result := by
  induction events generalizing b o with
  | nil => exact h
  | cons event rest ih => exact ih (h.next hn) (hn.after event)

end Builder

/-! ## Reading an outline -/

theorem eraseDups_concat (names : List String) (name : String) :
    (names ++ [name]).eraseDups = addName names.eraseDups name := by
  rw [List.eraseDups_append, addName]
  by_cases hmem : name ∈ names
  · simp [List.removeAll, hmem]
  · simp [List.removeAll, hmem, List.eraseDups_cons]

theorem contextsOf_eq_eraseDups (openings : List Opening) :
    contextsOf openings = (openings.map Opening.context).eraseDups := by
  induction openings using List.reverseRecOn with
  | nil => rfl
  | append_singleton openings p ih =>
      rw [contextsOf_concat, ih, List.map_append, List.map_singleton, eraseDups_concat]

theorem Outline.contexts_afterAll (o : Outline) (events : List Event) :
    (o.afterAll events).openings.map Opening.context =
      o.openings.map Opening.context ++ events.filterMap Event.context? := by
  induction events generalizing o with
  | nil => exact (List.append_nil _).symm
  | cons event rest ih =>
      rw [Outline.afterAll, List.foldl_cons, ← Outline.afterAll, ih]
      cases event with
      | begins i => simp [Outline.after, Event.context?, Opening.context]
      | ends kind time memory => rw [List.filterMap_cons_none rfl, Outline.after]

theorem contextsOf_outline (events : List Event) :
    contextsOf (outline events).openings = contextNames events := by
  rw [contextsOf_eq_eraseDups, outline, Outline.contexts_afterAll]
  rfl

/-- A beginning is in the outline under its number, with what was open when it came. -/
theorem getElem?_openings_outline {events : List Event} {n : Nat} {i : Instantiation}
    (h : events[n]? = some (.begins i)) :
    (outline events).openings[beginCount (events.take n)]? =
      some { instantiation := i, inside := (outline (events.take n)).opened } := by
  obtain ⟨hlt, hget⟩ := List.getElem?_eq_some_iff.1 h
  obtain ⟨more, hmore⟩ := Outline.openings_afterAll
    ((outline (events.take n)).after (.begins i)) (events.drop (n + 1))
  have hsplit : outline events =
      ((outline (events.take n)).after (.begins i)).afterAll (events.drop (n + 1)) := by
    conv_lhs => rw [← List.take_append_drop n events, List.drop_eq_getElem_cons hlt, hget]
    rw [outline, Outline.afterAll_append, ← outline]
    rfl
  rw [hsplit, ← hmore, Outline.after, ← length_openings_outline]
  simp

/-! ## Reading a drawing -/

namespace Metaprogram

variable {mode : Mode} {rootName result : String} {names : List String}
  {openings : List Opening} {events : List Event}

theorem names_draw : (draw mode rootName result names openings).vertices.toList.map Vertex.name =
    rootName :: names := by
  refine List.ext_getElem? fun v => ?_
  simp only [draw, List.getElem?_map, List.getElem?_mapIdx, Option.map_map]
  exact Option.map_id'

theorem WellFormed.outEdges_sorted {g : Metaprogram} (hg : g.WellFormed) (v : VertexId) :
    (g.outEdges v).Pairwise (· < ·) := by
  by_cases hv : v < g.vertexCount
  · rw [hg.outEdges_eq hv]
    exact List.pairwise_lt_range.filter _
  · rw [outEdges_eq_nil (Nat.le_of_not_lt hv)]
    exact List.Pairwise.nil

theorem represents_graph (events : List Event) (mode : Mode) (rootName result : String) :
    ((outline events).graph mode rootName result).Represents rootName events := by
  have hn := Outline.nested_outline events
  have hg : ((outline events).graph mode rootName result).WellFormed := wellFormed_draw hn.known
  refine ⟨?_, fun hi => ?_, fun hi henc => ?_, fun hi hnone => ?_, ?_, ?_, hg.outEdges_sorted,
    ⟨hg.source_eq, ?_⟩, hg.source_lt, hg.target_lt, hg.target_ne_root, reachable_vertex hn⟩
  · rw [Outline.graph, edgeCount_draw, length_openings_outline]
  · have hp := getElem?_openings_outline hi
    have hknown := (hn.known _ (List.mem_of_getElem? hp)).1
    exact ⟨_, getElem?_edges_draw hp, rfl, rfl, rfl, rfl, name_draw hknown⟩
  · obtain ⟨j, hj⟩ := henc.begins
    rw [Outline.graph, source_draw (getElem?_openings_outline hi), sourceOf, henc.opened_eq hj,
      target_draw (getElem?_openings_outline hj)]
    rfl
  · rw [Outline.graph, source_draw (getElem?_openings_outline hi), sourceOf]
    -- something on the stack would enclose the beginning
    split
    · rfl
    · next q i below hopened =>
        obtain ⟨m, henc⟩ := exists_encloses hopened
        exact absurd henc (hnone m)
  · rw [Outline.graph, names_draw, contextsOf_outline]
  · rw [← contextsOf_outline]
    exact nodup_contextsOf _
  · rintro ⟨he, rfl⟩
    exact hg.mem_outEdges he

end Metaprogram

/-- Whatever events a builder is handed, its graph represents them. -/
theorem Builder.afterAll_represents (events : List Event) (mode : Mode)
    (rootName result : String) :
    ((new mode rootName result).afterAll events).program.Represents rootName events := by
  have hfollows := (follows_new mode rootName result).afterAll Outline.nested_empty events
  rw [hfollows.program]
  exact Metaprogram.represents_graph events mode rootName result

end TemplateTrace
