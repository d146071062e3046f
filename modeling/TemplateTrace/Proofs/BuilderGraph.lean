import Mathlib.Data.List.Basic
import Mathlib.Data.List.Induction
import Mathlib.Data.List.Nodup
import TemplateTrace.Graph.Builder
import TemplateTrace.Proofs.TraceOutline

/-!
# The graph that a builder draws

A builder takes events one at a time and keeps a stack, a table of contexts, and the graph
itself with a list of edges at each vertex. Here the same graph is written down at once, from
the outline of the events: `draw` numbers the contexts in the order of their first beginnings,
makes one edge of every beginning, and gives each vertex the edges that leave it in order.

The two steps of a beginning, a vertex for a new context and then the edge, are one lemma each
about drawings, `draw_addVertex` and `draw_addEdge`. `Builder.Follows` ties a builder to an
outline, and one event keeps it. So the metaprogram of a trace is the drawing of its outline,
`ofEvents_eq_graph`, and a trace has one as soon as its brackets balance. What the walks need of
it, `Metaprogram.WellFormed`, is read off the drawing.
-/

namespace TemplateTrace

/-! ## Drawing an outline -/

/-- A list of names with one more at the end, unless it is there already. -/
def addName (names : List String) (name : String) : List String :=
  if name ∈ names then names else names ++ [name]

/-- The contexts of some beginnings, each once, in the order in which they first occur. -/
def contextsOf (openings : List Opening) : List String :=
  openings.foldl (fun names p => addName names p.context) []

/-- The vertex of a context, when `names` are the contexts in order. -/
def vertexOf (names : List String) (context : String) : VertexId := names.idxOf context + 1

/-- The vertex that a beginning leaves: that of the innermost one that it lies inside, or the
root. -/
def sourceOf (names : List String) (p : Opening) : VertexId :=
  match p.inside with
  | [] => Metaprogram.root
  | (_, i) :: _ => vertexOf names i.context

def edgeOf (names : List String) (p : Opening) : Edge :=
  { source := sourceOf names p
    target := vertexOf names p.context
    kind := p.instantiation.kind
    location := p.instantiation.location
    time := p.instantiation.time
    memory := p.instantiation.memory }

/-- The frame of what a beginning instantiates. -/
def Instantiation.frame (i : Instantiation) : Frame := { name := i.context, kind := some i.kind }

/-- The edges that leave a vertex. -/
def leaving (names : List String) (openings : List Opening) (v : VertexId) : List EdgeId :=
  (List.range openings.length).filter fun e => (openings[e]?).any (sourceOf names · == v)

/-- The graph with the given contexts and beginnings. -/
def draw (mode : Mode) (rootName result : String) (names : List String)
    (openings : List Opening) : Metaprogram :=
  { vertices := ((rootName :: names).mapIdx fun v name =>
      { name, outEdges := (leaving names openings v).toArray }).toArray
    edges := (openings.map (edgeOf names)).toArray
    mode, result }

/-- Every context that is begun, or open when one is begun, has a name. -/
def Known (names : List String) (openings : List Opening) : Prop :=
  ∀ p ∈ openings, p.context ∈ names ∧ ∀ q ∈ p.inside, q.2.context ∈ names

section Drawing

variable {mode : Mode} {rootName result : String} {names more : List String}
  {openings : List Opening} {context : String}

theorem vertexOf_append (h : context ∈ names) :
    vertexOf (names ++ more) context = vertexOf names context := by
  rw [vertexOf, vertexOf, List.idxOf_append_of_mem h]

theorem vertexOf_lt (h : context ∈ names) : vertexOf names context < names.length + 1 :=
  Nat.succ_lt_succ (List.idxOf_lt_length_of_mem h)

theorem vertexOf_ne_root (names : List String) (context : String) :
    vertexOf names context ≠ Metaprogram.root :=
  Nat.succ_ne_zero _

theorem vertexOf_inj {other : String} (h : context ∈ names) :
    vertexOf names context = vertexOf names other ↔ context = other := by
  rw [vertexOf, vertexOf, Nat.add_right_cancel_iff]
  exact List.idxOf_inj h

theorem sourceOf_append {p : Opening} (h : ∀ q ∈ p.inside, q.2.context ∈ names) :
    sourceOf (names ++ more) p = sourceOf names p := by
  rw [sourceOf, sourceOf]
  split
  · rfl
  · next q i rest hp => exact vertexOf_append (h (q, i) (by rw [hp]; simp))

theorem sourceOf_lt {p : Opening} (h : ∀ q ∈ p.inside, q.2.context ∈ names) :
    sourceOf names p < names.length + 1 := by
  rw [sourceOf]
  split
  · exact Nat.succ_pos _
  · next q i rest hp => exact vertexOf_lt (h (q, i) (by rw [hp]; simp))

theorem edgeOf_append {p : Opening} (hp : p.context ∈ names)
    (hin : ∀ q ∈ p.inside, q.2.context ∈ names) :
    edgeOf (names ++ more) p = edgeOf names p := by
  rw [edgeOf, edgeOf, sourceOf_append hin, vertexOf_append hp]

theorem leaving_append (h : Known names openings) (v : VertexId) :
    leaving (names ++ more) openings v = leaving names openings v := by
  refine List.filter_congr fun e _ => ?_
  cases hp : openings[e]? with
  | none => rfl
  | some p =>
      rw [Option.any_some, Option.any_some,
        sourceOf_append (h p (List.mem_of_getElem? hp)).2]

/-- No edge leaves a vertex that has yet to come. -/
theorem leaving_eq_nil (h : Known names openings) {v : VertexId} (hv : names.length < v) :
    leaving names openings v = [] := by
  rw [leaving, List.filter_eq_nil_iff]
  intro e _
  cases hp : openings[e]? with
  | none => simp
  | some p =>
      have hlt := sourceOf_lt (h p (List.mem_of_getElem? hp)).2
      rw [Option.any_some, beq_iff_eq]
      exact Nat.ne_of_lt (Nat.lt_of_lt_of_le hlt hv)

theorem leaving_concat (p : Opening) (v : VertexId) :
    leaving names (openings ++ [p]) v =
      leaving names openings v ++ if sourceOf names p == v then [openings.length] else [] := by
  rw [leaving, List.length_append, List.length_singleton, List.range_succ,
    List.filter_append]
  congr 1
  · refine List.filter_congr fun e he => ?_
    rw [List.getElem?_append_left (List.mem_range.1 he)]
  · rw [List.filter_singleton, List.getElem?_concat_length, Option.any_some,
      Bool.cond_eq_ite]

theorem draw_addVertex (h : Known names openings) :
    (draw mode rootName result names openings).addVertex context =
      draw mode rootName result (names ++ [context]) openings := by
  simp only [Metaprogram.addVertex, draw, Metaprogram.mk.injEq, and_true]
  constructor
  · rw [← List.cons_append, List.mapIdx_concat]
    simp only [leaving_append h]
    rw [leaving_eq_nil h (v := (rootName :: names).length) (by simp)]
    simp
  · congr 1
    exact List.map_congr_left fun p hp => (edgeOf_append (h p hp).1 (h p hp).2).symm

theorem draw_addEdge (p : Opening) :
    (draw mode rootName result names openings).addEdge (edgeOf names p) =
      draw mode rootName result names (openings ++ [p]) := by
  simp only [Metaprogram.addEdge, draw, Metaprogram.mk.injEq, and_true]
  constructor
  · apply Array.ext_getElem?
    intro v
    simp only [Array.getElem?_modify, List.getElem?_toArray, List.getElem?_mapIdx,
      leaving_concat, edgeOf]
    cases (rootName :: names)[v]? with
    | none => simp
    | some name =>
        by_cases hv : sourceOf names p = v
        · simp [hv]
        · simp [hv]
  · simp

end Drawing

/-! ## A builder and its outline -/

theorem contextsOf_concat (openings : List Opening) (p : Opening) :
    contextsOf (openings ++ [p]) = addName (contextsOf openings) p.context := by
  rw [contextsOf, List.foldl_append]
  rfl

theorem mem_addName {names : List String} {name other : String} :
    other ∈ addName names name ↔ other ∈ names ∨ name = other := by
  rw [addName]
  split
  · next h =>
      constructor
      · exact Or.inl
      · rintro (h' | rfl)
        · exact h'
        · exact h
  · rw [List.mem_append, List.mem_singleton, eq_comm]

theorem mem_contextsOf {openings : List Opening} {context : String} :
    context ∈ contextsOf openings ↔ ∃ p ∈ openings, p.context = context := by
  induction openings using List.reverseRecOn with
  | nil => simp [contextsOf]
  | append_singleton openings p ih =>
      rw [contextsOf_concat, mem_addName, ih]
      simp only [List.mem_append, List.mem_singleton, or_and_right, exists_or,
        exists_eq_left]

theorem nodup_contextsOf (openings : List Opening) : (contextsOf openings).Nodup := by
  induction openings using List.reverseRecOn with
  | nil => exact List.nodup_nil
  | append_singleton openings p ih =>
      rw [contextsOf_concat, addName]
      split
      · exact ih
      · next hnew =>
          rw [← List.concat_eq_append]
          exact List.Nodup.concat hnew ih

theorem vertexOf_addName {names : List String} {name context : String} (h : context ∈ names) :
    vertexOf (addName names name) context = vertexOf names context := by
  rw [addName]
  split
  · rfl
  · exact vertexOf_append h

def Outline.graph (o : Outline) (mode : Mode) (rootName result : String) : Metaprogram :=
  draw mode rootName result (contextsOf o.openings) o.openings

theorem Outline.Nested.context_mem {o : Outline} (hn : o.Nested) {n : Nat}
    {q : Nat × Instantiation} (hq : q ∈ openAt o.openings n) :
    q.2.context ∈ contextsOf o.openings := by
  obtain ⟨p, hp, hpq⟩ := hn.mem_openings hq
  exact mem_contextsOf.2 ⟨p, List.mem_of_getElem? hp, by rw [Opening.context, hpq]⟩

theorem Outline.Nested.opened_mem {o : Outline} (hn : o.Nested) {q : Nat × Instantiation}
    (hq : q ∈ o.opened) : q.2.context ∈ contextsOf o.openings :=
  hn.context_mem (hn.opened.subset hq)

theorem Outline.Nested.known {o : Outline} (hn : o.Nested) :
    Known (contextsOf o.openings) o.openings := by
  intro p hp
  obtain ⟨n, hget⟩ := List.mem_iff_getElem?.1 hp
  exact ⟨mem_contextsOf.2 ⟨p, hp, rfl⟩, fun q hq => hn.context_mem ((hn.inside hget).subset hq)⟩

/-- The builder holds what the outline says. -/
structure Builder.Follows (b : Builder) (o : Outline) (mode : Mode)
    (rootName result : String) : Prop where
  program : b.program = o.graph mode rootName result
  opened : b.opened = o.opened.map fun q =>
    (vertexOf (contextsOf o.openings) q.2.context, q.2.kind)
  contexts : ∀ context, b.contexts[context]? =
    if context ∈ contextsOf o.openings then some (vertexOf (contextsOf o.openings) context)
    else none

namespace Builder

variable {b b' : Builder} {o : Outline} {mode : Mode} {rootName result : String}

theorem follows_new (mode : Mode) (rootName result : String) :
    (new mode rootName result).Follows {} mode rootName result where
  program := rfl
  opened := rfl
  contexts := fun context => by simp [new, contextsOf]

/-- A vertex for a context: the graph, the table and the number all go by the same names. -/
theorem Follows.withVertex (h : b.Follows o mode rootName result) (hn : o.Nested)
    (context : String) :
    (b.withVertex context).1.program =
        draw mode rootName result (addName (contextsOf o.openings) context) o.openings ∧
      (∀ other, (b.withVertex context).1.contexts[other]? =
        if other ∈ addName (contextsOf o.openings) context
        then some (vertexOf (addName (contextsOf o.openings) context) other) else none) ∧
      (b.withVertex context).1.opened = b.opened ∧
      (b.withVertex context).2 = vertexOf (addName (contextsOf o.openings) context) context := by
  have hcontexts := h.contexts context
  -- a known context changes nothing, a new one gets the next number
  by_cases hmem : context ∈ contextsOf o.openings
  · rw [if_pos hmem] at hcontexts
    rw [addName, if_pos hmem, Builder.withVertex, hcontexts]
    exact ⟨h.program, h.contexts, rfl, rfl⟩
  · rw [if_neg hmem] at hcontexts
    have hcount : b.program.vertexCount =
        vertexOf (contextsOf o.openings ++ [context]) context := by
      rw [h.program, vertexOf, List.idxOf_append_of_notMem hmem]
      simp [Outline.graph, draw, Metaprogram.vertexCount]
    rw [addName, if_neg hmem, Builder.withVertex, hcontexts]
    refine ⟨?_, fun other => ?_, rfl, hcount⟩
    · rw [← draw_addVertex hn.known, h.program]
      rfl
    · simp only [Std.HashMap.getElem?_insert, h.contexts, List.mem_append, List.mem_singleton]
      by_cases heq : context = other
      · subst heq
        simp [hcount]
      · by_cases hother : other ∈ contextsOf o.openings
        · simp [heq, hother, vertexOf_append hother]
        · simp [heq, hother, Ne.symm heq]

theorem Follows.begin (h : b.Follows o mode rootName result) (hn : o.Nested)
    (i : Instantiation) : (b.begin i).Follows (o.after (.begins i)) mode rootName result := by
  obtain ⟨hprogram, hcontexts, hopened, htarget⟩ := h.withVertex hn i.context
  have hnames : contextsOf (o.after (.begins i)).openings =
      addName (contextsOf o.openings) i.context := contextsOf_concat _ _
  have hsource : b.innermost = sourceOf (addName (contextsOf o.openings) i.context)
      { instantiation := i, inside := o.opened } := by
    rw [innermost, h.opened, sourceOf]
    cases hop : o.opened with
    | nil => rfl
    | cons q rest =>
        exact (vertexOf_addName (hn.opened_mem (by rw [hop]; exact List.mem_cons_self))).symm
  refine ⟨?_, ?_, ?_⟩
  · rw [Outline.graph, hnames]
    show _ = draw mode rootName result _ (o.openings ++ [_])
    rw [← draw_addEdge, ← hprogram, edgeOf, ← hsource]
    simp only [Builder.begin, htarget]
    rfl
  · rw [hnames]
    simp only [Builder.begin, Outline.after, List.map_cons, htarget, hopened, h.opened]
    congr 1
    refine List.map_congr_left fun q hq => ?_
    rw [vertexOf_addName (hn.opened_mem hq)]
  · rw [hnames]
    exact hcontexts

theorem Follows.close (h : b.Follows o mode rootName result) {kind : Kind}
    {time : Number.Binary64} {memory : UInt64} (hb : b.close kind = .ok b') :
    b'.Follows (o.after (.ends kind time memory)) mode rootName result := by
  unfold Builder.close at hb
  split at hb
  · cases hb
  · next v openedAs rest hop =>
      cases hb
      refine ⟨h.program, ?_, h.contexts⟩
      have htail := congrArg List.tail (hop.symm.trans h.opened)
      rw [← List.map_tail] at htail
      exact htail

theorem Follows.handle (h : b.Follows o mode rootName result) (hn : o.Nested)
    {event : Event} (hb : b.handle event = .ok b') :
    b'.Follows (o.after event) mode rootName result := by
  cases event with
  | begins i =>
      cases hb
      exact h.begin hn i
  | ends kind time memory => exact h.close hb

theorem Follows.replay (h : b.Follows o mode rootName result) (hn : o.Nested)
    {events : List Event} (hb : b.replay events = (b', none)) :
    b'.Follows (o.afterAll events) mode rootName result := by
  induction events generalizing b o with
  | nil =>
      cases hb
      exact h
  | cons event rest ih =>
      rw [Builder.replay] at hb
      split at hb
      · next next hnext => exact ih (h.handle hn hnext) (hn.after event) hb
      · cases hb

theorem opened_length_begin (b : Builder) (i : Instantiation) :
    (b.begin i).opened.length = b.opened.length + 1 := by
  simp only [Builder.begin, Builder.withVertex]
  split <;> rfl

theorem close_of_nil (kind : Kind) (h : b.opened = []) : b.close kind = .error .mismatched := by
  rw [Builder.close, h]

theorem close_of_cons (kind : Kind) {top : VertexId × Kind} {below : List (VertexId × Kind)}
    (h : b.opened = top :: below) :
    ∃ closed, b.close kind = .ok closed ∧ closed.opened = below := by
  rw [Builder.close, h]
  exact ⟨_, rfl, rfl⟩

/-- A replay meets no error if no end comes with nothing open, and then as many are open at
its end as were begun and not ended. -/
theorem replay_eq_ok {events : List Event}
    (h : ∀ n ≤ events.length,
      endCount (events.take n) ≤ b.opened.length + beginCount (events.take n)) :
    ∃ b', b.replay events = (b', none) ∧
      b'.opened.length + endCount events = b.opened.length + beginCount events := by
  induction events generalizing b with
  | nil => exact ⟨b, rfl, rfl⟩
  | cons event rest ih =>
      have hlater : ∀ n ≤ rest.length, endCount (event :: rest.take n) ≤
          b.opened.length + beginCount (event :: rest.take n) :=
        fun n hn => h (n + 1) (Nat.succ_le_succ hn)
      cases event with
      | begins i =>
          have hlen := opened_length_begin b i
          simp only [beginCount_begins, endCount_begins] at hlater ⊢
          obtain ⟨b', hb', hopen⟩ := ih (b := b.begin i) fun n hn => by
            have := hlater n hn
            omega
          exact ⟨b', hb', by omega⟩
      | ends kind time memory =>
          simp only [beginCount_ends, endCount_ends] at hlater ⊢
          cases hop : b.opened with
          | nil =>
              have hnone := hlater 0 (Nat.zero_le _)
              rw [hop] at hnone
              simp at hnone
          | cons top below =>
              have hlen : b.opened.length = below.length + 1 := by rw [hop]; rfl
              obtain ⟨closed, hclose, hbelow⟩ := close_of_cons kind hop
              obtain ⟨b', hb', hopen⟩ := ih (b := closed) fun n hn => by
                have := hlater n hn
                rw [hbelow]
                omega
              refine ⟨b', ?_, ?_⟩
              · rw [Builder.replay, Builder.handle, hclose]
                exact hb'
              · rw [hbelow] at hopen
                rw [List.length_cons]
                omega

end Builder

namespace Metaprogram

/-- The vertex that an edge leaves. -/
def source (g : Metaprogram) (e : EdgeId) : VertexId :=
  match g.edges[e]? with
  | some edge => edge.source
  | none => root

/-- Edges join vertices, none leads to the root, and each vertex lists the edges that leave it
in order. -/
structure WellFormed (g : Metaprogram) : Prop where
  root_lt : root < g.vertexCount
  source_lt : ∀ {e}, e < g.edgeCount → g.source e < g.vertexCount
  target_lt : ∀ {e}, e < g.edgeCount → g.target e < g.vertexCount
  target_ne_root : ∀ {e}, e < g.edgeCount → g.target e ≠ root
  outEdges_eq : ∀ {v}, v < g.vertexCount →
    g.outEdges v = (List.range g.edgeCount).filter (g.source · == v)

section Drawn

variable {mode : Mode} {rootName result : String} {names : List String}
  {openings : List Opening} {e : EdgeId} {p : Opening} {v : VertexId}

theorem vertexCount_draw :
    (draw mode rootName result names openings).vertexCount = names.length + 1 := by
  simp [draw, vertexCount]

theorem edgeCount_draw :
    (draw mode rootName result names openings).edgeCount = openings.length := by
  simp [draw, edgeCount]

theorem getElem?_edges_draw (hp : openings[e]? = some p) :
    (draw mode rootName result names openings).edges[e]? = some (edgeOf names p) := by
  simp [draw, hp]

theorem source_draw (hp : openings[e]? = some p) :
    (draw mode rootName result names openings).source e = sourceOf names p := by
  rw [source, getElem?_edges_draw hp, edgeOf]

theorem target_draw (hp : openings[e]? = some p) :
    (draw mode rootName result names openings).target e = vertexOf names p.context := by
  rw [target, getElem?_edges_draw hp, edgeOf]

theorem rootFrame_draw :
    (draw mode rootName result names openings).rootFrame = { name := rootName } := by
  simp [draw, rootFrame, Metaprogram.rootName, name, root]

theorem name_draw {context : String} (h : context ∈ names) :
    (draw mode rootName result names openings).name (vertexOf names context) = context := by
  have hget : (rootName :: names)[vertexOf names context]? = some context := by
    rw [vertexOf, List.getElem?_cons_succ, List.getElem?_idxOf h]
  simp only [name, draw, List.getElem?_toArray, List.getElem?_mapIdx, hget, Option.map_some]

theorem edgeFrame_draw (hp : openings[e]? = some p) (h : p.context ∈ names) :
    (draw mode rootName result names openings).edgeFrame e = p.instantiation.frame := by
  rw [edgeFrame, target_draw hp, name_draw h, getElem?_edges_draw hp]
  rfl

theorem outEdges_draw (hv : v < names.length + 1) :
    (draw mode rootName result names openings).outEdges v =
      (List.range openings.length).filter
        ((draw mode rootName result names openings).source · == v) := by
  have hget : (rootName :: names)[v]? = some ((rootName :: names)[v]) :=
    List.getElem?_eq_getElem hv
  have hout : (draw mode rootName result names openings).outEdges v =
      leaving names openings v := by
    simp only [outEdges, draw, List.getElem?_toArray, List.getElem?_mapIdx, hget,
      Option.map_some]
  rw [hout]
  refine List.filter_congr fun e he => ?_
  have hp := List.getElem?_eq_getElem (List.mem_range.1 he)
  rw [hp, Option.any_some, source_draw hp]

theorem wellFormed_draw (h : Known names openings) :
    (draw mode rootName result names openings).WellFormed := by
  have hget : ∀ {e}, e < (draw mode rootName result names openings).edgeCount →
      ∃ p ∈ openings, openings[e]? = some p := fun he => by
    rw [edgeCount_draw] at he
    exact ⟨_, List.getElem_mem he, List.getElem?_eq_getElem he⟩
  refine ⟨?_, fun he => ?_, fun he => ?_, fun he => ?_, fun hv => ?_⟩
  · rw [vertexCount_draw]
    exact Nat.succ_pos _
  · obtain ⟨p, hmem, hp⟩ := hget he
    rw [source_draw hp, vertexCount_draw]
    exact sourceOf_lt (h p hmem).2
  · obtain ⟨p, hmem, hp⟩ := hget he
    rw [target_draw hp, vertexCount_draw]
    exact vertexOf_lt (h p hmem).1
  · obtain ⟨p, -, hp⟩ := hget he
    rw [target_draw hp]
    exact vertexOf_ne_root _ _
  · rw [edgeCount_draw]
    exact outEdges_draw (by rwa [vertexCount_draw] at hv)

end Drawn

variable {events : List Event} {mode : Mode} {rootName result : String} {g : Metaprogram}

/-- A metaprogram that comes out of a trace is the graph of its outline. -/
theorem ofEvents_eq_graph (h : ofEvents events mode rootName result = .ok g) :
    g = (outline events).graph mode rootName result := by
  unfold ofEvents build at h
  split at h
  · cases h
  · next b hb =>
      have hfollows := (Builder.follows_new mode rootName result).replay
        Outline.nested_empty hb
      unfold Builder.finish at h
      split at h
      · next g' hfin =>
          cases h
          split at hfin
          · cases hfin
            exact hfollows.program
          · cases hfin
      · cases h

theorem mode_of_ofEvents (h : ofEvents events mode rootName result = .ok g) : g.mode = mode := by
  rw [ofEvents_eq_graph h]
  rfl

/-- A trace whose brackets balance has a metaprogram. -/
theorem ofEvents_of_balanced (h : Balanced events) :
    ofEvents events mode rootName result = .ok ((outline events).graph mode rootName result) := by
  obtain ⟨b, hb, hopen⟩ := Builder.replay_eq_ok (b := Builder.new mode rootName result)
    fun n hn => Nat.le_trans (h.no_surplus n hn) (Nat.le_add_left _ _)
  have hfollows := (Builder.follows_new mode rootName result).replay Outline.nested_empty hb
  have hclosed : b.opened = [] := by
    rw [h.all_ended] at hopen
    exact List.length_eq_zero_iff.1 (Nat.add_right_cancel hopen)
  rw [ofEvents, build, hb]
  simp only [Builder.finish, hclosed, List.isEmpty_nil, if_true]
  rw [hfollows.program]
  rfl

theorem wellFormed_ofEvents (h : ofEvents events mode rootName result = .ok g) :
    g.WellFormed := by
  rw [ofEvents_eq_graph h]
  exact wellFormed_draw (Outline.nested_outline events).known

end Metaprogram

end TemplateTrace
