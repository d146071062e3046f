import TemplateTrace.Proofs.BuilderGraph
import TemplateTrace.Proofs.WalkUndo

/-!
# What a cursor always looks like

The path of a cursor, the edges that wait and the history are three lists that no type ties
together. `Sound` is what does: the path is a chain of edges from the root; every edge that
waits leaves a vertex of that chain, the one at which the chain has to be cut for the edge to
continue it; and the edges that wait deeper come first.

The vertices of the path are distinct except that the last may be an earlier one again. That
alone is not kept by a step, since an edge that continues such a path would make the
repetition an inner one. What rules this out is that an edge waits below a vertex only if the
vertex was new on its path, `open_distinct`.

Only steps forward are looked at. A cursor that moves reach is one that steps from the start
reach, by `WalkUndo.lean`, and so is what a step back finds in the history.
-/

namespace TemplateTrace

namespace Cursor

/-- The first `n` edges of a path, again the last one first. -/
def upTo (path : List EdgeId) (n : Nat) : List EdgeId := path.drop (path.length - n)

/-- The vertices on the way from the root along a path, the last one first. -/
def stations (g : Metaprogram) (path : List EdgeId) : List VertexId :=
  path.map g.target ++ [Metaprogram.root]

/-- Each edge of a path leaves the vertex that the edges before it lead to. -/
def Chain (g : Metaprogram) : List EdgeId → Prop
  | [] => True
  | e :: before => e < g.edgeCount ∧ g.source e = endOf g before ∧ Chain g before

/-- The path, the edges that wait and the marks fit each other. -/
structure Sound (g : Metaprogram) (c : Cursor) : Prop where
  chain : Chain g c.path
  /-- The vertices of the path are distinct, the last one apart. -/
  distinct : (stations g c.path).tail.Nodup
  in_range : ∀ p ∈ c.pending, p.edge < g.edgeCount
  depth_pos : ∀ p ∈ c.pending, 1 ≤ p.depth
  depth_le : ∀ p ∈ c.pending, p.depth ≤ c.path.length + 1
  /-- An edge that waits for depth `d` leaves the vertex at depth `d - 1` of the path. -/
  source_eq : ∀ p ∈ c.pending, g.source p.edge = endOf g (upTo c.path (p.depth - 1))
  /-- The vertices down to the one that it leaves are distinct. -/
  open_distinct : ∀ p ∈ c.pending, (stations g (upTo c.path (p.depth - 1))).Nodup
  /-- The next edge waits deepest. -/
  sorted : c.pending.Pairwise fun p q => q.depth ≤ p.depth
  bound : c.discovered.bound = g.vertexCount

variable {g : Metaprogram} {c d : Cursor} {path : List EdgeId} {m n : Nat}

/-! ## Cutting a path -/

theorem length_upTo (h : n ≤ path.length) : (upTo path n).length = n := by
  rw [upTo, List.length_drop]
  omega

theorem upTo_nil : upTo [] n = [] := List.drop_nil

theorem upTo_length : upTo path path.length = path := by
  rw [upTo, Nat.sub_self, List.drop_zero]

theorem upTo_upTo (hm : m ≤ n) (hn : n ≤ path.length) : upTo (upTo path n) m = upTo path m := by
  rw [upTo, length_upTo hn, upTo, upTo, List.drop_drop]
  congr 1
  omega

theorem upTo_cons {e : EdgeId} (h : n ≤ path.length) : upTo (e :: path) n = upTo path n := by
  rw [upTo, upTo, List.length_cons, Nat.succ_sub h, List.drop_succ_cons]

theorem length_stations : (stations g path).length = path.length + 1 := by
  simp [stations]

theorem stations_cons (e : EdgeId) : stations g (e :: path) = g.target e :: stations g path :=
  rfl

theorem onPath_iff {v : VertexId} : onPath g path v = true ↔ v ∈ stations g path := by
  rw [onPath, stations, List.mem_append, List.mem_singleton, Bool.or_eq_true, beq_iff_eq,
    List.any_eq_true, List.mem_map]
  simp only [beq_iff_eq]
  exact Or.comm

theorem Chain.drop (h : Chain g path) (n : Nat) : Chain g (path.drop n) := by
  induction n generalizing path with
  | zero => exact h
  | succ n ih =>
      cases path with
      | nil => exact h
      | cons e before => exact ih h.2.2

theorem Chain.in_range (h : Chain g path) : ∀ e ∈ path, e < g.edgeCount := by
  induction path with
  | nil => exact fun e he => absurd he List.not_mem_nil
  | cons e before ih => exact List.forall_mem_cons.2 ⟨h.1, ih h.2.2⟩

/-! ## What one step keeps

Following an edge cuts the path, puts the edge on it and adds what leaves the vertex. Edges that
waited before wait no deeper than the one followed, so the cut leaves them their part of the
path; those that are added wait for the whole of it. -/

theorem mem_pendingFrom {v : VertexId} {p : Pending} (hg : g.WellFormed)
    (hv : v < g.vertexCount) (hp : p ∈ pendingFrom g v n) :
    p.depth = n ∧ p.edge < g.edgeCount ∧ g.source p.edge = v := by
  rw [pendingFrom, hg.outEdges_eq hv, List.mem_map] at hp
  obtain ⟨e, he, rfl⟩ := hp
  rw [List.mem_filter, List.mem_range, beq_iff_eq] at he
  exact ⟨rfl, he.1, he.2⟩

theorem pendingFrom_sorted (v : VertexId) :
    (pendingFrom g v n).Pairwise fun p q => q.depth ≤ p.depth := by
  rw [pendingFrom, List.pairwise_map]
  exact List.pairwise_of_forall fun _ _ => Nat.le_refl n

theorem sound_start (hg : g.WellFormed) : Sound g (start g) where
  chain := trivial
  distinct := List.nodup_nil
  in_range := fun _ hp => (mem_pendingFrom hg hg.root_lt hp).2.1
  depth_pos := fun _ hp => Nat.le_of_eq (mem_pendingFrom hg hg.root_lt hp).1.symm
  depth_le := fun _ hp => Nat.le_of_eq (mem_pendingFrom hg hg.root_lt hp).1
  source_eq := fun _ hp => by
    rw [show (start g).path = [] from rfl, upTo_nil]
    exact (mem_pendingFrom hg hg.root_lt hp).2.2
  open_distinct := fun _ _ => by
    rw [show (start g).path = [] from rfl, upTo_nil]
    exact List.pairwise_singleton _ _
  sorted := pendingFrom_sorted _
  bound := by simp [start]

/-- The edges that following one adds to those that wait. -/
def unfolded (g : Metaprogram) (c : Cursor) (next : Pending) : List Pending :=
  if !onPath g (upTo c.path (next.depth - 1)) (g.target next.edge) &&
      (g.mode == .full || !c.discovered.contains (g.target next.edge))
  then pendingFrom g (g.target next.edge) (next.depth + 1) else []

theorem path_follow (next : Pending) (rest : List Pending) :
    (c.follow g next rest).path = next.edge :: upTo c.path (next.depth - 1) := rfl

theorem pending_follow (next : Pending) (rest : List Pending) :
    (c.follow g next rest).pending = unfolded g c next ++ rest := rfl

theorem discovered_follow (next : Pending) (rest : List Pending) :
    (c.follow g next rest).discovered = c.discovered.insert (g.target next.edge) := rfl

/-- What following an edge adds leaves a vertex that was not on the path. -/
theorem mem_unfolded {next p : Pending} (hg : g.WellFormed)
    (hnext : next.edge < g.edgeCount) (hp : p ∈ unfolded g c next) :
    p.depth = next.depth + 1 ∧ p.edge < g.edgeCount ∧ g.source p.edge = g.target next.edge ∧
      g.target next.edge ∉ stations g (upTo c.path (next.depth - 1)) := by
  unfold unfolded at hp
  split at hp
  · next hnew =>
      obtain ⟨hdepth, hedge, hsource⟩ := mem_pendingFrom hg (hg.target_lt hnext) hp
      refine ⟨hdepth, hedge, hsource, fun hmem => ?_⟩
      rw [onPath_iff.2 hmem] at hnew
      simp at hnew
  · exact absurd hp List.not_mem_nil

theorem unfolded_sorted (next : Pending) :
    (unfolded g c next).Pairwise fun p q => q.depth ≤ p.depth := by
  unfold unfolded
  split
  · exact pendingFrom_sorted _
  · exact List.Pairwise.nil

theorem mem_pending {next : Pending} {rest : List Pending} (h : c.pending = next :: rest) :
    next ∈ c.pending := by
  rw [h]
  exact List.mem_cons_self

/-- Following the next edge leaves the path up to any depth that another waits for as it
was. -/
theorem Sound.upTo_follow {next p : Pending} {rest : List Pending} (hc : Sound g c)
    (hpending : c.pending = next :: rest) (hp : p ∈ rest) :
    upTo (c.follow g next rest).path (p.depth - 1) = upTo c.path (p.depth - 1) := by
  have hsorted := hc.sorted
  have hle := hc.depth_le next (mem_pending hpending)
  rw [hpending] at hsorted
  have hdeeper := List.rel_of_pairwise_cons hsorted hp
  have hcut : next.depth - 1 ≤ c.path.length := by omega
  rw [path_follow, upTo_cons (by rw [length_upTo hcut]; omega), upTo_upTo (by omega) hcut]

theorem Sound.follow {next : Pending} {rest : List Pending} (hg : g.WellFormed)
    (hc : Sound g c) (hpending : c.pending = next :: rest) :
    Sound g (c.follow g next rest) := by
  have hnext := mem_pending hpending
  have hrest : ∀ p ∈ rest, p ∈ c.pending := fun p hp => by
    rw [hpending]
    exact List.mem_cons_of_mem _ hp
  have hsorted := hc.sorted
  rw [hpending] at hsorted
  have hdeeper : ∀ p ∈ rest, p.depth ≤ next.depth :=
    fun p hp => List.rel_of_pairwise_cons hsorted hp
  have hpos := hc.depth_pos next hnext
  have hle := hc.depth_le next hnext
  have hlen : (c.follow g next rest).path.length = next.depth := by
    rw [path_follow, List.length_cons, length_upTo (by omega)]
    omega
  have hwhole : upTo (c.follow g next rest).path next.depth = (c.follow g next rest).path := by
    rw [← hlen]
    exact upTo_length
  -- an edge waits after the step because the step added it, or because it waited before
  have hcases : ∀ p ∈ (c.follow g next rest).pending, p ∈ unfolded g c next ∨ p ∈ rest :=
    fun p hp => List.mem_append.1 (by rwa [pending_follow] at hp)
  refine ⟨?_, ?_, fun p hp => ?_, fun p hp => ?_, fun p hp => ?_, fun p hp => ?_,
    fun p hp => ?_, ?_, ?_⟩
  · exact ⟨hc.in_range next hnext, hc.source_eq next hnext, hc.chain.drop _⟩
  · rw [path_follow, stations_cons, List.tail_cons]
    exact hc.open_distinct next hnext
  · rcases hcases p hp with hnew | hold
    · exact (mem_unfolded hg (hc.in_range next hnext) hnew).2.1
    · exact hc.in_range p (hrest p hold)
  · rcases hcases p hp with hnew | hold
    · rw [(mem_unfolded hg (hc.in_range next hnext) hnew).1]
      omega
    · exact hc.depth_pos p (hrest p hold)
  · rw [hlen]
    rcases hcases p hp with hnew | hold
    · exact Nat.le_of_eq (mem_unfolded hg (hc.in_range next hnext) hnew).1
    · exact Nat.le_succ_of_le (hdeeper p hold)
  · rcases hcases p hp with hnew | hold
    · obtain ⟨hdepth, -, hsource, -⟩ := mem_unfolded hg (hc.in_range next hnext) hnew
      rw [hdepth, Nat.add_sub_cancel, hwhole, hsource]
      rfl
    · rw [hc.upTo_follow hpending hold]
      exact hc.source_eq p (hrest p hold)
  · rcases hcases p hp with hnew | hold
    · obtain ⟨hdepth, -, -, hfresh⟩ := mem_unfolded hg (hc.in_range next hnext) hnew
      rw [hdepth, Nat.add_sub_cancel, hwhole, path_follow, stations_cons]
      exact List.nodup_cons.2 ⟨hfresh, hc.open_distinct next hnext⟩
    · rw [hc.upTo_follow hpending hold]
      exact hc.open_distinct p (hrest p hold)
  · rw [pending_follow, List.pairwise_append]
    refine ⟨unfolded_sorted next, List.Pairwise.of_cons hsorted, fun p hp q hq => ?_⟩
    rw [(mem_unfolded hg (hc.in_range next hnext) hp).1]
    exact Nat.le_succ_of_le (hdeeper q hq)
  · rw [discovered_follow, VertexSet.bound_insert]
    exact hc.bound

theorem Sound.step? (hg : g.WellFormed) (hc : Sound g c) (h : c.step? g = some d) :
    Sound g d := by
  obtain ⟨-, ⟨-, rfl⟩ | ⟨next, rest, hpending, rfl⟩⟩ := step?_cases h
  · exact ⟨hc.chain, hc.distinct, hc.in_range, hc.depth_pos, hc.depth_le, hc.source_eq,
      hc.open_distinct, hc.sorted, hc.bound⟩
  · exact hc.follow hg hpending

theorem sound_of_steps? (hg : g.WellFormed) (h : steps? g n (start g) = some c) :
    Sound g c := by
  induction n generalizing c with
  | zero =>
      cases h
      exact sound_start hg
  | succ n ih =>
      rw [steps?_succ] at h
      obtain ⟨b, hb, hstep⟩ := Option.bind_eq_some_iff.1 h
      exact (ih hb).step? hg hstep

/-! ## What follows for the moves

Subtractions and lookups of the walk are total here, with a value also where nothing sensible
can be had. The two structures below say that no move of a sound cursor ever uses such a value. -/

/-- What a step forward takes for granted: no number falls below zero, the path is at least as
long as what is kept of it, and every number of an edge or a vertex is in range. -/
structure StepFits (g : Metaprogram) (c : Cursor) (next : Pending) : Prop where
  depth_pos : 1 ≤ next.depth
  kept_le : next.depth - 1 ≤ c.path.length
  edge_lt : next.edge < g.edgeCount
  target_lt : g.target next.edge < g.vertexCount
  mark_lt : g.target next.edge < c.discovered.bound

/-- What the undoing of a step takes for granted: as many edges wait as the step added, and
the path ends with the edge that it followed. -/
structure UndoFits (g : Metaprogram) (c : Cursor) (popped : Pending) (pushed : Nat) :
    Prop where
  pushed_le : pushed ≤ c.pending.length
  last_eq : c.path.head? = some popped.edge
  edge_lt : popped.edge < g.edgeCount
  mark_lt : g.target popped.edge < c.discovered.bound

theorem Sound.stepFits {next : Pending} (hg : g.WellFormed) (hc : Sound g c)
    (h : next ∈ c.pending) : StepFits g c next where
  depth_pos := hc.depth_pos next h
  kept_le := Nat.sub_le_of_le_add (hc.depth_le next h)
  edge_lt := hc.in_range next h
  target_lt := hg.target_lt (hc.in_range next h)
  mark_lt := by
    rw [hc.bound]
    exact hg.target_lt (hc.in_range next h)

theorem OnCourse.undoFits {popped : Pending} {unwound : List EdgeId} {pushed : Nat}
    {isNew : Bool} {older : List Undo} (hg : g.WellFormed) (hc : OnCourse g c)
    (h : c.history = .follow popped unwound pushed isNew :: older) :
    UndoFits g c popped pushed := by
  have hsound := sound_of_steps? hg hc
  rw [OnCourse, h, List.length_cons, steps?_succ] at hc
  obtain ⟨b, hb, hstep⟩ := Option.bind_eq_some_iff.1 hc
  obtain ⟨-, ⟨-, rfl⟩ | ⟨next, rest, hpending, rfl⟩⟩ := step?_cases hstep
  · cases h
  · injection h with hlast
    injection hlast with hpopped _ hpushed _
    subst hpopped
    have hedge := (sound_of_steps? hg hb).in_range next (mem_pending hpending)
    refine ⟨?_, rfl, hedge, ?_⟩
    · rw [pending_follow, List.length_append, ← hpushed]
      exact Nat.le_add_right _ _
    · rw [hsound.bound]
      exact hg.target_lt hedge

/-- An unfinished backtrace leads from the root to the current frame, one frame for each edge
of the path and one for the root. -/
theorem backtrace_shape (h : c.finished = false) :
    (c.backtrace g).size = c.depth + 1 ∧ (c.backtrace g).get? 0 = some g.rootFrame ∧
      (c.backtrace g).current? = c.frame? g := by
  rw [backtrace, frame?, if_neg (by simp [h]), if_neg (by simp [h])]
  refine ⟨by simp [Backtrace.size, depth], rfl, ?_⟩
  rw [Backtrace.current?]
  cases c.path with
  | nil => rfl
  | cons e before =>
      rw [List.reverse_cons, List.map_append, ← List.cons_append, List.map_singleton,
        List.getLast?_concat]
      rfl

/-- Whatever moves are made on the metaprogram of a trace, the cursor is sound, its backtrace
goes from the root to the current frame, and the next step and its undoing find all that they
take for granted. -/
theorem afterMoves_sound {events : List Event} {mode : Mode} {rootName result : String}
    (h : Metaprogram.ofEvents events mode rootName result = .ok g) (moves : List Move) :
    let c := afterMoves g moves
    Sound g c ∧
      Metaprogram.root < g.vertexCount ∧
      (∀ e ∈ c.path, e < g.edgeCount ∧ g.target e < g.vertexCount) ∧
      (c.finished = false →
        (c.backtrace g).size = c.depth + 1 ∧ (c.backtrace g).get? 0 = some g.rootFrame ∧
          (c.backtrace g).current? = c.frame? g) ∧
      (∀ next ∈ c.pending, StepFits g c next) ∧
      ∀ popped unwound pushed isNew older,
        c.history = .follow popped unwound pushed isNew :: older →
          UndoFits g c popped pushed := by
  intro c
  have hg := Metaprogram.wellFormed_ofEvents h
  have hcourse : OnCourse g c := onCourse_afterMoves g moves
  have hc : Sound g c := sound_of_steps? hg hcourse
  refine ⟨hc, hg.root_lt, fun e he => ?_, backtrace_shape, fun next => hc.stepFits hg,
    fun popped unwound pushed isNew older => hcourse.undoFits hg⟩
  have hlt := hc.chain.in_range e he
  exact ⟨hlt, hg.target_lt hlt⟩

/-- A path that comes back to `a` is sound, and so is what is left of it after moves on. -/
theorem afterMoves_sound_entwined :
    ∃ g, Metaprogram.ofEvents entwined .full "main" "int" = .ok g ∧
      (afterMoves g [.stepInto 3]).path = [2, 1, 0] ∧
      Sound g (afterMoves g [.stepInto 3]) ∧
      (afterMoves g [.stepInto 3, .stepOut, .stepInto 2, .stepBack]).path = [4, 3] ∧
      Sound g (afterMoves g [.stepInto 3, .stepOut, .stepInto 2, .stepBack]) := by
  have h : Metaprogram.ofEvents entwined .full "main" "int" = .ok _ :=
    Metaprogram.ofEvents_of_balanced balanced_entwined
  refine ⟨_, h, by decide, ?_, by decide, ?_⟩
  · exact (afterMoves_sound h _).1
  · exact (afterMoves_sound h _).1

end Cursor

end TemplateTrace
