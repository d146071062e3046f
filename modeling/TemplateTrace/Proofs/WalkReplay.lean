import TemplateTrace.Proofs.WalkPath

/-!
# Steps replay the trace

A trace has one edge for each of its beginnings, in order, so the edges of its graph carry the
numbers of the beginnings. Where only the first beginning of a context has others directly
inside it, the walk follows these edges in the order of their numbers: the `k`-th step follows
the edge of the `k`-th beginning, and its path is then the stack of those that are open.

The invariant that carries this through the steps is `Replays`. What it says of the edges that
wait is the heart: they are the later beginnings whose cause, the innermost beginning that each
lies inside, has come already, in order. The next of them is always the very next beginning,
because a cause comes before what it causes. Following it adds what it causes itself, and these
come before all others that wait (`filter_append_filter`), since whatever lies outside of a
beginning that is over comes after all that lies inside (`not_caused_later`).

A vertex is entered at the first beginning of its context and then only
(`unfolded_of_first`, `unfolded_of_not_first`), and the edges that leave it are what that
beginning causes (`outEdges_of_first`), so the shared vertices of the graph never show.
-/

namespace TemplateTrace

/-- The beginnings that a beginning lies inside. -/
def insideOf (openings : List Opening) (n : Nat) : List (Nat × Instantiation) :=
  match openings[n]? with
  | some p => p.inside
  | none => []

/-- The innermost beginning that a beginning lies inside, by its number. -/
def causeOf (openings : List Opening) (n : Nat) : Option Nat :=
  (insideOf openings n).head?.map Prod.fst

/-- No earlier beginning has the same context. -/
def IsFirst (openings : List Opening) (n : Nat) : Prop :=
  ∀ m < n, (openings[m]?).map Opening.context ≠ (openings[n]?).map Opening.context

instance (openings : List Opening) (n : Nat) : Decidable (IsFirst openings n) :=
  inferInstanceAs (Decidable (∀ m < n, _ ≠ _))

/-- Only first beginnings of a context have others directly inside them. -/
def OnlyFirstNest (openings : List Opening) : Prop :=
  ∀ p ∈ openings, ∀ q ∈ p.inside.head?, IsFirst openings q.1

instance (openings : List Opening) : Decidable (OnlyFirstNest openings) :=
  inferInstanceAs (Decidable (∀ p ∈ openings, ∀ q ∈ p.inside.head?, IsFirst openings q.1))

section Causes

variable {o : Outline} {k m n : Nat} {p : Opening} {q : Nat × Instantiation}

theorem insideOf_eq (hp : o.openings[n]? = some p) : insideOf o.openings n = p.inside := by
  rw [insideOf, hp]

theorem insideOf_suffix (hn : o.Nested) (n : Nat) :
    insideOf o.openings n <:+ openAt o.openings n := by
  rw [insideOf]
  split
  · next p hp => exact hn.inside hp
  · exact List.nil_suffix

theorem openAt_succ_eq_cons (hp : o.openings[n]? = some p) :
    openAt o.openings (n + 1) = (n, p.instantiation) :: insideOf o.openings n := by
  rw [openAt_succ hp, insideOf_eq hp]

theorem insideOf_of_uncaused (h : causeOf o.openings n = none) :
    insideOf o.openings n = [] := by
  rw [causeOf, Option.map_eq_none_iff, List.head?_eq_none_iff] at h
  exact h

theorem causeOf_eq_some (h : causeOf o.openings n = some k) :
    ∃ i below, insideOf o.openings n = (k, i) :: below := by
  rw [causeOf, Option.map_eq_some_iff] at h
  obtain ⟨⟨m, i⟩, hhead, rfl⟩ := h
  obtain ⟨below, hbelow⟩ := List.head?_eq_some_iff.1 hhead
  exact ⟨i, below, hbelow⟩

/-- What a beginning causes lies inside it and what it lies inside itself. -/
theorem insideOf_of_causeOf (hn : o.Nested) (h : causeOf o.openings n = some k) :
    insideOf o.openings n = openAt o.openings (k + 1) ∧ k < n := by
  obtain ⟨i, below, hin⟩ := causeOf_eq_some h
  obtain ⟨heq, hlt⟩ := hn.openAt_eq (by rw [← hin]; exact insideOf_suffix hn n)
  exact ⟨hin.trans heq.symm, hlt⟩

/-- A beginning that is caused from below `k` does not lie inside `k`. -/
theorem ne_of_mem_insideOf (hn : o.Nested) (hbelow : ∀ m ∈ causeOf o.openings n, m < k)
    (hq : q ∈ insideOf o.openings n) : q.1 ≠ k := by
  cases hcause : causeOf o.openings n with
  | none =>
      rw [insideOf_of_uncaused hcause] at hq
      exact absurd hq List.not_mem_nil
  | some m =>
      rw [(insideOf_of_causeOf hn hcause).1] at hq
      have hle := (hn.openAt_of_mem hq).1
      have hlt := hbelow m hcause
      omega

/-- Once a beginning is caused from below `k`, none after it is caused by `k`. -/
theorem not_caused_later (hn : o.Nested) (hk : k < m)
    (hm : m < o.openings.length) (hbelow : ∀ l ∈ causeOf o.openings m, l < k) (hmn : m < n) :
    causeOf o.openings n ≠ some k := by
  intro hcause
  have hget := List.getElem?_eq_getElem hm
  -- `k` is closed already when `m` comes, and stays so
  have hclosed : ∀ q ∈ openAt o.openings (m + 1), q.1 ≠ k := by
    intro q hq
    rw [openAt_succ_eq_cons hget] at hq
    rcases List.mem_cons.1 hq with rfl | hin
    · exact Nat.ne_of_gt hk
    · exact ne_of_mem_insideOf hn hbelow hin
  obtain ⟨i, below, hin⟩ := causeOf_eq_some hcause
  refine hn.not_inside_later (Nat.lt_succ_of_lt hk) hclosed hmn (k, i) ?_ rfl
  exact (insideOf_suffix hn n).subset (by rw [hin]; exact List.mem_cons_self)

end Causes

/-! ## The edges that wait

Stated of the outline alone; the walk comes in only where these lists turn out to be what waits
in a cursor. -/

/-- The part of a list that meets one test is followed by the part that meets another, if that
is how they come in it. -/
theorem filter_append_filter {α : Type} {p q : α → Bool} {l : List α}
    (horder : l.Pairwise fun a b => q a = true → p b = false)
    (hdisjoint : ∀ a, p a = true → q a = false) :
    l.filter p ++ l.filter q = l.filter fun a => p a || q a := by
  induction l with
  | nil => rfl
  | cons a l ih =>
      obtain ⟨hfirst, hrest⟩ := List.pairwise_cons.1 horder
      have hrest := ih hrest
      cases hp : p a with
      | true => simp [hp, hdisjoint a hp, hrest]
      | false =>
          cases hq : q a with
          | false => simp [hp, hq, hrest]
          | true =>
              have hnone : l.filter p = [] := List.filter_eq_nil_iff.2 fun b hb => by
                simp [hfirst b hb hq]
              rw [hnone, List.nil_append] at hrest
              simp [hp, hq, hnone, hrest]

def fromOn (openings : List Opening) (k : Nat) : List Nat :=
  List.range' k (openings.length - k)

/-- An edge with the depth that its beginning has in the trace. -/
def waitingAt (openings : List Opening) (n : Nat) : Pending :=
  { edge := n, depth := (insideOf openings n).length + 1 }

/-- What waits after `k` beginnings: the later ones whose cause has come, in order. -/
def waiting (openings : List Opening) (k : Nat) : List Pending :=
  ((fromOn openings k).filter fun n => (causeOf openings n).all (· < k)).map
    (waitingAt openings)

/-- What a beginning causes. -/
def causedBy (openings : List Opening) (k : Nat) : List Nat :=
  (fromOn openings (k + 1)).filter fun n => causeOf openings n == some k

section Waiting

variable {o : Outline} {k n : Nat}

theorem waiting_cons (hn : o.Nested) (hk : k < o.openings.length) :
    waiting o.openings k = waitingAt o.openings k ::
      ((fromOn o.openings (k + 1)).filter fun n => (causeOf o.openings n).all (· < k)).map
        (waitingAt o.openings) := by
  have hcause : (causeOf o.openings k).all (· < k) = true := by
    cases hcause : causeOf o.openings k with
    | none => rfl
    | some m => simpa using (insideOf_of_causeOf hn hcause).2
  have hfrom : fromOn o.openings k = k :: fromOn o.openings (k + 1) := by
    rw [fromOn, fromOn, show o.openings.length - k = (o.openings.length - (k + 1)) + 1 by omega,
      List.range'_succ]
  rw [waiting, hfrom, List.filter_cons, if_pos hcause, List.map_cons]

/-- What waits after one more beginning: what it causes, and then what waited under it. -/
theorem waiting_succ (hn : o.Nested) (hk : k < o.openings.length) :
    waiting o.openings (k + 1) = (causedBy o.openings k).map (waitingAt o.openings) ++
      ((fromOn o.openings (k + 1)).filter fun n => (causeOf o.openings n).all (· < k)).map
        (waitingAt o.openings) := by
  rw [waiting, causedBy, ← List.map_append, filter_append_filter]
  -- together the two filters let through what the filter for `k + 1` does
  · congr 1
    refine List.filter_congr fun n _ => ?_
    cases causeOf o.openings n with
    | none => rfl
    | some m =>
        rw [Option.all_some, Option.all_some, Bool.eq_iff_iff]
        simp only [Bool.or_eq_true, decide_eq_true_eq, beq_iff_eq, Option.some.injEq]
        omega
  · rw [fromOn]
    refine List.Pairwise.imp_of_mem ?_ List.pairwise_lt_range'
    intro m n hm _ hmn hbelow
    obtain ⟨hkm, hlt⟩ := List.mem_range'_1.1 hm
    have hnot := not_caused_later hn (k := k) (m := m) (by omega) (by omega)
      (fun l hl => by rw [hl] at hbelow; simpa using hbelow) hmn
    simpa using hnot
  · intro n hn
    rw [beq_iff_eq] at hn
    rw [hn]
    simp

theorem waiting_length : waiting o.openings o.openings.length = [] := by
  rw [waiting, fromOn, Nat.sub_self]
  rfl

end Waiting

/-! ## The edges of the graph

Where a beginning is caused, its edge leaves the vertex to which the edge of its cause leads.
Several edges may lead to that vertex, but only one of them belongs to a first beginning, and a
cause is a first beginning. So what leaves a vertex all has one cause. -/

theorem IsFirst.eq {openings : List Opening} {m n : Nat} (hm : IsFirst openings m)
    (hn : IsFirst openings n)
    (h : (openings[m]?).map Opening.context = (openings[n]?).map Opening.context) : m = n := by
  rcases Nat.lt_trichotomy m n with hlt | heq | hlt
  · exact absurd h (hn m hlt)
  · exact heq
  · exact absurd h.symm (hm n hlt)

theorem isFirst_of_nodup {openings : List Opening} {n : Nat}
    (h : (openings.map Opening.context).Nodup) (hn : n < openings.length) :
    IsFirst openings n := by
  intro m hmn heq
  have hm := Nat.lt_trans hmn hn
  rw [List.getElem?_eq_getElem hn, List.getElem?_eq_getElem hm, Option.map_some,
    Option.map_some, Option.some.injEq] at heq
  rw [List.Nodup, List.pairwise_map, List.pairwise_iff_getElem] at h
  exact h m n hm hn hmn heq

section Sources

variable {o : Outline} {mode : Mode} {rootName result : String} {m n : Nat}

theorem source_graph_of_uncaused (hlt : n < o.openings.length)
    (hcause : causeOf o.openings n = none) :
    (o.graph mode rootName result).source n = Metaprogram.root := by
  have hget := List.getElem?_eq_getElem hlt
  have hin := insideOf_of_uncaused hcause
  rw [insideOf_eq hget] at hin
  rw [Outline.graph, Metaprogram.source_draw hget, sourceOf, hin]

/-- A beginning leaves the vertex to which that of its cause leads. -/
theorem source_graph_of_caused (hn : o.Nested) (hlt : n < o.openings.length)
    (hcause : causeOf o.openings n = some m) :
    (o.graph mode rootName result).source n = (o.graph mode rootName result).target m := by
  have hget := List.getElem?_eq_getElem hlt
  obtain ⟨i, below, hin⟩ := causeOf_eq_some hcause
  obtain ⟨p, hp, hpi⟩ := hn.mem_openings (q := (m, i))
    ((insideOf_suffix hn n).subset (by rw [hin]; exact List.mem_cons_self))
  rw [insideOf_eq hget] at hin
  rw [Outline.graph, Metaprogram.source_draw hget, Metaprogram.target_draw hp, sourceOf, hin,
    Opening.context, hpi]

end Sources

/-- The graph of a trace in which only first beginnings nest, in a mode that shows what lies
below them just once. -/
structure Replayable (o : Outline) (g : Metaprogram) : Prop where
  nested : o.Nested
  only_first : OnlyFirstNest o.openings
  drawn : ∃ rootName result, g = o.graph g.mode rootName result
  once : g.mode = .normal ∨ (o.openings.map Opening.context).Nodup

namespace Replayable

variable {o : Outline} {g : Metaprogram} {k m n : Nat}

theorem wellFormed (h : Replayable o g) : g.WellFormed := by
  obtain ⟨rootName, result, hg⟩ := h.drawn
  rw [hg]
  exact Metaprogram.wellFormed_draw h.nested.known

theorem edgeCount_eq (h : Replayable o g) : g.edgeCount = o.openings.length := by
  obtain ⟨rootName, result, hg⟩ := h.drawn
  rw [hg]
  exact Metaprogram.edgeCount_draw

theorem target_eq_iff (h : Replayable o g) (hm : m < o.openings.length)
    (hn : n < o.openings.length) : g.target m = g.target n ↔
      (o.openings[m]?).map Opening.context = (o.openings[n]?).map Opening.context := by
  obtain ⟨rootName, result, hg⟩ := h.drawn
  have hgetm := List.getElem?_eq_getElem hm
  have hgetn := List.getElem?_eq_getElem hn
  rw [hg, Outline.graph, Metaprogram.target_draw hgetm, Metaprogram.target_draw hgetn,
    vertexOf_inj (mem_contextsOf.2 ⟨_, List.getElem_mem hm, rfl⟩), hgetm, hgetn,
    Option.map_some, Option.map_some, Option.some.injEq]

theorem target_ne_root (h : Replayable o g) (hn : n < o.openings.length) :
    g.target n ≠ Metaprogram.root :=
  h.wellFormed.target_ne_root (by rwa [h.edgeCount_eq])

theorem target_lt (h : Replayable o g) (hn : n < o.openings.length) :
    g.target n < g.vertexCount :=
  h.wellFormed.target_lt (by rwa [h.edgeCount_eq])

theorem source_of_uncaused (h : Replayable o g) (hn : n < o.openings.length)
    (hcause : causeOf o.openings n = none) : g.source n = Metaprogram.root := by
  obtain ⟨rootName, result, hg⟩ := h.drawn
  rw [hg]
  exact source_graph_of_uncaused hn hcause

theorem source_of_caused (h : Replayable o g) (hn : n < o.openings.length)
    (hcause : causeOf o.openings n = some m) : g.source n = g.target m := by
  obtain ⟨rootName, result, hg⟩ := h.drawn
  rw [hg]
  exact source_graph_of_caused h.nested hn hcause

theorem isFirst_of_causeOf (h : Replayable o g) (hn : n < o.openings.length)
    (hcause : causeOf o.openings n = some m) : IsFirst o.openings m := by
  obtain ⟨i, below, hin⟩ := causeOf_eq_some hcause
  rw [insideOf_eq (List.getElem?_eq_getElem hn)] at hin
  exact h.only_first _ (List.getElem_mem hn) (m, i) (by rw [hin]; rfl)

/-- What leaves the root is what nothing causes. -/
theorem pendingFrom_root (h : Replayable o g) :
    Cursor.pendingFrom g Metaprogram.root 1 = waiting o.openings 0 := by
  have hleave : (List.range o.openings.length).filter (g.source · == Metaprogram.root) =
      (List.range o.openings.length).filter fun n =>
        (causeOf o.openings n).all (· < 0) := by
    refine List.filter_congr fun n hn => ?_
    rw [List.mem_range] at hn
    cases hcause : causeOf o.openings n with
    | none => rw [h.source_of_uncaused hn hcause]; rfl
    | some m =>
        obtain ⟨-, hmn⟩ := insideOf_of_causeOf h.nested hcause
        have hne := h.target_ne_root (Nat.lt_trans hmn hn)
        rw [h.source_of_caused hn hcause, beq_false_of_ne hne]
        rfl
  rw [Cursor.pendingFrom, h.wellFormed.outEdges_eq h.wellFormed.root_lt, h.edgeCount_eq,
    waiting, fromOn, Nat.sub_zero, ← List.range_eq_range', hleave]
  refine List.map_congr_left fun n hn => ?_
  obtain ⟨-, hcause⟩ := List.mem_filter.1 hn
  cases hnone : causeOf o.openings n with
  | none =>
      rw [waitingAt, insideOf_of_uncaused hnone]
      rfl
  | some m =>
      rw [hnone] at hcause
      simp at hcause

/-- What leaves the vertex of a first beginning is what that beginning causes. -/
theorem outEdges_of_first (h : Replayable o g) (hk : k < o.openings.length)
    (hfirst : IsFirst o.openings k) : g.outEdges (g.target k) = causedBy o.openings k := by
  have hsplit : List.range o.openings.length =
      List.range' 0 (k + 1) ++ fromOn o.openings (k + 1) := by
    have happend := List.range'_append_1 (s := 0) (m := k + 1) (n := o.openings.length - (k + 1))
    rw [Nat.zero_add, Nat.add_sub_cancel' hk] at happend
    rw [List.range_eq_range', fromOn, happend]
  have hnone : (List.range' 0 (k + 1)).filter (causeOf o.openings · == some k) = [] := by
    refine List.filter_eq_nil_iff.2 fun n hn hcause => ?_
    obtain ⟨-, hlt⟩ := insideOf_of_causeOf h.nested (beq_iff_eq.1 hcause)
    obtain ⟨-, hle⟩ := List.mem_range'_1.1 hn
    omega
  rw [h.wellFormed.outEdges_eq (h.target_lt hk), h.edgeCount_eq, causedBy]
  rw [← List.nil_append (List.filter _ (fromOn _ _)), ← hnone, ← List.filter_append, ← hsplit]
  refine List.filter_congr fun n hn => ?_
  rw [List.mem_range] at hn
  cases hcause : causeOf o.openings n with
  | none =>
      rw [h.source_of_uncaused hn hcause]
      simpa using (h.target_ne_root hk).symm
  | some m =>
      obtain ⟨-, hmn⟩ := insideOf_of_causeOf h.nested hcause
      rw [h.source_of_caused hn hcause, Bool.eq_iff_iff, beq_iff_eq, beq_iff_eq,
        h.target_eq_iff (Nat.lt_trans hmn hn) hk, Option.some.injEq]
      constructor
      · exact (h.isFirst_of_causeOf hn hcause).eq hfirst
      · rintro rfl
        rfl

theorem pendingFrom_first (h : Replayable o g) (hk : k < o.openings.length)
    (hfirst : IsFirst o.openings k) :
    Cursor.pendingFrom g (g.target k) ((waitingAt o.openings k).depth + 1) =
      (causedBy o.openings k).map (waitingAt o.openings) := by
  rw [Cursor.pendingFrom, h.outEdges_of_first hk hfirst]
  refine List.map_congr_left fun n hn => ?_
  obtain ⟨-, hcause⟩ := List.mem_filter.1 hn
  obtain ⟨hin, -⟩ := insideOf_of_causeOf h.nested (beq_iff_eq.1 hcause)
  rw [waitingAt, waitingAt, hin, openAt_succ_eq_cons (List.getElem?_eq_getElem hk),
    List.length_cons]

theorem causedBy_of_not_first (h : Replayable o g) (hfirst : ¬ IsFirst o.openings k) :
    causedBy o.openings k = [] := by
  refine List.filter_eq_nil_iff.2 fun n hn hcause => hfirst ?_
  obtain ⟨hle, hlt⟩ := List.mem_range'_1.1 hn
  exact h.isFirst_of_causeOf (by omega) (beq_iff_eq.1 hcause)

end Replayable

/-! ## The walk -/

namespace Cursor

/-- After `k` beginnings: their stack is the path, what their causes let come waits, and the
vertices that were entered are theirs. -/
structure Replays (o : Outline) (g : Metaprogram) (k : Nat) (c : Cursor) : Prop where
  finished : c.finished = false
  path : c.path = (openAt o.openings k).map Prod.fst
  pending : c.pending = waiting o.openings k
  discovered : ∀ n < o.openings.length,
    c.discovered.contains (g.target n) = true ↔ ∃ m < k, g.target m = g.target n
  bound : c.discovered.bound = g.vertexCount

section Replay

variable {o : Outline} {g : Metaprogram} {k : Nat} {c : Cursor}

theorem replays_start (h : Replayable o g) : Replays o g 0 (start g) where
  finished := rfl
  path := rfl
  pending := h.pendingFrom_root
  discovered := fun n hn => by
    rw [start, VertexSet.contains_insert, VertexSet.contains_empty]
    simp [Ne.symm (h.target_ne_root hn)]
  bound := by rw [start, VertexSet.bound_insert, VertexSet.bound_empty]

/-- The path is cut where the next beginning lies inside. -/
theorem Replays.kept (h : Replayable o g) (hc : Replays o g k c) :
    upTo c.path ((waitingAt o.openings k).depth - 1) =
      (insideOf o.openings k).map Prod.fst := by
  have hdrop := List.suffix_iff_eq_drop.1 (insideOf_suffix h.nested k)
  rw [waitingAt, Nat.add_sub_cancel, upTo, hc.path, List.length_map, ← List.map_drop, ← hdrop]

theorem Replays.unfolded_of_first (h : Replayable o g) (hk : k < o.openings.length)
    (hfirst : IsFirst o.openings k) (hc : Replays o g k c) :
    unfolded g c (waitingAt o.openings k) =
      (causedBy o.openings k).map (waitingAt o.openings) := by
  have hfresh : ∀ m < k, g.target m ≠ g.target k :=
    fun m hm heq => hfirst m hm ((h.target_eq_iff (Nat.lt_trans hm hk) hk).1 heq)
  have hpath : onPath g ((insideOf o.openings k).map Prod.fst) (g.target k) = false := by
    rw [Bool.eq_false_iff, ne_eq, onPath_iff, stations, List.mem_append, List.mem_singleton,
      List.map_map, List.mem_map]
    rintro (⟨q, hq, heq⟩ | heq)
    · obtain ⟨hlt, -⟩ := h.nested.openAt_of_mem ((insideOf_suffix h.nested k).subset hq)
      exact hfresh q.1 hlt heq
    · exact h.target_ne_root hk heq
  have hunseen : c.discovered.contains (g.target k) = false := by
    rw [Bool.eq_false_iff, ne_eq, hc.discovered k hk]
    rintro ⟨m, hm, heq⟩
    exact hfresh m hm heq
  rw [unfolded, hc.kept h]
  rw [if_pos (by simp [waitingAt, hpath, hunseen])]
  exact h.pendingFrom_first hk hfirst

theorem Replays.unfolded_of_not_first (h : Replayable o g) (hnormal : g.mode = .normal)
    (hk : k < o.openings.length) (hfirst : ¬ IsFirst o.openings k) (hc : Replays o g k c) :
    unfolded g c (waitingAt o.openings k) = [] := by
  have hseen : c.discovered.contains (g.target k) = true := by
    rw [hc.discovered k hk]
    by_contra hnone
    refine hfirst fun m hm heq => hnone ⟨m, hm, ?_⟩
    exact (h.target_eq_iff (Nat.lt_trans hm hk) hk).2 heq
  rw [unfolded, if_neg (by simp [waitingAt, hseen, hnormal])]

theorem Replays.unfolded_eq (h : Replayable o g) (hk : k < o.openings.length)
    (hc : Replays o g k c) :
    unfolded g c (waitingAt o.openings k) =
      (causedBy o.openings k).map (waitingAt o.openings) := by
  -- only in normal mode is there anything but first beginnings to follow
  by_cases hfirst : IsFirst o.openings k
  · exact hc.unfolded_of_first h hk hfirst
  · have hnormal : g.mode = .normal := by
      rcases h.once with hmode | hnodup
      · exact hmode
      · exact absurd (isFirst_of_nodup hnodup hk) hfirst
    rw [h.causedBy_of_not_first hfirst, List.map_nil]
    exact hc.unfolded_of_not_first h hnormal hk hfirst

theorem Replays.step (h : Replayable o g) (hk : k < o.openings.length)
    (hc : Replays o g k c) : ∃ d, c.step? g = some d ∧ Replays o g (k + 1) d := by
  have hpending := hc.pending.trans (waiting_cons h.nested hk)
  refine ⟨_, step?_cons hc.finished hpending, rfl, ?_, ?_, fun n hn => ?_, ?_⟩
  · rw [path_follow, hc.kept h, openAt_succ_eq_cons (List.getElem?_eq_getElem hk)]
    rfl
  · rw [pending_follow, hc.unfolded_eq h hk, waiting_succ h.nested hk]
  · rw [discovered_follow, VertexSet.contains_insert, hc.bound, Bool.or_eq_true,
      hc.discovered n hn, Nat.exists_lt_succ_right]
    simp [waitingAt, h.target_lt hk]
  · rw [discovered_follow, VertexSet.bound_insert]
    exact hc.bound

theorem replays_steps (h : Replayable o g) (hk : k ≤ o.openings.length) :
    ∃ c, steps? g k (start g) = some c ∧ Replays o g k c := by
  induction k with
  | zero => exact ⟨_, rfl, replays_start h⟩
  | succ k ih =>
      obtain ⟨c, hsteps, hc⟩ := ih (Nat.le_of_succ_le hk)
      obtain ⟨d, hstep, hd⟩ := hc.step h hk
      refine ⟨d, ?_, hd⟩
      rw [steps?_succ, hsteps]
      exact hstep

theorem Replays.backtrace_eq (h : Replayable o g) (hc : Replays o g k c) :
    c.backtrace g = ⟨g.rootFrame :: (openAt o.openings k).reverse.map (·.2.frame)⟩ := by
  obtain ⟨rootName, result, hg⟩ := h.drawn
  rw [backtrace, if_neg (by simp [hc.finished]), hc.path, ← List.map_reverse, List.map_map]
  congr 2
  refine List.map_congr_left fun q hq => ?_
  obtain ⟨p, hp, hpq⟩ := h.nested.mem_openings (List.mem_reverse.1 hq)
  rw [← hpq, Function.comp_apply, hg]
  exact Metaprogram.edgeFrame_draw hp (mem_contextsOf.2 ⟨p, List.mem_of_getElem? hp, rfl⟩)

end Replay

/-- Steps through the metaprogram of a trace in which only first beginnings of a context have
others directly inside them go by the beginnings of the trace, one for each, and every backtrace
on the way has the beginnings that are open right after that one. The full mode replays so if
every context is begun once. -/
theorem steps_replay_trace {events : List Event} {mode : Mode} (hbalanced : Balanced events)
    (honly : OnlyFirstNest (outline events).openings)
    (hmode : mode = .normal ∨ ((outline events).openings.map Opening.context).Nodup)
    (rootName result : String) :
    ∃ g, Metaprogram.ofEvents events mode rootName result = .ok g ∧
      (∀ k ≤ beginCount events, ∃ c, steps? g k (start g) = some c ∧
        c.backtrace g = ⟨{ name := rootName } ::
          (outline (throughBegin k events)).opened.reverse.map (·.2.frame)⟩) ∧
      ∃ c, steps? g (beginCount events + 1) (start g) = some c ∧ c.finished = true := by
  have hlen := length_openings_outline events
  have h : Replayable (outline events) ((outline events).graph mode rootName result) :=
    ⟨Outline.nested_outline events, honly, ⟨rootName, result, rfl⟩, hmode⟩
  refine ⟨_, Metaprogram.ofEvents_of_balanced hbalanced, fun k hk => ?_, ?_⟩
  · obtain ⟨c, hsteps, hc⟩ := replays_steps h (hlen ▸ hk)
    refine ⟨c, hsteps, ?_⟩
    rw [hc.backtrace_eq h, opened_outline_throughBegin hk, Outline.graph,
      Metaprogram.rootFrame_draw]
  · obtain ⟨c, hsteps, hc⟩ := replays_steps h (Nat.le_refl _)
    rw [hlen] at hsteps
    rw [steps?_succ, hsteps]
    exact ⟨_, step?_nil hc.finished (hc.pending.trans waiting_length), rfl⟩

/-- The fifth step stands at `b` inside `c`, which is all that is open then, and the sixth
finishes. -/
theorem steps_replay_trace_entwined :
    ∃ g, Metaprogram.ofEvents entwined .normal "main" "int" = .ok g ∧
      (∃ c, steps? g 5 (start g) = some c ∧ (c.backtrace g).frames.map Frame.name =
        ["main", "c", "b"]) ∧
      ∃ c, steps? g 6 (start g) = some c ∧ c.finished = true := by
  obtain ⟨g, hg, hbacktraces, hend⟩ := steps_replay_trace balanced_entwined (by decide) (Or.inl rfl)
    "main" "int"
  refine ⟨g, hg, ?_, hend⟩
  obtain ⟨c, hsteps, hc⟩ := hbacktraces 5 (by decide)
  exact ⟨c, hsteps, by rw [hc]; decide⟩

end Cursor

end TemplateTrace
