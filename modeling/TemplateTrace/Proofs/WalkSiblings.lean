import TemplateTrace.Proofs.BuilderInvariant
import TemplateTrace.Proofs.WalkEnd

/-!
# Over and out

To step over the current frame, or out of it, is to walk on until the walk is no deeper than it
was, or no deeper than the frame above. Only depths are compared, and where that ends is up to
what waits.

What waits can be read off the path. At each edge of it those of its siblings wait that come
after it, and at its end everything that leaves the last vertex, or nothing if that vertex was
not entered: `Awaits` holds at the start and every step keeps it, in both modes and whatever was
repeated. The deepest wait on top. So a walk that is to come up to some depth first has done with
all that waits deeper, which never touches the path down to that depth, and then follows what is
on top of the rest (`GoesOn.rises`): the next sibling of the last edge that has one.
-/

namespace TemplateTrace

open Worklist (pendingAt)

namespace Metaprogram

/-- Two edges leave one vertex, the second right after the first. -/
def NextSibling (g : Metaprogram) (e f : EdgeId) : Prop :=
  ∃ before after, g.outEdges (g.source e) = before ++ e :: f :: after

/-- The edges that leave the same vertex as an edge, and come after it. -/
def laterSiblings (g : Metaprogram) (e : EdgeId) : List EdgeId :=
  (g.outEdges (g.source e)).filter (e < ·)

variable {g : Metaprogram} {e f : EdgeId} {v : VertexId} {before after : List EdgeId}

theorem WellFormed.laterSiblings_eq (hg : g.WellFormed)
    (h : g.outEdges v = before ++ e :: after) : g.laterSiblings e = after := by
  have hmem : e ∈ g.outEdges v := by rw [h]; simp
  have hsorted := hg.outEdges_sorted v
  rw [h, List.pairwise_append, List.pairwise_cons] at hsorted
  obtain ⟨-, ⟨hlater, -⟩, hearlier⟩ := hsorted
  have hbefore : before.filter (e < ·) = [] := by
    rw [List.filter_eq_nil_iff]
    intro d hd
    simpa using Nat.le_of_lt (hearlier d hd e List.mem_cons_self)
  have hafter : after.filter (e < ·) = after := by
    rw [List.filter_eq_self]
    intro d hd
    simp [hlater d hd]
  rw [laterSiblings, (hg.source_eq hmem).2, h, List.filter_append, hbefore,
    List.filter_cons_of_neg (by simp), hafter, List.nil_append]

/-- An edge has a next sibling exactly if some come after it, and it is the first of them. -/
theorem WellFormed.nextSibling_iff (hg : g.WellFormed) (he : e < g.edgeCount) :
    g.NextSibling e f ↔ ∃ more, g.laterSiblings e = f :: more := by
  constructor
  · rintro ⟨before, after, h⟩
    exact ⟨after, hg.laterSiblings_eq h⟩
  · rintro ⟨more, hmore⟩
    obtain ⟨before, after, h⟩ := List.append_of_mem (hg.mem_outEdges he)
    rw [hg.laterSiblings_eq h] at hmore
    exact ⟨before, more, by rw [h, hmore]⟩

theorem WellFormed.laterSiblings_next (hg : g.WellFormed) (he : e < g.edgeCount)
    {more : List EdgeId} (h : g.laterSiblings e = f :: more) : g.laterSiblings f = more := by
  obtain ⟨before, after, hsplit⟩ := List.append_of_mem (hg.mem_outEdges he)
  rw [hg.laterSiblings_eq hsplit] at h
  have hshifted : g.outEdges (g.source e) = (before ++ [e]) ++ f :: more := by
    rw [hsplit, h, List.append_assoc, List.singleton_append]
  exact hg.laterSiblings_eq hshifted

end Metaprogram

namespace Cursor

variable {g : Metaprogram} {c d : Cursor} {e f : EdgeId} {m : Nat} {next : Pending}
  {path deeper above : List EdgeId} {rest deep high : List Pending} {P Q : Cursor → Prop}

/-! ## What waits beside a path -/

/-- The later siblings of the edges of a path, those of the last edge first. -/
def waitingBeside (g : Metaprogram) : List EdgeId → List Pending
  | [] => []
  | e :: above => pendingAt (above.length + 1) (g.laterSiblings e) ++ waitingBeside g above

/-- What waits is what leaves the current vertex, if it was entered, and beside the path. -/
def Awaits (g : Metaprogram) (c : Cursor) : Prop :=
  ∃ below, (below = [] ∨ below = g.outEdges (endOf g c.path)) ∧
    c.pending = pendingAt (c.path.length + 1) below ++ waitingBeside g c.path

theorem depth_of_mem_pendingAt {n : Nat} {es : List EdgeId} {p : Pending}
    (hp : p ∈ pendingAt n es) : p.depth = n := by
  obtain ⟨e, -, rfl⟩ := List.mem_map.1 hp
  rfl

theorem depth_le_of_mem_waitingBeside {p : Pending} (hp : p ∈ waitingBeside g path) :
    p.depth ≤ path.length := by
  induction path with
  | nil => exact absurd hp List.not_mem_nil
  | cons e above ih =>
      rw [List.length_cons]
      rcases List.mem_append.1 hp with hp | hp
      · exact Nat.le_of_eq (depth_of_mem_pendingAt hp)
      · exact Nat.le_succ_of_le (ih hp)

/-- Edges without later siblings add nothing. -/
theorem waitingBeside_append (h : ∀ e ∈ deeper, g.laterSiblings e = []) :
    waitingBeside g (deeper ++ path) = waitingBeside g path := by
  induction deeper with
  | nil => rfl
  | cons e deeper ih =>
      obtain ⟨he, hdeeper⟩ := List.forall_mem_cons.1 h
      rw [List.cons_append, waitingBeside, he, ih hdeeper]
      rfl

/-- What waits on top beside a path is the first later sibling of the last edge that has any. -/
theorem waitingBeside_eq_cons (h : waitingBeside g path = next :: rest) :
    ∃ deeper e above more, path = deeper ++ e :: above ∧ next.depth = above.length + 1 ∧
      g.laterSiblings e = next.edge :: more ∧
      rest = pendingAt next.depth more ++ waitingBeside g above := by
  induction path with
  | nil => cases h
  | cons e above ih =>
      rw [waitingBeside] at h
      cases hlater : g.laterSiblings e with
      | nil =>
          rw [hlater] at h
          obtain ⟨deeper, e', above', more, hpath, hrest⟩ := ih h
          exact ⟨e :: deeper, e', above', more, by rw [hpath, List.cons_append], hrest⟩
      | cons f more =>
          rw [hlater] at h
          injection h with hnext hrest
          subst hnext
          exact ⟨[], e, above, more, rfl, rfl, hlater, hrest.symm⟩

theorem upTo_append : upTo (deeper ++ path) path.length = path := by
  rw [upTo, List.length_append, Nat.add_sub_cancel, List.drop_left]

/-! ## A step keeps it -/

theorem awaits_start (g : Metaprogram) : Awaits g (start g) :=
  ⟨g.outEdges Metaprogram.root, .inr rfl, (List.append_nil _).symm⟩

theorem Sound.depth_follow (hc : Sound g c) (hpending : c.pending = next :: rest) :
    (c.follow g next rest).depth = next.depth := by
  have hpos := hc.depth_pos next (mem_pending hpending)
  have hle := hc.depth_le next (mem_pending hpending)
  rw [depth, path_follow, List.length_cons, length_upTo (by omega)]
  omega

/-- The next edge continues the path where it is cut for it. After it wait its later siblings,
and then what waits beside the path above it. -/
theorem Awaits.rest_eq (hg : g.WellFormed) (hc : Sound g c) (h : Awaits g c)
    (hpending : c.pending = next :: rest) :
    rest = pendingAt next.depth (g.laterSiblings next.edge) ++
      waitingBeside g (upTo c.path (next.depth - 1)) := by
  obtain ⟨below, hbelow, hwaits⟩ := h
  rw [hpending] at hwaits
  cases hcase : below with
  | cons e es =>
      -- the walk goes down: the edge is the first that leaves the current vertex
      rw [hcase] at hwaits hbelow
      have hout : g.outEdges (endOf g c.path) = [] ++ e :: es :=
        (hbelow.resolve_left (List.cons_ne_nil e es)).symm
      injection hwaits with hnext hrest
      subst hnext
      have hup : upTo c.path (c.path.length + 1 - 1) = c.path := upTo_length
      rw [hup, hg.laterSiblings_eq hout]
      exact hrest
  | nil =>
      rw [hcase] at hwaits
      obtain ⟨deeper, e, above, more, hpath, hdepth, hlater, hrest⟩ :=
        waitingBeside_eq_cons hwaits.symm
      have he : e < g.edgeCount := hc.chain.in_range e (by rw [hpath]; simp)
      have hup : deeper ++ e :: above = (deeper ++ [e]) ++ above := by simp
      have habove : upTo c.path (next.depth - 1) = above := by
        rw [hdepth, Nat.add_sub_cancel, hpath, hup, upTo_append]
      rw [habove, hg.laterSiblings_next he hlater, hrest]

/-- After a step down what it added waits on top of what waits beside the new path. -/
theorem Awaits.pending_follow (hg : g.WellFormed) (hc : Sound g c) (h : Awaits g c)
    (hpending : c.pending = next :: rest) :
    (c.follow g next rest).pending =
      unfolded g c next ++ waitingBeside g (c.follow g next rest).path := by
  have hpos := hc.depth_pos next (mem_pending hpending)
  have hle := hc.depth_le next (mem_pending hpending)
  have hdepth : (upTo c.path (next.depth - 1)).length + 1 = next.depth := by
    rw [length_upTo (by omega)]
    omega
  rw [Cursor.pending_follow, path_follow, waitingBeside, hdepth, h.rest_eq hg hc hpending]

theorem Awaits.follow (hg : g.WellFormed) (hc : Sound g c) (h : Awaits g c)
    (hpending : c.pending = next :: rest) : Awaits g (c.follow g next rest) := by
  have hdepth : (c.follow g next rest).path.length = next.depth :=
    hc.depth_follow hpending
  have hout : unfolded g c next = [] ∨
      unfolded g c next = pendingFrom g (g.target next.edge) (next.depth + 1) := by
    unfold unfolded
    split
    · exact .inr rfl
    · exact .inl rfl
  have hwaits := h.pending_follow hg hc hpending
  rcases hout with hnone | hall
  · rw [hnone] at hwaits
    exact ⟨[], .inl rfl, hwaits⟩
  · rw [hall, ← hdepth] at hwaits
    exact ⟨_, .inr rfl, hwaits⟩

theorem Awaits.step? (hg : g.WellFormed) (hc : Sound g c) (h : Awaits g c)
    (hstep : c.step? g = some d) : Awaits g d := by
  obtain ⟨-, ⟨-, rfl⟩ | ⟨next, rest, hpending, rfl⟩⟩ := step?_cases hstep
  · exact h
  · exact h.follow hg hc hpending

theorem awaits_of_steps? {n : Nat} (hg : g.WellFormed) (h : steps? g n (start g) = some c) :
    Awaits g c := by
  induction n generalizing c with
  | zero =>
      cases h
      exact awaits_start g
  | succ n ih =>
      rw [steps?_succ] at h
      obtain ⟨b, hb, hstep⟩ := Option.bind_eq_some_iff.1 h
      exact (ih hb).step? hg (sound_of_steps? hg hb) hstep

/-! ## Coming up -/

/-- The first of the edges that wait was followed from a path, or the walk is finished if none
waits. -/
def Takes (path : List EdgeId) (waiting : List Pending) (d : Cursor) : Prop :=
  match waiting with
  | [] => d.finished = true
  | next :: _ => d.finished = false ∧ d.path = next.edge :: upTo path (next.depth - 1)

/-- The walk is at the next sibling of the last edge of a path that has one, or at its end if
none has one. -/
structure LandsBeside (g : Metaprogram) (path : List EdgeId) (d : Cursor) : Prop where
  finishes : (∀ e ∈ path, ∀ f, ¬ g.NextSibling e f) → d.finished = true
  lands : ∀ deeper e above f, path = deeper ++ e :: above →
    (∀ e ∈ deeper, ∀ f, ¬ g.NextSibling e f) → g.NextSibling e f →
    d.finished = false ∧ d.path = f :: above

theorem GoesOn.mono (h : GoesOn g P c d) (hpq : ∀ b, P b → Q b) : GoesOn g Q c d := by
  induction h with
  | last hstep => exact .last hstep
  | more hstep hb _ ih => exact .more hstep (hpq _ hb) ih

/-- Following an edge that waits deeper than `m` leaves the path down to `m` as it was, and what
it adds waits deeper than `m` as well. -/
theorem Sound.follow_deep (hg : g.WellFormed) (hc : Sound g c)
    (hpending : c.pending = next :: (deep ++ high)) (hdeep : ∀ p ∈ next :: deep, m < p.depth) :
    upTo (c.follow g next (deep ++ high)).path m = upTo c.path m ∧
      (c.follow g next (deep ++ high)).pending = (unfolded g c next ++ deep) ++ high ∧
      ∀ p ∈ unfolded g c next ++ deep, m < p.depth := by
  have hnext := mem_pending hpending
  have hle := hc.depth_le next hnext
  have hlt := hdeep next List.mem_cons_self
  have hcut : next.depth - 1 ≤ c.path.length := by omega
  refine ⟨?_, ?_, fun p hp => ?_⟩
  · rw [path_follow, upTo_cons (by rw [length_upTo hcut]; omega), upTo_upTo (by omega) hcut]
  · rw [pending_follow, List.append_assoc]
  · rcases List.mem_append.1 hp with hnew | hold
    · rw [(mem_unfolded hg (hc.in_range next hnext) hnew).1]
      omega
    · exact hdeep p (List.mem_cons_of_mem _ hold)

/-- A walk that comes up to some depth has done with all that waits deeper, and has not touched
the path down to that depth, when it follows what waits no deeper. -/
theorem GoesOn.rises (h : GoesOn g (m < ·.depth) c d) (hend : d.finished = true ∨ d.depth ≤ m)
    (hg : g.WellFormed) (hc : Sound g c) (hm : m ≤ c.depth) (hpath : upTo c.path m = path)
    (hpending : c.pending = deep ++ high) (hdeep : ∀ p ∈ deep, m < p.depth)
    (hhigh : ∀ p ∈ high, p.depth ≤ m) :
    GoesOn g (fun b => m < b.depth ∧ upTo b.path m = path) c d ∧ Takes path high d := by
  induction h generalizing deep with
  | @last c d hstep =>
      refine ⟨.last hstep, ?_⟩
      obtain ⟨-, ⟨hnone, rfl⟩ | ⟨next, rest, hnext, rfl⟩⟩ := step?_cases hstep
      · rw [hnone] at hpending
        rw [(List.append_eq_nil_iff.1 hpending.symm).2]
        rfl
      · have hdepth := hc.depth_follow hnext
        rw [hpending] at hnext
        cases deep with
        | nil =>
            rw [List.nil_append] at hnext
            have hle := hhigh next (by rw [hnext]; exact List.mem_cons_self)
            rw [hnext]
            refine ⟨rfl, ?_⟩
            rw [path_follow, ← hpath, upTo_upTo (by omega) hm]
        | cons p deep =>
            rw [List.cons_append, List.cons.injEq] at hnext
            obtain ⟨rfl, rfl⟩ := hnext
            have hlt := hdeep p List.mem_cons_self
            rcases hend with hend | hend
            · cases hend
            · exact absurd hlt (Nat.not_lt.2 (hdepth ▸ hend))
  | @more b c d hstep hb hgoes ih =>
      obtain ⟨-, ⟨-, rfl⟩ | ⟨next, rest, hnext, rfl⟩⟩ := step?_cases hstep
      -- from the end of the walk it would not go on
      · cases hgoes with
        | last hlast => cases hlast
        | more hlater _ _ => cases hlater
      · have hdepth := hc.depth_follow hnext
        have hsplit := hnext
        rw [hpending] at hsplit
        cases deep with
        | nil =>
            rw [List.nil_append] at hsplit
            have hle := hhigh next (by rw [hsplit]; exact List.mem_cons_self)
            exact absurd hb (Nat.not_lt.2 (hdepth ▸ hle))
        | cons p deep =>
            rw [List.cons_append, List.cons.injEq] at hsplit
            obtain ⟨rfl, rfl⟩ := hsplit
            obtain ⟨hkept, hwaits, hdeeper⟩ := hc.follow_deep hg hnext hdeep
            have hpath' := hkept.trans hpath
            obtain ⟨hrest, htakes⟩ := ih hend (hc.follow hg hnext) (Nat.le_of_lt hb) hpath'
              hwaits hdeeper
            exact ⟨.more hstep ⟨hb, hpath'⟩ hrest, htakes⟩

/-- What waits on top beside a path is the next sibling of its last edge that has one. -/
theorem Takes.landsBeside (hg : g.WellFormed) (hpath : Chain g path)
    (h : Takes path (waitingBeside g path) d) : LandsBeside g path d := by
  have hnone : ∀ {es : List EdgeId}, es ⊆ path → (∀ e ∈ es, ∀ f, ¬ g.NextSibling e f) →
      ∀ e ∈ es, g.laterSiblings e = [] := by
    intro es hsub hes e he
    cases hlater : g.laterSiblings e with
    | nil => rfl
    | cons f more =>
        have hlt := hpath.in_range e (hsub he)
        exact absurd ((hg.nextSibling_iff hlt).2 ⟨more, hlater⟩) (hes e he f)
  refine ⟨fun hall => ?_, fun deeper e above f hsplit hdeeper hnext => ?_⟩
  · have hwaiting : waitingBeside g (path ++ []) = waitingBeside g [] :=
      waitingBeside_append (hnone (List.Subset.refl _) hall)
    rw [List.append_nil] at hwaiting
    rw [hwaiting] at h
    exact h
  · have hlt : e < g.edgeCount := hpath.in_range e (by rw [hsplit]; simp)
    obtain ⟨more, hlater⟩ := (hg.nextSibling_iff hlt).1 hnext
    have hsub : deeper ⊆ path := by
      rw [hsplit]
      exact List.subset_append_left _ _
    have hup : path = (deeper ++ [e]) ++ above := by rw [hsplit]; simp
    have hwaiting : waitingBeside g path =
        { edge := f, depth := above.length + 1 } ::
          (pendingAt (above.length + 1) more ++ waitingBeside g above) := by
      rw [hsplit, waitingBeside_append (hnone hsub hdeeper), waitingBeside, hlater]
      rfl
    rw [hwaiting] at h
    refine ⟨h.1, h.2.trans ?_⟩
    dsimp only
    rw [Nat.add_sub_cancel, hup, upTo_append]

/-! ## The two moves -/

theorem stepOver_lands (hg : g.WellFormed) (hc : Sound g c) (h : Awaits g c)
    (hfin : c.finished = false) :
    ∃ d, c.stepOver g = (.moved, d) ∧
      GoesOn g (fun b => c.depth < b.depth ∧ c.path <:+ b.path) c d ∧
      LandsBeside g c.path d := by
  obtain ⟨below, -, hpending⟩ := h
  have hmove : c.stepOver g =
      (.moved, c.advanceUntil g (·.depth ≤ c.depth) (c.stepBound g)) := by
    rw [stepOver, if_neg (by simp [hfin])]
  obtain ⟨hgoes, hend⟩ := hc.loopEnds (·.depth ≤ c.depth) hg hfin
  refine ⟨_, hmove, ?_⟩
  generalize c.advanceUntil g (·.depth ≤ c.depth) (c.stepBound g) = d at hgoes hend
  have hdeeper : GoesOn g (c.depth < ·.depth) c d := hgoes.mono fun b hb => by simpa using hb
  obtain ⟨hgoes, htakes⟩ := hdeeper.rises (by simpa using hend) hg hc (Nat.le_refl _)
    upTo_length hpending
    (fun p hp => by rw [depth_of_mem_pendingAt hp]; exact Nat.lt_succ_self _)
    fun p hp => depth_le_of_mem_waitingBeside hp
  refine ⟨hgoes.mono fun b hb => ⟨hb.1, ?_⟩, htakes.landsBeside hg hc.chain⟩
  have hkept : upTo b.path c.path.length = c.path := hb.2
  have hsuffix := List.drop_suffix (b.path.length - c.path.length) b.path
  rwa [← upTo, hkept] at hsuffix

theorem stepOut_lands (hg : g.WellFormed) (hc : Sound g c) (h : Awaits g c)
    (hfin : c.finished = false) (hpath : c.path = e :: above) :
    ∃ d, c.stepOut g = (.moved, d) ∧ LandsBeside g above d := by
  obtain ⟨below, -, hpending⟩ := h
  have hdepth : c.depth = above.length + 1 := by rw [depth, hpath, List.length_cons]
  have hmove : c.stepOut g =
      (.moved, c.advanceUntil g (·.depth < c.depth) (c.stepBound g)) := by
    rw [stepOut, if_neg (by simp [hfin]), if_neg (by simp [isAtRoot, hpath])]
  obtain ⟨hgoes, hend⟩ := hc.loopEnds (·.depth < c.depth) hg hfin
  refine ⟨_, hmove, ?_⟩
  generalize c.advanceUntil g (·.depth < c.depth) (c.stepBound g) = d at hgoes hend
  have habove : upTo c.path above.length = above := by
    rw [hpath, ← List.singleton_append, upTo_append]
  have hchain : Chain g above := by
    have hchain := hc.chain
    rw [hpath] at hchain
    exact hchain.2.2
  rw [hpath, waitingBeside, ← List.append_assoc] at hpending
  have hdeeper : GoesOn g (above.length < ·.depth) c d := hgoes.mono fun b hb => by
    rw [decide_eq_false_iff_not] at hb
    omega
  have hend' : d.finished = true ∨ d.depth ≤ above.length :=
    hend.imp_right fun h => by
      rw [decide_eq_true_eq] at h
      omega
  obtain ⟨-, htakes⟩ := hdeeper.rises hend' hg hc (by omega) habove hpending
    (fun p hp => by
      rcases List.mem_append.1 hp with hp | hp
      · rw [depth_of_mem_pendingAt hp, List.length_cons]
        omega
      · rw [depth_of_mem_pendingAt hp]
        omega)
    fun p hp => depth_le_of_mem_waitingBeside hp
  exact htakes.landsBeside hg hchain

/-- Stepping over goes to the next sibling of the last edge of the path that has one, and comes
only by what is below the path on the way; stepping out does the same with the last edge left
aside. If there is no such edge the walk ends, and at the root there is nothing to step out of. -/
theorem step_over_and_out_land {events : List Event} {mode : Mode} {rootName result : String}
    (h : Metaprogram.ofEvents events mode rootName result = .ok g) (moves : List Move)
    (hfin : (afterMoves g moves).finished = false) :
    let c := afterMoves g moves
    (∃ d, c.stepOver g = (.moved, d) ∧
      GoesOn g (fun b => c.depth < b.depth ∧ c.path <:+ b.path) c d ∧
      LandsBeside g c.path d) ∧
    (∀ e above, c.path = e :: above →
      ∃ d, c.stepOut g = (.moved, d) ∧ LandsBeside g above d) ∧
    (c.path = [] → c.stepOut g = (.atRoot, c)) := by
  intro c
  have hg := Metaprogram.wellFormed_ofEvents h
  have hcourse := onCourse_afterMoves g moves
  have hc : Sound g c := sound_of_steps? hg hcourse
  have hawaits : Awaits g c := awaits_of_steps? hg hcourse
  refine ⟨stepOver_lands hg hc hawaits hfin, fun e above hpath => ?_, fun hroot => ?_⟩
  · exact stepOut_lands hg hc hawaits hfin hpath
  · rw [stepOut, if_neg (by simp [c, hfin]), if_pos (by simp [isAtRoot, hroot, c, hfin])]

/-- Below the `a` at the root nothing is left, so both moves go on to its sibling. -/
theorem step_over_and_out_land_entwined :
    let g := (outline entwined).graph .full "main" "int"
    let c := afterMoves g [.stepInto 5, .stepBackBy 2]
    Metaprogram.ofEvents entwined .full "main" "int" = .ok g ∧ c.finished = false ∧
      c.path = [2, 1, 0] ∧ (∃ d, c.stepOver g = (.moved, d) ∧ d.path = [3]) ∧
      ∃ d, c.stepOut g = (.moved, d) ∧ d.path = [3] := by
  intro g c
  have h : Metaprogram.ofEvents entwined .full "main" "int" = .ok g :=
    Metaprogram.ofEvents_of_balanced balanced_entwined
  have hfin : c.finished = false := by decide
  have hpath : c.path = [2, 1, 0] := by decide
  have hnext : g.NextSibling 0 3 := ⟨[], [], by decide⟩
  have hnone : ∀ e ∈ [2, 1], ∀ f, ¬ g.NextSibling e f := by
    intro e he f hf
    have hrange : ∀ e ∈ [2, 1], e < g.edgeCount ∧ g.laterSiblings e = [] := by decide
    obtain ⟨hlt, hlater⟩ := hrange e he
    obtain ⟨more, hmore⟩ := ((Metaprogram.wellFormed_ofEvents h).nextSibling_iff hlt).1 hf
    rw [hlater] at hmore
    cases hmore
  obtain ⟨⟨d, hover, -, hd⟩, hout, -⟩ :=
    step_over_and_out_land h [.stepInto 5, .stepBackBy 2] hfin
  obtain ⟨d', hout, hd'⟩ := hout 2 [1, 0] hpath
  refine ⟨h, hfin, hpath, ⟨d, hover, ?_⟩, d', hout, ?_⟩
  · exact (hd.lands [2, 1] 0 [] 3 hpath hnone hnext).2
  · exact (hd'.lands [1] 0 [] 3 rfl (fun e he => hnone e (by simp_all)) hnext).2

end Cursor

end TemplateTrace
