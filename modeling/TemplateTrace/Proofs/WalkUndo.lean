import TemplateTrace.Walk.Moves

/-!
# A walk has one course

A cursor remembers of every step only what the step changed: the edge that it followed, the
edges that left the path, how many edges joined those that wait, and whether the vertex was
new. `stepBack?_of_step?` says that this is enough, field by field, whatever the step did.

Everything else follows from the length of the history. A step forward makes it one longer, a
step back one shorter and leads to the cursor before the step that it undoes. So a cursor that
is where `history.length` steps from the start lead stays such a cursor under both, and every
other move is made of those two. `OnCourse` is that property, and `perform_induction` is the
induction over the moves.

Nothing here asks what the metaprogram looks like; what the steps do to the path and to the
edges that wait is the business of `WalkPath.lean`.
-/

namespace TemplateTrace

namespace VertexSet

theorem eq_of_contains {s t : VertexSet} (hbound : s.bound = t.bound)
    (h : ∀ v, s.contains v = t.contains v) : s = t := by
  cases s with
  | mk marks =>
      cases t with
      | mk others =>
          congr 1
          refine Array.ext hbound fun v hv hv' => ?_
          have hmark := h v
          simp only [contains, Array.getD_eq_getD_getElem?] at hmark
          rw [Array.getElem?_eq_getElem hv, Array.getElem?_eq_getElem hv'] at hmark
          exact hmark

/-- What is inserted anew can be taken out again. -/
theorem erase_insert {set : VertexSet} {v : Nat} (h : set.contains v = false) :
    (set.insert v).erase v = set := by
  refine eq_of_contains (by simp) fun w => ?_
  rw [contains_erase, contains_insert]
  by_cases hw : v = w
  · subst hw; rw [h]; simp
  · rw [bne, beq_false_of_ne hw]; simp

theorem insert_of_contains {set : VertexSet} {v : Nat} (h : set.contains v = true) :
    set.insert v = set := by
  refine eq_of_contains (by simp) fun w => ?_
  rw [contains_insert]
  by_cases hw : v = w
  · subst hw; simp [h]
  · simp [hw]

end VertexSet

/-- A move that a debugger asks of a cursor. -/
inductive Move where
  | step
  | stepBack
  | stepInto (count : Nat)
  | stepBackBy (count : Nat)
  | stepOver
  | stepOut
  | continueUntil (test : Frame → Bool)
  | continueBackUntil (test : Frame → Bool)
  | reset

namespace Cursor

/-- The cursor after a move. A step that there is not leaves it where it is. -/
def perform (g : Metaprogram) (c : Cursor) : Move → Cursor
  | .step => (c.step? g).getD c
  | .stepBack => (c.stepBack? g).getD c
  | .stepInto count => (c.stepInto g count).2
  | .stepBackBy count => (c.stepBackBy g count).2
  | .stepOver => (c.stepOver g).2
  | .stepOut => (c.stepOut g).2
  | .continueUntil test => (c.continueUntil g test).2
  | .continueBackUntil test => (c.continueBackUntil g test).2
  | .reset => start g

def afterMoves (g : Metaprogram) (moves : List Move) : Cursor :=
  moves.foldl (perform g) (start g)

/-- The cursor after exactly `n` steps forward, if there are so many. -/
def steps? (g : Metaprogram) : Nat → Cursor → Option Cursor
  | 0, c => some c
  | n + 1, c => (c.step? g).bind (steps? g n)

/-- The cursor is where as many steps from the start lead as its history is long. -/
def OnCourse (g : Metaprogram) (c : Cursor) : Prop :=
  steps? g c.history.length (start g) = some c

variable {g : Metaprogram} {c d : Cursor} {m n : Nat}

/-! ## One step and its undoing -/

/-- All that a step forward can do: it finishes the walk if no edge waits, and follows the
next edge otherwise. -/
theorem step?_cases (h : c.step? g = some d) :
    c.finished = false ∧
      (c.pending = [] ∧ d = { c with finished := true, history := .finish :: c.history } ∨
        ∃ next rest, c.pending = next :: rest ∧ d = c.follow g next rest) := by
  unfold step? at h
  split at h
  · cases h
  · next hfin =>
      refine ⟨by simpa using hfin, ?_⟩
      split at h
      · next hp => exact Or.inl ⟨hp, (Option.some.inj h).symm⟩
      · next next rest hp => exact Or.inr ⟨next, rest, hp, (Option.some.inj h).symm⟩

theorem step?_finished (h : c.finished = true) : c.step? g = none := by
  rw [step?, if_pos h]

theorem step?_nil (hfin : c.finished = false) (hp : c.pending = []) :
    c.step? g = some { c with finished := true, history := .finish :: c.history } := by
  simp [step?, hfin, hp]

theorem step?_cons {next : Pending} {rest : List Pending} (hfin : c.finished = false)
    (hp : c.pending = next :: rest) : c.step? g = some (c.follow g next rest) := by
  simp [step?, hfin, hp]

/-- A step back restores every field as it was before the step forward. -/
theorem stepBack?_of_step? (h : c.step? g = some d) : d.stepBack? g = some c := by
  obtain ⟨hfin, ⟨-, rfl⟩ | ⟨next, rest, hp, rfl⟩⟩ := step?_cases h
  · cases c
    simp_all [stepBack?]
  -- an insertion can be undone if it was one, and is the identity if not
  · have hset : (if !c.discovered.contains (g.target next.edge) then
          (c.discovered.insert (g.target next.edge)).erase (g.target next.edge)
        else c.discovered.insert (g.target next.edge)) = c.discovered := by
      cases hmem : c.discovered.contains (g.target next.edge)
      · exact VertexSet.erase_insert hmem
      · exact VertexSet.insert_of_contains hmem
    cases c
    simp_all [stepBack?, follow]

/-- No step leads to the root. -/
theorem isAtRoot_of_step? (h : c.step? g = some d) : d.isAtRoot = false := by
  obtain ⟨-, ⟨-, rfl⟩ | ⟨next, rest, -, rfl⟩⟩ := step?_cases h
  · rfl
  · rfl

theorem history_length_of_step? (h : c.step? g = some d) :
    d.history.length = c.history.length + 1 := by
  obtain ⟨-, ⟨-, rfl⟩ | ⟨next, rest, -, rfl⟩⟩ := step?_cases h
  · rfl
  · rfl

theorem history_length_of_stepBack? (h : c.stepBack? g = some d) :
    c.history.length = d.history.length + 1 := by
  unfold stepBack? at h
  split at h
  · cases h
  · next hh => cases h; rw [hh]; rfl
  · next hh => cases h; rw [hh]; rfl

/-! ## Rows of steps -/

theorem steps?_add (m n : Nat) (c : Cursor) :
    steps? g (m + n) c = (steps? g m c).bind (steps? g n) := by
  induction m generalizing c with
  | zero => rw [Nat.zero_add]; rfl
  | succ m ih =>
      rw [Nat.succ_add, steps?, steps?]
      cases c.step? g with
      | none => rfl
      | some d => exact ih d

theorem steps?_one (c : Cursor) : steps? g 1 c = c.step? g := by
  rw [steps?]
  cases c.step? g with
  | none => rfl
  | some d => rfl

theorem steps?_succ (n : Nat) (c : Cursor) :
    steps? g (n + 1) c = (steps? g n c).bind (step? g) := by
  rw [steps?_add, funext (steps?_one (g := g))]

theorem history_length_of_steps? (h : steps? g n c = some d) :
    d.history.length = c.history.length + n := by
  induction n generalizing c with
  | zero => cases h; rfl
  | succ n ih =>
      obtain ⟨e, he, hd⟩ := Option.bind_eq_some_iff.1 h
      rw [ih hd, history_length_of_step? he]
      omega

theorem steps?_of_le (h : steps? g n c = some d) (hle : m ≤ n) :
    ∃ e, steps? g m c = some e ∧ steps? g (n - m) e = some d := by
  obtain ⟨k, rfl⟩ := Nat.exists_eq_add_of_le hle
  rw [steps?_add] at h
  rw [Nat.add_sub_cancel_left]
  exact Option.bind_eq_some_iff.1 h

/-- Taking back all of a row of steps leads to where it began. -/
theorem retreat_of_steps? (h : steps? g n c = some d) : d.retreat g n = c := by
  induction n generalizing d with
  | zero => cases h; rfl
  | succ n ih =>
      rw [steps?_succ] at h
      obtain ⟨e, he, hd⟩ := Option.bind_eq_some_iff.1 h
      rw [retreat, stepBack?_of_step? hd]
      exact ih he

/-! ## The course -/

theorem onCourse_start (g : Metaprogram) : OnCourse g (start g) := rfl

theorem onCourse_of_steps? (h : steps? g n (start g) = some c) : OnCourse g c := by
  have hlen := history_length_of_steps? h
  rw [show (start g).history.length = 0 from rfl, Nat.zero_add] at hlen
  rw [OnCourse, hlen]
  exact h

theorem OnCourse.step (hc : OnCourse g c) (h : c.step? g = some d) : OnCourse g d := by
  refine onCourse_of_steps? (n := c.history.length + 1) ?_
  rw [steps?_succ, hc]
  exact h

/-- Whatever a step back leads to, the step forward from there leads back. -/
theorem OnCourse.step?_of_stepBack? (hc : OnCourse g c) (h : c.stepBack? g = some d) :
    OnCourse g d ∧ d.step? g = some c := by
  have hlen := history_length_of_stepBack? h
  rw [OnCourse, hlen, steps?_succ] at hc
  obtain ⟨e, he, hstep⟩ := Option.bind_eq_some_iff.1 hc
  have hde : d = e := by
    rw [stepBack?_of_step? hstep] at h
    exact (Option.some.inj h).symm
  subst hde
  exact ⟨onCourse_of_steps? he, hstep⟩

/-! ## All moves are made of steps

A move runs steps until something happens, at most a given number of them. The four loops that
do this keep whatever single steps keep, however large that number is. -/

variable {P : Cursor → Prop}

theorem advance_induction (hstep : ∀ {c d}, P c → c.step? g = some d → P d)
    (n : Nat) (hc : P c) : P (c.advance g n) := by
  induction n generalizing c with
  | zero => exact hc
  | succ n ih =>
      rw [advance]
      split
      · exact hc
      · next d hd => exact ih (hstep hc hd)

theorem retreat_induction (hback : ∀ {c d}, P c → c.stepBack? g = some d → P d)
    (n : Nat) (hc : P c) : P (c.retreat g n) := by
  induction n generalizing c with
  | zero => exact hc
  | succ n ih =>
      rw [retreat]
      split
      · exact hc
      · next d hd => exact ih (hback hc hd)

theorem advanceUntil_induction (hstep : ∀ {c d}, P c → c.step? g = some d → P d)
    (stop : Cursor → Bool) (bound : Nat) (hc : P c) : P (c.advanceUntil g stop bound) := by
  induction bound generalizing c with
  | zero => exact hc
  | succ bound ih =>
      rw [advanceUntil]
      split
      · exact hc
      · next d hd =>
          split
          · exact hstep hc hd
          · exact ih (hstep hc hd)

theorem retreatUntil_induction (hback : ∀ {c d}, P c → c.stepBack? g = some d → P d)
    (stop : Cursor → Bool) (bound : Nat) (hc : P c) : P (c.retreatUntil g stop bound) := by
  induction bound generalizing c with
  | zero => exact hc
  | succ bound ih =>
      rw [retreatUntil]
      split
      · exact hc
      · next d hd =>
          split
          · exact hback hc hd
          · exact ih (hback hc hd)

/-- What holds at the start and survives single steps, forward and back, survives every
move. -/
theorem perform_induction (hstart : P (start g))
    (hstep : ∀ {c d}, P c → c.step? g = some d → P d)
    (hback : ∀ {c d}, P c → c.stepBack? g = some d → P d)
    (move : Move) (hc : P c) : P (c.perform g move) := by
  cases move with
  | step =>
      rw [perform]
      cases h : c.step? g with
      | none => exact hc
      | some d => exact hstep hc h
  | stepBack =>
      rw [perform]
      cases h : c.stepBack? g with
      | none => exact hc
      | some d => exact hback hc h
  | stepInto count =>
      rw [perform, stepInto]
      split
      · exact hc
      · exact advance_induction hstep count hc
  | stepBackBy count =>
      rw [perform, stepBackBy]
      split
      · exact hc
      · exact retreat_induction hback count hc
  | stepOver =>
      rw [perform, stepOver]
      split
      · exact hc
      · exact advanceUntil_induction hstep _ _ hc
  | stepOut =>
      rw [perform, stepOut]
      repeat' split
      · exact hc
      · exact hc
      · exact advanceUntil_induction hstep _ _ hc
  | continueUntil test =>
      rw [perform, continueUntil]
      split
      · exact hc
      · exact advanceUntil_induction hstep _ _ hc
  | continueBackUntil test =>
      rw [perform, continueBackUntil]
      split
      · exact hc
      · exact retreatUntil_induction hback _ _ hc
  | reset => exact hstart

theorem onCourse_afterMoves (g : Metaprogram) (moves : List Move) :
    OnCourse g (afterMoves g moves) := by
  suffices ∀ c, OnCourse g c → OnCourse g (moves.foldl (perform g) c) from
    this _ (onCourse_start g)
  induction moves with
  | nil => exact fun _ hc => hc
  | cons move rest ih =>
      intro c hc
      refine ih _ (perform_induction (onCourse_start g) OnCourse.step ?_ move hc)
      exact fun hc h => (hc.step?_of_stepBack? h).1

/-- Whatever moves are made, the cursor is the one that as many steps from the start lead to
as its history is long; a step back from the next cursor restores it, and from any number of
steps back the same number of steps forward lead to it again, by the cursors that they came
by before. -/
theorem afterMoves_eq_steps (g : Metaprogram) (moves : List Move) :
    let c := afterMoves g moves
    steps? g c.history.length (start g) = some c ∧
      (∀ d, c.step? g = some d → d.stepBack? g = some c) ∧
      ∀ n ≤ c.history.length,
        steps? g (c.history.length - n) (start g) = some (c.retreat g n) ∧
          steps? g n (c.retreat g n) = some c := by
  intro c
  have hc : OnCourse g c := onCourse_afterMoves g moves
  refine ⟨hc, fun d => stepBack?_of_step?, fun n hn => ?_⟩
  obtain ⟨e, hstart, hrest⟩ := steps?_of_le hc (Nat.sub_le c.history.length n)
  rw [Nat.sub_sub_self hn] at hrest
  rw [retreat_of_steps? hrest]
  exact ⟨hstart, hrest⟩

end Cursor

end TemplateTrace
