import TemplateTrace.Proofs.WalkEnd

/-!
# Positions of a walk

A walk has one course, so where a cursor is on it is a number: how many steps lead there from the
start. Every move is then arithmetic on that number. Steps forward add and stop at the end, steps
back subtract and stop at zero, and neither depends on how the cursor came to be where it is.
-/

namespace TemplateTrace

namespace Cursor

/-- The cursor so many steps from the start, or at the end if there are fewer. -/
def position (g : Metaprogram) (i : Nat) : Cursor := (start g).advance g i

/-- The walk is finished after `last` steps, and not before. -/
structure EndsAt (g : Metaprogram) (last : Nat) : Prop where
  finished : (position g last).finished = true
  unfinished : ∀ i < last, (position g i).finished = false

variable {g : Metaprogram} {c d : Cursor} {i m n last : Nat}

theorem advance_of_finished (h : c.finished = true) (n : Nat) : c.advance g n = c := by
  cases n with
  | zero => rfl
  | succ n => rw [advance, step?_finished h]

theorem advance_add (m n : Nat) (c : Cursor) :
    c.advance g (m + n) = (c.advance g m).advance g n := by
  induction m generalizing c with
  | zero => rw [Nat.zero_add]; rfl
  | succ m ih =>
      rw [Nat.succ_add, advance, advance]
      cases hstep : c.step? g with
      | some d => exact ih d
      | none =>
          cases n with
          | zero => rfl
          | succ n => simp only [advance, hstep]

theorem advance_of_steps? (h : steps? g n c = some d) : c.advance g n = d := by
  induction n generalizing c with
  | zero => cases h; rfl
  | succ n ih =>
      obtain ⟨b, hb, hd⟩ := Option.bind_eq_some_iff.1 h
      rw [advance, hb]
      exact ih hd

theorem position_add (i n : Nat) : position g (i + n) = (position g i).advance g n :=
  advance_add i n (start g)

theorem exists_endsAt (hg : g.WellFormed) : ∃ last, EndsAt g last := by
  obtain ⟨last, -, d, hsteps, hend⟩ := (sound_start hg).exists_end hg
  refine ⟨last, ?_, fun i hi => ?_⟩
  · rw [position, advance_of_steps? hsteps]
    exact hend
  · obtain ⟨b, hb, hrest⟩ := steps?_of_le hsteps (Nat.le_of_lt hi)
    obtain ⟨k, hk⟩ : ∃ k, last - i = k + 1 := ⟨last - i - 1, by omega⟩
    rw [hk] at hrest
    obtain ⟨b', hstep, -⟩ := Option.bind_eq_some_iff.1 hrest
    rw [position, advance_of_steps? hb]
    exact (step?_cases hstep).1

namespace EndsAt

theorem pos (h : EndsAt g last) : 0 < last := by
  rcases Nat.eq_zero_or_pos last with rfl | hpos
  · cases h.finished
  · exact hpos

theorem position_of_le (h : EndsAt g last) (hi : last ≤ i) : position g i = position g last := by
  obtain ⟨n, rfl⟩ := Nat.exists_eq_add_of_le hi
  rw [position_add, advance_of_finished h.finished]

theorem finished_iff (h : EndsAt g last) : (position g i).finished = true ↔ last ≤ i := by
  refine ⟨fun hfin => ?_, fun hle => ?_⟩
  · by_contra hlt
    rw [h.unfinished i (Nat.lt_of_not_le hlt)] at hfin
    cases hfin
  · rw [h.position_of_le hle]
    exact h.finished

theorem step? (h : EndsAt g last) (hi : i < last) :
    (position g i).step? g = some (position g (i + 1)) := by
  obtain ⟨d, hd⟩ := exists_step g (h.unfinished i hi)
  rw [hd, position_add, advance, hd]
  rfl

theorem steps? (h : EndsAt g last) (hi : i ≤ last) :
    steps? g i (start g) = some (position g i) := by
  induction i with
  | zero => rfl
  | succ i ih =>
      rw [steps?_succ, ih (Nat.le_of_succ_le hi)]
      exact h.step? hi

theorem history_length (h : EndsAt g last) (hi : i ≤ last) :
    (position g i).history.length = i := by
  rw [history_length_of_steps? (h.steps? hi)]
  exact Nat.zero_add i

theorem sound (h : EndsAt g last) (hg : g.WellFormed) (hi : i ≤ last) : Sound g (position g i) :=
  sound_of_steps? hg (h.steps? hi)

theorem isAtRoot_position (h : EndsAt g last) (hi : i ≤ last) :
    (position g i).isAtRoot = decide (i = 0) := by
  cases i with
  | zero => rfl
  | succ i =>
      have hnever : decide (i + 1 = 0) = false := by simp
      rw [hnever]
      exact isAtRoot_of_step? (h.step? hi)

theorem frame?_position (h : EndsAt g last) (hi : i ≤ last) :
    (position g i).frame? g =
      if i = last then none else some (frameOf g (position g i).path) := by
  rw [frame?]
  by_cases hend : i = last
  · rw [if_pos hend, hend, if_pos h.finished]
  · rw [if_neg hend, h.unfinished i (Nat.lt_of_le_of_ne hi hend), if_neg Bool.false_ne_true]

/-- A cursor that the course of the walk comes by has a position. -/
theorem exists_position (h : EndsAt g last) (hc : OnCourse g c) :
    ∃ i ≤ last, c = position g i := by
  refine ⟨c.history.length, ?_, (advance_of_steps? hc).symm⟩
  by_contra hle
  -- the cursor would be where the walk ended, with a longer history
  have hlast : last ≤ c.history.length := Nat.le_of_lt (Nat.lt_of_not_le hle)
  have hsame : c = position g last := by
    rw [← h.position_of_le hlast]
    exact (advance_of_steps? hc).symm
  exact hle (Nat.le_of_eq (by rw [hsame, h.history_length (Nat.le_refl last)]))

/-! ## Moves -/

theorem stepBack? (h : EndsAt g last) (hi : i < last) :
    (position g (i + 1)).stepBack? g = some (position g i) :=
  stepBack?_of_step? (h.step? hi)

theorem retreat_position (h : EndsAt g last) (hi : i ≤ last) (n : Nat) :
    (position g i).retreat g n = position g (i - n) := by
  induction n generalizing i with
  | zero => rfl
  | succ n ih =>
      cases i with
      | zero => rw [Nat.zero_sub]; rfl
      | succ i =>
          rw [retreat, h.stepBack? hi, Nat.succ_sub_succ]
          exact ih (Nat.le_of_succ_le hi)

theorem stepInto_position (h : EndsAt g last) (i n : Nat) :
    ((position g i).stepInto g n).2 = position g (min (i + n) last) := by
  have hclamp : position g (min (i + n) last) = position g (i + n) := by
    rcases Nat.le_total (i + n) last with hle | hle
    · rw [Nat.min_eq_left hle]
    · rw [Nat.min_eq_right hle, h.position_of_le hle]
  rw [hclamp, position_add, stepInto]
  split
  · next hstuck =>
      rw [Bool.and_eq_true] at hstuck
      rw [advance_of_finished hstuck.1]
  · rfl

theorem stepBackBy_position (h : EndsAt g last) (hi : i ≤ last) (n : Nat) :
    ((position g i).stepBackBy g n).2 = position g (i - n) := by
  rw [stepBackBy]
  split
  · next hstuck =>
      rw [Bool.and_eq_true, List.isEmpty_iff_length_eq_zero, h.history_length hi] at hstuck
      rw [hstuck.1, Nat.zero_sub]
  · exact h.retreat_position hi n

end EndsAt

end Cursor

end TemplateTrace
