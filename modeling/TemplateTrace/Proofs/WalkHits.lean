import TemplateTrace.Proofs.WalkPositions
import TemplateTrace.Proofs.WalkStops

/-!
# Hits

The positions of a walk whose frame a test accepts are its hits. Going on leads from hit to hit,
and so does going back, though the two loops do not stop at the same places: only the one that
goes back tests the root, where it stops anyway, and only the other one comes to the end of the
walk. So each leads from a position to the first of those that lie ahead of it (`LeadsTo`), and
repeated it leads along all of them.
-/

namespace TemplateTrace

namespace Cursor

/-- Whether the test accepts the frame at a position; the root does not count. -/
def isHit (g : Metaprogram) (test : Frame → Bool) (i : Nat) : Bool :=
  0 < i && frameSatisfies g test (position g i)

/-- The hits between a position and the end. -/
def hitsAfter (g : Metaprogram) (test : Frame → Bool) (last i : Nat) : List Nat :=
  (List.range' (i + 1) (last - (i + 1))).filter (isHit g test)

/-- The hits between the start and a position, the nearest one first. -/
def hitsBefore (g : Metaprogram) (test : Frame → Bool) (i : Nat) : List Nat :=
  ((List.range i).filter (isHit g test)).reverse

/-- The position where so many hits lead, back if the number is negative; the end of the walk on
that side if there are fewer. -/
def hitFrom (g : Metaprogram) (test : Frame → Bool) (last i : Nat) : Int → Nat
  | .ofNat 0 => i
  | .ofNat (n + 1) => (hitsAfter g test last i)[n]?.getD last
  | .negSucc n => (hitsBefore g test i)[n]?.getD 0

/-- The move leads from a position to the first target, or to `stop` if there is none, and makes
no move from there. -/
structure LeadsTo (g : Metaprogram) (move : Cursor → Outcome × Cursor)
    (targets : Nat → List Nat) (last stop : Nat) : Prop where
  moves : ∀ i ≤ last, i ≠ stop →
    move (position g i) = (.moved, position g ((targets i).head?.getD stop))
  stays : ∃ outcome, outcome ≠ .moved ∧ move (position g stop) = (outcome, position g stop)
  none : targets stop = []
  later : ∀ {i j : Nat} {rest : List Nat}, targets i = j :: rest → targets j = rest
  le : ∀ {i j : Nat}, i ≤ last → j ∈ targets i → j ≤ last

variable {g : Metaprogram} {test : Frame → Bool} {last i j n : Nat}

/-! ## Lists of hits -/

theorem isHit_iff (h : EndsAt g last) (hi : i ≤ last) :
    isHit g test i = true ↔
      0 < i ∧ i < last ∧ test (frameOf g (position g i).path) = true := by
  rw [isHit, Bool.and_eq_true, decide_eq_true_eq, frameSatisfies, h.frame?_position hi]
  refine and_congr_right' ?_
  by_cases hend : i = last
  · rw [if_pos hend]
    refine iff_of_false Bool.false_ne_true fun hlt => ?_
    omega
  · rw [if_neg hend]
    exact (and_iff_right (Nat.lt_of_le_of_ne hi hend)).symm

theorem isHit_succ : isHit g test (i + 1) = frameSatisfies g test (position g (i + 1)) := by
  simp [isHit]

theorem hitsAfter_of_le (h : last ≤ i + 1) : hitsAfter g test last i = [] := by
  rw [hitsAfter, Nat.sub_eq_zero_of_le h]
  rfl

theorem hitsAfter_eq (h : i + 1 < last) :
    hitsAfter g test last i =
      if isHit g test (i + 1) then (i + 1) :: hitsAfter g test last (i + 1)
      else hitsAfter g test last (i + 1) := by
  obtain ⟨k, hk⟩ : ∃ k, last - (i + 1) = k + 1 := ⟨last - (i + 2), by omega⟩
  have hrest : last - (i + 1 + 1) = k := by omega
  rw [hitsAfter, hitsAfter, hk, hrest, List.range'_succ, List.filter_cons]

theorem hitsBefore_succ :
    hitsBefore g test (i + 1) =
      if isHit g test i then i :: hitsBefore g test i else hitsBefore g test i := by
  rw [hitsBefore, hitsBefore, List.range_succ, List.filter_append, List.reverse_append,
    List.filter_singleton]
  cases isHit g test i with
  | true => rfl
  | false => rfl

theorem mem_hitsAfter :
    j ∈ hitsAfter g test last i ↔ (i < j ∧ j < last) ∧ isHit g test j = true := by
  rw [hitsAfter, List.mem_filter, List.mem_range'_1]
  refine and_congr_left' ?_
  omega

theorem mem_hitsBefore : j ∈ hitsBefore g test i ↔ j < i ∧ isHit g test j = true := by
  rw [hitsBefore, List.mem_reverse, List.mem_filter, List.mem_range]

/-- The hits after a hit are those that followed it. -/
theorem hitsAfter_later {rest : List Nat} (h : hitsAfter g test last i = j :: rest) :
    hitsAfter g test last j = rest := by
  induction hn : last - i generalizing i with
  | zero =>
      rw [hitsAfter_of_le (by omega)] at h
      cases h
  | succ n ih =>
      rcases Nat.lt_or_ge (i + 1) last with hlt | hge
      · rw [hitsAfter_eq hlt] at h
        split at h
        · cases h
          rfl
        · exact ih h (by omega)
      · rw [hitsAfter_of_le hge] at h
        cases h

theorem hitsBefore_later {rest : List Nat} (h : hitsBefore g test i = j :: rest) :
    hitsBefore g test j = rest := by
  induction i with
  | zero => cases h
  | succ i ih =>
      rw [hitsBefore_succ] at h
      split at h
      · cases h
        rfl
      · exact ih h

/-- Between a position and the next hit there are no others, seen from there. -/
theorem hitsBefore_next (h : i < last) :
    hitsBefore g test ((hitsAfter g test last i).head?.getD last) = hitsBefore g test (i + 1) := by
  induction hn : last - i generalizing i with
  | zero => omega
  | succ n ih =>
      rcases Nat.lt_or_ge (i + 1) last with hlt | hge
      · rw [hitsAfter_eq hlt]
        split
        · rfl
        · next hmiss => rw [ih hlt (by omega), hitsBefore_succ, if_neg hmiss]
      · rw [hitsAfter_of_le hge]
        exact congrArg _ (Nat.le_antisymm hge h)

/-! ## From hit to hit -/

namespace LeadsTo

variable {move : Cursor → Outcome × Cursor} {targets : Nat → List Nat} {stop : Nat}

theorem repeatMove_stop (h : LeadsTo g move targets last stop) (n : Nat) :
    ((position g stop).repeatMove move n).2 = position g stop := by
  cases n with
  | zero => rfl
  | succ n =>
      obtain ⟨outcome, hstuck, hstays⟩ := h.stays
      rw [Cursor.repeatMove, hstays]
      cases outcome with
      | moved => exact absurd rfl hstuck
      | alreadyFinished => rfl
      | atRoot => rfl

theorem repeatMove_succ (h : LeadsTo g move targets last stop) (hi : i ≤ last) (n : Nat) :
    ((position g i).repeatMove move (n + 1)).2 =
      match targets i with
      | [] => position g stop
      | j :: _ => ((position g j).repeatMove move n).2 := by
  by_cases hstop : i = stop
  · rw [hstop, h.none]
    exact h.repeatMove_stop (n + 1)
  · rw [Cursor.repeatMove, h.moves i hi hstop]
    cases targets i with
    | nil => exact h.repeatMove_stop n
    | cons j rest => rfl

/-- A repeated move leads along the targets. -/
theorem repeatMove (h : LeadsTo g move targets last stop) (hi : i ≤ last) (n : Nat) :
    ((position g i).repeatMove move (n + 1)).2 = position g ((targets i)[n]?.getD stop) := by
  induction n generalizing i with
  | zero =>
      rw [h.repeatMove_succ hi]
      cases targets i with
      | nil => rfl
      | cons j rest => rfl
  | succ n ih =>
      rw [h.repeatMove_succ hi]
      cases htargets : targets i with
      | nil => rfl
      | cons j rest =>
          have hj : j ∈ targets i := by rw [htargets]; exact List.mem_cons_self
          have hrest := ih (h.le hi hj)
          rw [h.later htargets] at hrest
          exact hrest

end LeadsTo

namespace EndsAt

theorem continueUntil_position (h : EndsAt g last) (hg : g.WellFormed) (hi : i < last) :
    (position g i).continueUntil g test =
      (.moved, position g ((hitsAfter g test last i).head?.getD last)) := by
  induction hn : last - i generalizing i with
  | zero => omega
  | succ n ih =>
      have hsound := h.sound hg (Nat.le_of_lt hi)
      rcases Nat.lt_or_ge (i + 1) last with hlt | hge
      · rw [hsound.continueUntil_step test hg (h.step? hi) (h.unfinished _ hlt), hitsAfter_eq hlt,
          isHit_succ]
        split
        · rfl
        · exact ih hlt (by omega)
      · -- one step finishes the walk, and a finished walk stays where it is
        have hend : last = i + 1 := Nat.le_antisymm hge hi
        rw [hitsAfter_of_le hge, continueUntil_of_unfinished (h.unfinished i hi),
          hsound.advanceUntil_step hg (h.step? hi), ← hend, advanceUntil_of_finished h.finished,
          ite_self]
        rfl

theorem retreatUntil_position (h : EndsAt g last) (hi : i ≤ last) :
    (position g i).retreatUntil g (frameSatisfies g test) i =
      position g ((hitsBefore g test i).head?.getD 0) := by
  induction i with
  | zero => rfl
  | succ i ih =>
      rw [retreatUntil, h.stepBack? hi, hitsBefore_succ]
      cases i with
      -- the root may be accepted or not, the way back ends there
      | zero => exact ite_self _
      | succ i =>
          rw [isHit_succ]
          dsimp only
          split
          · rfl
          · exact ih (Nat.le_of_succ_le hi)

theorem leadsTo_continueUntil (h : EndsAt g last) (hg : g.WellFormed) :
    LeadsTo g (continueUntil g test) (hitsAfter g test last) last last where
  moves _ hi hne := h.continueUntil_position hg (Nat.lt_of_le_of_ne hi hne)
  stays := ⟨.alreadyFinished, Outcome.noConfusion, if_pos h.finished⟩
  none := hitsAfter_of_le (Nat.le_succ last)
  later := hitsAfter_later
  le _ hj := Nat.le_of_lt (mem_hitsAfter.1 hj).1.2

theorem leadsTo_continueBackUntil (h : EndsAt g last) :
    LeadsTo g (continueBackUntil g test) (hitsBefore g test) last 0 where
  moves i hi hne := by
    have hlength := h.history_length hi
    have haway : ¬ (position g i).history.isEmpty = true := by
      rw [List.isEmpty_iff_length_eq_zero, hlength]
      exact hne
    rw [continueBackUntil, if_neg haway, hlength, h.retreatUntil_position hi]
  stays := ⟨.atRoot, Outcome.noConfusion, rfl⟩
  none := rfl
  later := hitsBefore_later
  le hi hj := Nat.le_trans (Nat.le_of_lt (mem_hitsBefore.1 hj).1) hi

theorem repeatMove_hits (h : EndsAt g last) (hg : g.WellFormed) (test : Frame → Bool)
    (hi : i ≤ last) (n : Int) :
    ((position g i).repeatMove
        (if 0 < n then continueUntil g test else continueBackUntil g test) n.natAbs).2 =
      position g (hitFrom g test last i n) := by
  match n with
  | .ofNat 0 => rfl
  | .ofNat (n + 1) =>
      have hpos : (0 : Int) < .ofNat (n + 1) := Int.natCast_pos.2 (Nat.succ_pos n)
      rw [if_pos hpos]
      exact (h.leadsTo_continueUntil hg).repeatMove hi n
  | .negSucc n =>
      have hneg : ¬ 0 < Int.negSucc n := Int.not_lt.2 (Int.le_of_lt (Int.negSucc_lt_zero n))
      rw [if_neg hneg]
      exact h.leadsTo_continueBackUntil.repeatMove hi n

end EndsAt

/-! ## Where that is -/

theorem hitFrom_cases (hi : i ≤ last) {n : Int} (hn : n ≠ 0) :
    hitFrom g test last i n = 0 ∨ hitFrom g test last i n = last ∨
      hitFrom g test last i n < last ∧ isHit g test (hitFrom g test last i n) = true := by
  match n with
  | .ofNat 0 => exact absurd rfl hn
  | .ofNat (n + 1) =>
      rw [hitFrom]
      cases hget : (hitsAfter g test last i)[n]? with
      | none => exact .inr (.inl rfl)
      | some j =>
          obtain ⟨⟨-, hj⟩, hhit⟩ := mem_hitsAfter.1 (List.mem_of_getElem? hget)
          exact .inr (.inr ⟨hj, hhit⟩)
  | .negSucc n =>
      rw [hitFrom]
      cases hget : (hitsBefore g test i)[n]? with
      | none => exact .inl rfl
      | some j =>
          obtain ⟨hj, hhit⟩ := mem_hitsBefore.1 (List.mem_of_getElem? hget)
          exact .inr (.inr ⟨Nat.lt_of_lt_of_le hj hi, hhit⟩)

theorem hitFrom_le (hi : i ≤ last) (n : Int) : hitFrom g test last i n ≤ last := by
  by_cases hn : n = 0
  · rw [hn]
    exact hi
  · rcases hitFrom_cases hi hn with hzero | hend | ⟨hlt, -⟩
    · rw [hzero]
      exact Nat.zero_le last
    · exact Nat.le_of_eq hend
    · exact Nat.le_of_lt hlt

/-- From the start or a hit, the hit before the next one is where it was. -/
theorem hitFrom_back (hi : i < last) (h : i = 0 ∨ isHit g test i = true) :
    hitFrom g test last (hitFrom g test last i 1) (-1) = i := by
  show (hitsBefore g test ((hitsAfter g test last i)[0]?.getD last))[0]?.getD 0 = i
  rw [← List.head?_eq_getElem?, ← List.head?_eq_getElem?, hitsBefore_next hi, hitsBefore_succ]
  rcases h with rfl | hhit
  · rfl
  · rw [if_pos hhit]
    rfl

end Cursor

end TemplateTrace
