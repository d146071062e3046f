import Mathlib.Algebra.Order.BigOperators.Group.List
import Mathlib.Algebra.Order.Ring.Nat
import TemplateTrace.Proofs.WalkListing

/-!
# A walk comes to its end

On a graph with cycles neither the number of edges that wait nor the number of vertices that
are still to come gets smaller with every step. What does get smaller is what the edges that
wait are worth. An edge that waits deeper is worth less, and so much less that all the edges
that following it can add are together worth less than it was: they wait one level deeper, and
there are at most as many of them as there are edges. The levels do not run out, since the
vertices above an edge that waits are distinct (`Sound.depth_le_vertexCount`).

`Cursor.weight` is that worth and one more for the last step. It never exceeds the bound that
the moves pass to their loops, so the bound is bookkeeping: a loop that goes on until something
happens does one step and then the same from where the step leads, `Sound.advanceUntil_step`.
-/

namespace TemplateTrace

/-- The worth of an edge that waits. -/
def Pending.weight (g : Metaprogram) (p : Pending) : Nat :=
  (g.edgeCount + 1) ^ (g.vertexCount + 1 - p.depth)

namespace Cursor

/-- A walk takes no more steps than this from the cursor on. -/
def weight (g : Metaprogram) (c : Cursor) : Nat :=
  (c.pending.map (Pending.weight g)).sum + if c.finished then 0 else 1

variable {g : Metaprogram} {c d : Cursor} {m n : Nat} {stop : Cursor → Bool}

/-! ## Every step takes something away -/

theorem Sound.depth_le_vertexCount (hg : g.WellFormed) (hc : Sound g c) {p : Pending}
    (hp : p ∈ c.pending) : p.depth ≤ g.vertexCount := by
  have hpos := hc.depth_pos p hp
  have hle := hc.depth_le p hp
  have hsub : List.Subperm (stations g (upTo c.path (p.depth - 1)))
      (List.range g.vertexCount) :=
    List.subperm_of_subset (hc.open_distinct p hp) fun v hv =>
      List.mem_range.2 ((hc.chain.drop _).stations_lt hg v hv)
  have hlen := hsub.length_le
  rw [length_stations, length_upTo (by omega), List.length_range] at hlen
  omega

theorem length_pendingFrom_le (hg : g.WellFormed) {v : VertexId} (hv : v < g.vertexCount) :
    (pendingFrom g v n).length ≤ g.edgeCount := by
  rw [pendingFrom, List.length_map, hg.outEdges_eq hv]
  have hle := List.length_filter_le (g.source · == v) (List.range g.edgeCount)
  rwa [List.length_range] at hle

theorem length_unfolded_le (hg : g.WellFormed) {next : Pending}
    (hnext : next.edge < g.edgeCount) : (unfolded g c next).length ≤ g.edgeCount := by
  unfold unfolded
  split
  · exact length_pendingFrom_le hg (hg.target_lt hnext)
  · exact Nat.zero_le _

theorem sum_weight_le {waiting : List Pending} {w : Nat}
    (h : ∀ p ∈ waiting, p.weight g ≤ w) :
    (waiting.map (Pending.weight g)).sum ≤ waiting.length * w := by
  have hle := List.sum_le_card_nsmul (waiting.map (Pending.weight g)) w fun v hv => by
    obtain ⟨p, hp, rfl⟩ := List.mem_map.1 hv
    exact h p hp
  rwa [List.length_map, Nat.nsmul_eq_mul] at hle

/-- The edges that following an edge adds are together worth less than it. -/
theorem sum_weight_unfolded_lt (hg : g.WellFormed) {next : Pending}
    (hnext : next.edge < g.edgeCount) (hdepth : next.depth ≤ g.vertexCount) :
    ((unfolded g c next).map (Pending.weight g)).sum < next.weight g := by
  have hpow : next.weight g =
      (g.edgeCount + 1) ^ (g.vertexCount - next.depth) * (g.edgeCount + 1) := by
    rw [Pending.weight, Nat.succ_sub hdepth, Nat.pow_succ]
  have hpos : 0 < (g.edgeCount + 1) ^ (g.vertexCount - next.depth) :=
    Nat.pow_pos (Nat.succ_pos _)
  have hsum : ((unfolded g c next).map (Pending.weight g)).sum ≤
      (unfolded g c next).length * (g.edgeCount + 1) ^ (g.vertexCount - next.depth) := by
    refine sum_weight_le fun p hp => ?_
    rw [Pending.weight, (mem_unfolded hg hnext hp).1, Nat.add_sub_add_right]
  calc ((unfolded g c next).map (Pending.weight g)).sum
      ≤ g.edgeCount * (g.edgeCount + 1) ^ (g.vertexCount - next.depth) :=
        hsum.trans (Nat.mul_le_mul_right _ (length_unfolded_le hg hnext))
    _ < (g.edgeCount + 1) * (g.edgeCount + 1) ^ (g.vertexCount - next.depth) :=
        Nat.mul_lt_mul_of_pos_right (Nat.lt_succ_self _) hpos
    _ = next.weight g := by rw [hpow, Nat.mul_comm]

theorem Sound.weight_step (hg : g.WellFormed) (hc : Sound g c) (h : c.step? g = some d) :
    d.weight g < c.weight g := by
  obtain ⟨hfin, ⟨hnone, rfl⟩ | ⟨next, rest, hpending, rfl⟩⟩ := step?_cases h
  · simp [weight, hnone, hfin]
  · have hnext := mem_pending hpending
    have hlt := sum_weight_unfolded_lt (c := c) hg (hc.in_range next hnext)
      (hc.depth_le_vertexCount hg hnext)
    have hunfinished : (c.follow g next rest).finished = false := rfl
    rw [weight, weight, pending_follow, hpending, hfin, hunfinished, List.map_append,
      List.sum_append, List.map_cons, List.sum_cons]
    omega

theorem weight_pos (h : c.finished = false) : 0 < c.weight g := by
  rw [weight, h]
  exact Nat.succ_pos _

theorem weight_le_stepBound (g : Metaprogram) (c : Cursor) : c.weight g ≤ c.stepBound g := by
  have hsum : (c.pending.map (Pending.weight g)).sum ≤
      c.pending.length * (g.edgeCount + 1) ^ (g.vertexCount + 1) :=
    sum_weight_le fun p _ => Nat.pow_le_pow_right (Nat.succ_pos _) (Nat.sub_le _ _)
  have hlast : (if c.finished then 0 else 1) ≤ 1 := by split <;> omega
  calc c.weight g
      ≤ c.pending.length * (g.edgeCount + 1) ^ (g.vertexCount + 1) + 1 :=
        Nat.add_le_add hsum hlast
    _ ≤ (c.pending.length + 1) * (g.edgeCount + 1) ^ (g.vertexCount + 1) + 1 :=
        Nat.succ_le_succ (Nat.mul_le_mul_right _ (Nat.le_succ _))

/-! ## Loops -/

theorem advanceUntil_of_finished (h : c.finished = true) (n : Nat) :
    c.advanceUntil g stop n = c := by
  cases n with
  | zero => rfl
  | succ n => rw [advanceUntil, step?_finished h]

/-- Two bounds that both cover the worth of the cursor make no difference. -/
theorem Sound.advanceUntil_congr (hg : g.WellFormed) (hc : Sound g c)
    (hm : c.weight g ≤ m) (hn : c.weight g ≤ n) :
    c.advanceUntil g stop m = c.advanceUntil g stop n := by
  induction m generalizing n c with
  | zero =>
      cases hfin : c.finished with
      | true => rw [advanceUntil_of_finished hfin, advanceUntil_of_finished hfin]
      | false => exact absurd hm (Nat.not_le.2 (weight_pos hfin))
  | succ m ih =>
      cases hfin : c.finished with
      | true => rw [advanceUntil_of_finished hfin, advanceUntil_of_finished hfin]
      | false =>
          -- a walk that goes on is worth something, so each bound lets it step
          have hpos := weight_pos (g := g) hfin
          obtain ⟨n, rfl⟩ : ∃ k, n = k + 1 := ⟨n - 1, by omega⟩
          rw [advanceUntil, advanceUntil]
          split
          · rfl
          · next d hd =>
              have hlt := hc.weight_step hg hd
              rw [ih (hc.step? hg hd) (by omega) (n := n) (by omega)]

theorem Sound.advanceUntil_step (hg : g.WellFormed) (hc : Sound g c)
    (h : c.step? g = some d) :
    c.advanceUntil g stop (c.stepBound g) =
      if stop d then d else d.advanceUntil g stop (d.stepBound g) := by
  obtain ⟨k, hk⟩ : ∃ k, c.stepBound g = k + 1 := ⟨_, rfl⟩
  have hlt := hc.weight_step hg h
  have hbound := weight_le_stepBound g c
  rw [hk, advanceUntil, h]
  dsimp only
  rw [(hc.step? hg h).advanceUntil_congr hg (n := d.stepBound g) (by omega)
    (weight_le_stepBound g d)]

theorem exists_step (g : Metaprogram) (h : c.finished = false) : ∃ d, c.step? g = some d := by
  cases hp : c.pending with
  | nil => exact ⟨_, step?_nil h hp⟩
  | cons next rest => exact ⟨_, step?_cons h hp⟩

/-- The walk goes on from one cursor to another, by at least one step, and has `P` wherever it
comes by in between. -/
inductive GoesOn (g : Metaprogram) (P : Cursor → Prop) : Cursor → Cursor → Prop
  | last {c d : Cursor} : c.step? g = some d → GoesOn g P c d
  | more {b c d : Cursor} : c.step? g = some b → P b → GoesOn g P b d → GoesOn g P c d

/-- Stepping until the test accepts, or until the walk is finished, ends at a cursor. -/
def LoopEnds (g : Metaprogram) (stop : Cursor → Bool) (c d : Cursor) : Prop :=
  GoesOn g (stop · = false) c d ∧ (d.finished = true ∨ stop d = true)

theorem Sound.loopEnds (stop : Cursor → Bool) (hg : g.WellFormed) (hc : Sound g c)
    (hfin : c.finished = false) :
    LoopEnds g stop c (c.advanceUntil g stop (c.stepBound g)) := by
  generalize hn : c.weight g = n
  induction n using Nat.strong_induction_on generalizing c with
  | _ n ih =>
      obtain ⟨d, hstep⟩ := exists_step g hfin
      rw [hc.advanceUntil_step hg hstep]
      by_cases hstop : stop d = true
      · rw [if_pos hstop]
        exact ⟨.last hstep, .inr hstop⟩
      · rw [if_neg hstop]
        cases hd : d.finished with
        | true =>
            rw [advanceUntil_of_finished hd]
            exact ⟨.last hstep, .inl hd⟩
        | false =>
            obtain ⟨hgoes, hend⟩ :=
              ih _ (hn ▸ hc.weight_step hg hstep) (hc.step? hg hstep) hd rfl
            exact ⟨.more hstep (by simpa using hstop) hgoes, hend⟩

/-- Steps come to the end, and there are no more of them than the cursor is worth. -/
theorem Sound.exists_end (hg : g.WellFormed) (hc : Sound g c) :
    ∃ n ≤ c.weight g, ∃ d, steps? g n c = some d ∧ d.finished = true := by
  generalize hn : c.weight g = w
  induction w using Nat.strong_induction_on generalizing c with
  | _ w ih =>
      cases hfin : c.finished with
      | true => exact ⟨0, Nat.zero_le _, c, rfl, hfin⟩
      | false =>
          obtain ⟨b, hstep⟩ := exists_step g hfin
          have hlt := hc.weight_step hg hstep
          obtain ⟨n, hle, d, hd, hend⟩ := ih _ (hn ▸ hlt) (hc.step? hg hstep) rfl
          refine ⟨n + 1, by omega, d, ?_, hend⟩
          rw [steps?, hstep]
          exact hd

/-! ## What a walk comes by -/

/-- The edges that a walk follows from a cursor to its end, each with the cursor that it leads
to. -/
def Passes (g : Metaprogram) : Cursor → List (EdgeId × Cursor) → Prop
  | c, [] => c.finished = false ∧ c.pending = []
  | c, (e, d) :: later =>
      c.step? g = some d ∧ d.finished = false ∧ d.path.head? = some e ∧ Passes g d later

theorem Sound.exists_passes (hg : g.WellFormed) (hc : Sound g c) (hfin : c.finished = false) :
    ∃ passed, Passes g c passed := by
  generalize hn : c.weight g = n
  induction n using Nat.strong_induction_on generalizing c with
  | _ n ih =>
      cases hpending : c.pending with
      | nil => exact ⟨[], hfin, hpending⟩
      | cons next rest =>
          have hstep := step?_cons (g := g) hfin hpending
          obtain ⟨later, hlater⟩ :=
            ih _ (hn ▸ hc.weight_step hg hstep) (hc.step? hg hstep) rfl rfl
          exact ⟨(next.edge, c.follow g next rest) :: later, hstep, rfl, rfl, hlater⟩

end Cursor

end TemplateTrace
