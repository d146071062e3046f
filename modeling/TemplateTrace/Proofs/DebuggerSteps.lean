import TemplateTrace.Proofs.DebuggerSessions

/-!
# Steps on a number line

On the positions of a walk, the line that steps `n` times is a translation by `n` that the two
ends of the walk clamp (`clamped`). Whether it goes forward or back, how its loop stops early
and what is shown afterwards follow from the position alone, `At.line_step`, and so lines that
step compose as such translations do.
-/

namespace TemplateTrace

open Cursor (EndsAt position frameOf)

/-- The number `i + n`, or the end of `0, ..., last` that it is beyond. -/
def clamped (last i : Nat) (n : Int) : Nat := (min (max (i + n) 0) last).toNat

section Clamped

variable {last i : Nat} {a b n : Int}

theorem clamped_le (last i : Nat) (n : Int) : clamped last i n ≤ last := by
  rw [clamped]
  omega

theorem clamped_of_nonneg (h : 0 ≤ n) : clamped last i n = min (i + n.toNat) last := by
  rw [clamped]
  omega

theorem clamped_of_neg (hi : i ≤ last) (h : n < 0) : clamped last i n = i - n.natAbs := by
  rw [clamped]
  omega

/-- Both go the same way, so the end that clamps the first clamps the sum. -/
theorem clamped_clamped (hi : i ≤ last) (h : 0 ≤ a ∧ 0 ≤ b ∨ a ≤ 0 ∧ b ≤ 0) :
    clamped last (clamped last i a) b = clamped last i (a + b) := by
  rw [clamped, clamped, clamped]
  omega

theorem clamped_clamped_neg (hi : i ≤ last) (hlow : 0 ≤ i + n) (hhigh : i + n ≤ last) :
    clamped last (clamped last i n) (-n) = i := by
  rw [clamped, clamped]
  omega

end Clamped

namespace Session

variable {s : Session} {last i : Nat}

/-- The session with the cursor at a position of its walk. -/
def movedTo (s : Session) (i : Nat) : Session := { s with cursor := position s.program i }

/-- What is shown at a position of a walk that ends at `last`. -/
def shownAt (s : Session) (last i : Nat) : List Document :=
  if i = last then [.rawText "Metaprogram finished", .typeName s.program.result]
  else if i = 0 then [.rawText "Metaprogram started"]
  else [.frame (frameOf s.program (position s.program i).path)]

theorem frame?_movedTo (h : EndsAt s.program last) (hi : i ≤ last) :
    (s.movedTo i).cursor.frame? (s.movedTo i).program =
      if i = last then none else some (frameOf s.program (position s.program i).path) :=
  h.frame?_position hi

theorem isAtRoot_movedTo (h : EndsAt s.program last) (hi : i ≤ last) :
    (s.movedTo i).cursor.isAtRoot = decide (i = 0) :=
  h.isAtRoot_position hi

theorem place_movedTo (h : EndsAt s.program last) (hi : i ≤ last) :
    (s.movedTo i).place = s.shownAt last i := by
  rw [place, shownAt, frame?_movedTo h hi, isAtRoot_movedTo h hi]
  by_cases hend : i = last
  · rw [if_pos hend, if_pos hend]
    rfl
  · rw [if_neg hend, if_neg hend]
    simp only [decide_eq_true_eq]

end Session

namespace Shell

variable {σ : Type} {source : TraceSource σ} {state : σ} {shell : Shell} {s : Session}
  {last i : Nat} {word : String}

/-- The debugger walks through the program of `s`, and is at a position of that walk. -/
structure At (shell : Shell) (s : Session) (last i : Nat) : Prop where
  session : shell.session = some (s.movedTo i)
  le : i ≤ last

/-- Lines that give numbers to a command, one after the other. -/
theorem takeLines_numberLines {P : Shell → Nat → Prop} {go : Nat → Int → Nat}
    (h : ∀ shell state i (n : Int64), P shell i →
      P (shell.line source state (numberLine word n)).1.shell (go i n.toInt))
    (hstart : P shell i) (ns : List Int64) :
    P (takeLines source shell state (ns.map (numberLine word))).shell
      ((ns.map Int64.toInt).foldl go i) := by
  induction ns generalizing shell state i with
  | nil => exact hstart
  | cons n ns ih => exact ih (h shell state i n hstart)

theorem find_step : ∃ command, Command.map.find "step".toList = .ok command ∧
    command.kind = .step ∧ command.repeatable = true :=
  ⟨_, rfl, rfl, rfl⟩

theorem stepArguments?_signedDigits (n : Int64) :
    stepArguments? (Number.signedDigits n.toInt) = some (.into, n.toInt) := by
  have hover : ¬ Number.signedDigits n.toInt = "over".toList :=
    Number.signedDigits_ne_cons (by decide) rfl _ _
  have hout : ¬ Number.signedDigits n.toInt = "out".toList :=
    Number.signedDigits_ne_cons (by decide) rfl _ _
  rw [stepArguments?, Text.words_solid (fun c => Text.isBlank_of_mem_signedDigits)
    (Number.signedDigits_ne_nil _)]
  simp only [if_neg hover, if_neg hout, Number.int64?_signedDigits]
  rfl

theorem At.line_step (h : shell.At s last i) (hlast : EndsAt s.program last)
    (source : TraceSource σ) (state : σ) (n : Int64) :
    (shell.line source state (numberLine "step" n)).1.shell =
        { shell with
          session := some (s.movedTo (clamped last i n.toInt))
          lastLine := some (numberLine "step" n) } ∧
      (shell.line source state (numberLine "step" n)).1.shown =
        s.shownAt last (clamped last i n.toInt) := by
  obtain ⟨command, hfind, hkind, hrepeatable⟩ := find_step
  rw [line_numberLine n (by decide) (by decide) hfind, hkind, hrepeatable, run, step]
  simp only [h.session, stepArguments?_signedDigits]
  have hshown := Session.place_movedTo hlast (clamped_le last i n.toInt)
  -- forward and back are two loops, and both end at the position that is meant
  by_cases hn : 0 ≤ n.toInt
  · have hcursor : ((s.movedTo i).cursor.stepInto (s.movedTo i).program n.toInt.toNat).2 =
        position s.program (clamped last i n.toInt) := by
      rw [clamped_of_nonneg hn]
      exact hlast.stepInto_position i _
    rw [if_pos hn, hcursor]
    exact ⟨rfl, hshown⟩
  · have hcursor : ((s.movedTo i).cursor.stepBackBy (s.movedTo i).program n.toInt.natAbs).2 =
        position s.program (clamped last i n.toInt) := by
      rw [clamped_of_neg h.le (Int.not_le.1 hn)]
      exact hlast.stepBackBy_position h.le _
    rw [if_neg hn, hcursor]
    exact ⟨rfl, hshown⟩

theorem At.session_steps (h : shell.At s last i) (hlast : EndsAt s.program last)
    (source : TraceSource σ) (state : σ) (ns : List Int64) :
    (takeLines source shell state (ns.map (numberLine "step"))).shell.session =
      some (s.movedTo ((ns.map Int64.toInt).foldl (clamped last) i)) := by
  refine (takeLines_numberLines (P := fun shell i => shell.At s last i) ?_ h ns).session
  intro shell state i n h
  refine ⟨?_, clamped_le last i n.toInt⟩
  rw [(h.line_step hlast source state n).1]

theorem Reached.exists_at (h : shell.Reached) (hsession : shell.session = some s) :
    ∃ last i, EndsAt s.program last ∧ shell.At s last i ∧ s.movedTo i = s := by
  obtain ⟨last, i, hlast, hi, hcursor⟩ := (h.traveled s hsession).exists_position
  have hs : s.movedTo i = s := by rw [Session.movedTo, ← hcursor]
  exact ⟨last, i, hlast, ⟨by rw [hsession, hs], hi⟩, hs⟩

/-- Stepping `n` times translates the position by `n`, clamped to the walk, and shows that
position. Steps the same way add up, and opposite steps that do not go beyond an end cancel; the
sum and the opposite have to be numbers that a line can give. -/
theorem step_clamps (hreach : shell.Reached) (hsession : shell.session = some s)
    (source : TraceSource σ) (state : σ) :
    ∃ last h, EndsAt s.program last ∧ h ≤ last ∧ s.cursor = position s.program h ∧
      (∀ n : Int64,
        (shell.line source state (numberLine "step" n)).1.shell =
            { shell with
              session := some (s.movedTo (clamped last h n.toInt))
              lastLine := some (numberLine "step" n) } ∧
          (shell.line source state (numberLine "step" n)).1.shown =
            s.shownAt last (clamped last h n.toInt)) ∧
      (∀ a b c : Int64, 0 ≤ a.toInt ∧ 0 ≤ b.toInt ∨ a.toInt ≤ 0 ∧ b.toInt ≤ 0 →
        c.toInt = a.toInt + b.toInt →
          (takeLines source shell state
              [numberLine "step" a, numberLine "step" b]).shell.session =
            (takeLines source shell state [numberLine "step" c]).shell.session) ∧
      (∀ n m : Int64, m.toInt = -n.toInt → 0 ≤ h + n.toInt → h + n.toInt ≤ last →
        (takeLines source shell state
          [numberLine "step" n, numberLine "step" m]).shell.session = some s) := by
  obtain ⟨last, h, hlast, hat, hs⟩ := hreach.exists_at hsession
  refine ⟨last, h, hlast, hat.le, (congrArg Session.cursor hs).symm,
    hat.line_step hlast source state, fun a b c hsign hc => ?_, fun n m hm hlow hhigh => ?_⟩
  · have htwo := hat.session_steps hlast source state [a, b]
    have hone := hat.session_steps hlast source state [c]
    simp only [List.map_cons, List.map_nil, List.foldl_cons, List.foldl_nil] at htwo hone
    rw [htwo, hone, hc, clamped_clamped hat.le hsign]
  · have htwo := hat.session_steps hlast source state [n, m]
    simp only [List.map_cons, List.map_nil, List.foldl_cons, List.foldl_nil] at htwo
    rw [htwo, hm, clamped_clamped_neg hat.le hlow hhigh, hs]

/-- The greatest number leads from the start to the end, and a step forward and one back cancel. -/
theorem step_clamps_entwined :
    let shell : Shell := { session := some entwinedSession, fullMode := true }
    let source : TraceSource Unit :=
      { answer := fun _ _ => ({ evaluation := .error (.evaluation "no trace") }, ()) }
    shell.Reached ∧ shell.session = some entwinedSession ∧
      (shell.line source () (numberLine "step" Int64.maxValue)).1.shown =
        [.rawText "Metaprogram finished", .typeName "int"] ∧
      (takeLines source shell () [numberLine "step" 1, numberLine "step" (-1)]).shell.session =
        some entwinedSession := by
  intro shell source
  have hsession : shell.session = some entwinedSession := rfl
  obtain ⟨last, h, hlast, hle, hcursor, hline, -, hundo⟩ :=
    step_clamps reached_entwinedSession hsession source ()
  have hzero : h = 0 := by
    rw [← hlast.history_length hle, ← hcursor]
    rfl
  subst hzero
  refine ⟨reached_entwinedSession, hsession, ?_, hundo 1 (-1) (by decide) (by decide) ?_⟩
  · have height : last ≤ 8 := hlast.finished_iff.1 (by decide +kernel)
    have hmax : Int64.maxValue.toInt = 2 ^ 63 - 1 := by decide
    have hend : clamped last 0 Int64.maxValue.toInt = last := by
      rw [clamped, hmax]
      omega
    rw [(hline _).2, hend, Session.shownAt, if_pos rfl]
    rfl
  · have hpos := hlast.pos
    have hone : (1 : Int64).toInt = 1 := by decide
    omega

end Shell

end TemplateTrace
