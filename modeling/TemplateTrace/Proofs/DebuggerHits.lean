import TemplateTrace.Proofs.DebuggerSteps
import TemplateTrace.Proofs.WalkHits

/-!
# On to a breakpoint

The line that goes on to the `n`-th hit stops its loop where no move was made, but what it reports
it reads off the place where the cursor is then. The two agree: that place is a hit unless it is
an end of the walk (`hitFrom_cases`), and at neither end is there a breakpoint to report, at the
root since it is the root, whatever its name, and at the end since there is no frame. What a
breakpoint accepts is of no account for any of this, so the breakpoints may be any tests.
-/

namespace TemplateTrace

open Cursor (EndsAt position frameOf isHit hitFrom)

namespace Breakpoint

/-- Whether one of the breakpoints stops at a frame. -/
def anyStopsAt (stops : List Breakpoint) (frame : Frame) : Bool := stops.any (·.stopsAt frame)

/-- The breakpoint stops at the frame, and none that was added before it does. -/
def IsFirst (stops : List Breakpoint) (frame : Frame) (b : Breakpoint) : Prop :=
  b.stopsAt frame = true ∧ ∃ before after, stops = before ++ b :: after ∧
    ∀ other ∈ before, other.stopsAt frame = false

/-- What is shown where the breakpoint stops. -/
def report (b : Breakpoint) (frame : Frame) : List Document :=
  [.rawText ("Breakpoint \"" ++ b.pattern ++ "\" reached"), .frame frame]

theorem isFirst_of_find? {stops : List Breakpoint} {frame : Frame} {b : Breakpoint}
    (h : stops.find? (·.stopsAt frame) = some b) : IsFirst stops frame b := by
  obtain ⟨hstop, before, after, hsplit, hbefore⟩ := List.find?_eq_some_iff_append.1 h
  exact ⟨hstop, before, after, hsplit, fun other hother => by simpa using hbefore other hother⟩

end Breakpoint

namespace Session

variable {s : Session} {stops : List Breakpoint} {last i : Nat}

/-- The first of the breakpoints that stop at a position, but at neither end of the walk. -/
theorem reached?_movedTo (h : EndsAt s.program last) (hi : i ≤ last) :
    (s.movedTo i).reached? stops =
      if i = 0 ∨ i = last then none
      else (stops.find? (·.stopsAt (frameOf s.program (position s.program i).path))).map
        (·, frameOf s.program (position s.program i).path) := by
  rw [reached?, frame?_movedTo h hi, isAtRoot_movedTo h hi]
  by_cases hstart : i = 0
  · rw [if_pos (decide_eq_true hstart), if_pos (.inl hstart)]
  · rw [if_neg (by simpa using hstart)]
    by_cases hend : i = last
    · rw [if_pos hend, if_pos (.inr hend)]
      rfl
    · rw [if_neg hend, if_neg (not_or.2 ⟨hstart, hend⟩)]
      show (stops.find? _).bind _ = _
      cases stops.find? _ with
      | none => rfl
      | some b => rfl

theorem proceedPlace_of_end (h : EndsAt s.program last) (hi : i = 0 ∨ i = last) :
    Shell.proceedPlace stops (s.movedTo i) = s.shownAt last i := by
  have hle : i ≤ last := by omega
  rw [Shell.proceedPlace, reached?_movedTo h hle, if_pos hi]
  exact place_movedTo h hle

/-- At a hit the first of the breakpoints that stop there is reported. -/
theorem proceedPlace_of_hit (h : EndsAt s.program last) (hi : i ≤ last)
    (hhit : isHit s.program (Breakpoint.anyStopsAt stops) i = true) :
    ∃ b, Breakpoint.IsFirst stops (frameOf s.program (position s.program i).path) b ∧
      Shell.proceedPlace stops (s.movedTo i) =
        b.report (frameOf s.program (position s.program i).path) := by
  obtain ⟨hstart, hend, hstops⟩ := (Cursor.isHit_iff h hi).1 hhit
  have hinside : ¬ (i = 0 ∨ i = last) := by omega
  obtain ⟨b, hb⟩ := Option.isSome_iff_exists.1 (List.find?_isSome.2 (List.any_eq_true.1 hstops))
  refine ⟨b, Breakpoint.isFirst_of_find? hb, ?_⟩
  rw [Shell.proceedPlace, reached?_movedTo h hi, if_neg hinside, hb]
  rfl

end Session

namespace Shell

variable {σ : Type} {source : TraceSource σ} {state : σ} {shell : Shell} {s : Session}
  {last i : Nat}

theorem find_continue : ∃ command, Command.map.find "continue".toList = .ok command ∧
    command.kind = .proceed ∧ command.repeatable = true :=
  ⟨_, rfl, rfl, rfl⟩

theorem proceedArgument?_signedDigits (n : Int64) :
    proceedArgument? (Number.signedDigits n.toInt) = some n.toInt := by
  have hne : ¬ (Number.signedDigits n.toInt).isEmpty = true := by
    rw [List.isEmpty_iff]
    exact Number.signedDigits_ne_nil _
  rw [proceedArgument?, if_neg hne, Number.int64?_signedDigits]

theorem At.line_continue (h : shell.At s last i) (hlast : EndsAt s.program last)
    (hg : s.program.WellFormed) (source : TraceSource σ) (state : σ) (n : Int64) :
    (shell.line source state (numberLine "continue" n)).1.shell =
        { shell with
          session := some (s.movedTo
            (hitFrom s.program (Breakpoint.anyStopsAt shell.breakpoints) last i n.toInt))
          lastLine := some (numberLine "continue" n) } ∧
      (shell.line source state (numberLine "continue" n)).1.shown =
        proceedPlace shell.breakpoints (s.movedTo
          (hitFrom s.program (Breakpoint.anyStopsAt shell.breakpoints) last i n.toInt)) := by
  obtain ⟨command, hfind, hkind, hrepeatable⟩ := find_continue
  rw [line_numberLine n (by decide) (by decide) hfind, hkind, hrepeatable, run, proceed]
  simp only [h.session, proceedArgument?_signedDigits]
  have hcursor := hlast.repeatMove_hits hg (Breakpoint.anyStopsAt shell.breakpoints) h.le n.toInt
  exact ⟨congrArg (fun cursor => { shell with
      session := some { s with cursor }, lastLine := some (numberLine "continue" n) }) hcursor,
    congrArg (fun cursor => proceedPlace shell.breakpoints { s with cursor }) hcursor⟩

theorem At.session_continues (h : shell.At s last i) (hlast : EndsAt s.program last)
    (hg : s.program.WellFormed) (source : TraceSource σ) (state : σ) (ns : List Int64) :
    (takeLines source shell state (ns.map (numberLine "continue"))).shell.session =
      some (s.movedTo ((ns.map Int64.toInt).foldl
        (hitFrom s.program (Breakpoint.anyStopsAt shell.breakpoints) last) i)) := by
  refine (takeLines_numberLines
    (P := fun other i => other.At s last i ∧ other.breakpoints = shell.breakpoints)
    ?_ ⟨h, rfl⟩ ns).1.session
  rintro other state i n ⟨h, hstops⟩
  rw [(h.line_continue hlast hg source state n).1, hstops]
  exact ⟨⟨rfl, Cursor.hitFrom_le h.le n.toInt⟩, rfl⟩

/-- Going on for `n` hits, or back for as many if `n` is negative, leads to the `n`-th hit on that
side, or to the end of the walk there if there are fewer. At an end it is shown which one, and
elsewhere the first of the breakpoints that stop there and the frame. One hit on and one back
cancel at the start and at every hit. -/
theorem continue_counts_hits (hreach : shell.Reached) (hsession : shell.session = some s)
    (stops : List Breakpoint) (source : TraceSource σ) (state : σ) :
    let stopping := { shell with breakpoints := stops }
    let test := Breakpoint.anyStopsAt stops
    ∃ last h, EndsAt s.program last ∧ h ≤ last ∧ s.cursor = position s.program h ∧
      (∀ n : Int64, n.toInt ≠ 0 →
        let effect := (line source stopping state (numberLine "continue" n)).1
        let i := hitFrom s.program test last h n.toInt
        let frame := frameOf s.program (position s.program i).path
        effect.shell =
            { stopping with
              session := some (s.movedTo i)
              lastLine := some (numberLine "continue" n) } ∧
          (i = 0 ∨ i = last → effect.shown = s.shownAt last i) ∧
          (¬ (i = 0 ∨ i = last) →
            ∃ b, Breakpoint.IsFirst stops frame b ∧ effect.shown = b.report frame)) ∧
      (h = 0 ∨ isHit s.program test h = true →
        (takeLines source stopping state
          [numberLine "continue" 1, numberLine "continue" (-1)]).shell.session = some s) := by
  intro stopping test
  obtain ⟨last, h, hlast, hat, hs⟩ := hreach.exists_at hsession
  have hg := (hreach.traveled s hsession).wellFormed
  have hstopping : stopping.At s last h := ⟨hat.session, hat.le⟩
  refine ⟨last, h, hlast, hat.le, (congrArg Session.cursor hs).symm, fun n hn => ?_,
    fun hstart => ?_⟩
  · intro effect i frame
    obtain ⟨hshell, hshown⟩ := hstopping.line_continue hlast hg source state n
    have hle : i ≤ last := Cursor.hitFrom_le hat.le n.toInt
    refine ⟨hshell, fun hend => ?_, fun hinside => ?_⟩
    · exact hshown.trans (Session.proceedPlace_of_end hlast hend)
    · have hhit : isHit s.program test i = true := by
        rcases Cursor.hitFrom_cases hat.le hn with hzero | hend | ⟨-, hhit⟩
        · exact absurd (.inl hzero) hinside
        · exact absurd (.inr hend) hinside
        · exact hhit
      obtain ⟨b, hfirst, hreport⟩ := Session.proceedPlace_of_hit hlast hle hhit
      exact ⟨b, hfirst, hshown.trans hreport⟩
  · have hlt : h < last := by
      rcases hstart with rfl | hhit
      · exact hlast.pos
      · exact ((Cursor.isHit_iff hlast hat.le).1 hhit).2.1
    have hback := hstopping.session_continues hlast hg source state [1, -1]
    refine hback.trans (congrArg some ?_)
    exact (congrArg s.movedTo (Cursor.hitFrom_back hlt hstart)).trans hs

/-- The second hit of two tests, one of which accepts the root; and one hit on and one back. -/
theorem continue_counts_hits_entwined :
    let shell : Shell := { session := some entwinedSession, fullMode := true }
    let stops : List Breakpoint :=
      [{ pattern := "main", accepts := (· == "main") }, { pattern := "^b", accepts := (· == "b") }]
    let stopping := { shell with breakpoints := stops }
    let source : TraceSource Unit :=
      { answer := fun _ _ => ({ evaluation := .error (.evaluation "no trace") }, ()) }
    shell.Reached ∧ shell.session = some entwinedSession ∧ (2 : Int64).toInt ≠ 0 ∧
      (∃ b, Breakpoint.IsFirst stops { name := "b", kind := some .templateInstantiation } b ∧
        (line source stopping () (numberLine "continue" 2)).1.shown =
          b.report { name := "b", kind := some .templateInstantiation }) ∧
      (takeLines source stopping ()
        [numberLine "continue" 1, numberLine "continue" (-1)]).shell.session =
          some entwinedSession := by
  intro shell stops stopping source
  have hsession : shell.session = some entwinedSession := rfl
  obtain ⟨last, h, hlast, hle, hcursor, hgo, hundo⟩ :=
    continue_counts_hits reached_entwinedSession hsession stops source ()
  have hzero : h = 0 := by
    rw [← hlast.history_length hle, ← hcursor]
    rfl
  subst hzero
  have height : last = 8 := Nat.le_antisymm (hlast.finished_iff.1 (by decide +kernel))
    (Nat.lt_of_not_le fun hseven =>
      absurd (hlast.finished_iff.2 hseven) (by decide +kernel))
  subst height
  refine ⟨reached_entwinedSession, hsession, by decide, ?_, hundo (.inl rfl)⟩
  obtain ⟨-, -, hreport⟩ := hgo 2 (by decide)
  exact hreport (by decide +kernel)

end Shell

end TemplateTrace
