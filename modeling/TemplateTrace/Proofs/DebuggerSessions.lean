import TemplateTrace.Proofs.DebuggerWords
import TemplateTrace.Proofs.WalkPositions

/-!
# Sessions

Whatever lines a debugger was given, its session walks the metaprogram of some trace, and its
cursor is on the course of that walk. A line can start another session, which is at the start,
or move the cursor, and every such move is one of the moves of `WalkUndo.lean` or made of them
(`repeatMove_induction`); nothing else touches the session.
-/

namespace TemplateTrace

open Cursor (OnCourse EndsAt position)

/-! ## What starts a session -/

/-- An expression as it can stand behind the command that evaluates it: a text without blanks at
its ends that does not begin with the word that asks for full mode. -/
structure IsExpression (e : String) : Prop where
  nonempty : e ≠ ""
  starts : e.toList.head?.any Text.isBlank = false
  ends : e.toList.getLast?.any Text.isBlank = false
  not_full : ∀ rest, e.toList = "-full".toList ++ rest → rest.head?.all Text.isBlank = false

namespace Shell

variable {σ : Type} {args : List Char}

theorem splitFull_of_not_full
    (h : ∀ rest, args = "-full".toList ++ rest → rest.head?.all Text.isBlank = false) :
    splitFull args = (false, args) := by
  rw [splitFull]
  split
  · next rest hrest =>
      rw [List.isPrefixOf?_eq_some_iff_append_eq] at hrest
      rw [h rest hrest.symm, if_neg Bool.false_ne_true]
  · rfl

theorem find_evaluate : ∃ command, Command.map.find "evaluate".toList = .ok command ∧
    command.kind = .evaluate ∧ command.repeatable = false :=
  ⟨_, rfl, rfl, rfl⟩

theorem begins_evaluate (e : String) :
    Text.Begins ("evaluate " ++ e).toList "evaluate".toList (' ' :: e.toList) := by
  rw [show "evaluate " = "evaluate" ++ " " by decide]
  exact Text.begins_word e (by decide) (by decide)

theorem evaluate_of_isExpression (shell : Shell) {e : String} (he : IsExpression e) :
    shell.evaluate e.toList = .asks e [] (shell.start e (.ofFull shell.fullMode)) := by
  have hne : e.toList ≠ [] := fun hnil => he.nonempty (String.toList_eq_nil_iff.1 hnil)
  rw [evaluate, splitFull_of_not_full he.not_full]
  dsimp only
  split
  · next hnil _ => exact absurd hnil hne
  · next hnil _ => exact absurd hnil hne
  · rw [String.ofList_toList]
    rfl

/-- The metaprogram that an answer makes of an expression. -/
def builtFrom (mode : Mode) (e : String) (answer : Except TraceError Evaluation) :
    Except TraceError Metaprogram :=
  answer.bind fun evaluation =>
    Metaprogram.ofEvents evaluation.events mode e evaluation.result

theorem start_eq (shell : Shell) (e : String) (mode : Mode)
    (answer : Except TraceError Evaluation) :
    ∃ log, shell.start e mode answer = match builtFrom mode e answer with
      | .error error => { shell.failing error.message with log }
      | .ok program =>
          { shell :=
              { shell with session := some { expression := e, program, cursor := .start program } }
            shown := [.rawText "Metaprogram started"]
            log } := by
  cases answer with
  | error error => exact ⟨[], rfl⟩
  | ok evaluation =>
      rw [builtFrom, Except.bind, Metaprogram.ofEvents, start]
      cases Metaprogram.build evaluation.events mode e evaluation.result with
      | mk built log =>
          cases built with
          | error error => exact ⟨log, rfl⟩
          | ok program => exact ⟨log, rfl⟩

/-- The source is asked for the expression of the line, and its answer starts the session. -/
theorem line_evaluate (source : TraceSource σ) (shell : Shell) (state : σ) {e : String}
    (he : IsExpression e) :
    ∃ log, (shell.line source state ("evaluate " ++ e)).1 =
      match builtFrom (.ofFull shell.fullMode) e (source.answer state e).1.evaluation with
      | .error error =>
          { shell := { shell with lastLine := none }, shown := [.error error.message], log }
      | .ok program =>
          { shell :=
              { shell with
                lastLine := none
                session := some { expression := e, program, cursor := .start program } }
            shown := [.rawText "Metaprogram started"]
            log } := by
  obtain ⟨command, hfind, hkind, hrepeatable⟩ := find_evaluate
  obtain ⟨log, hstart⟩ := start_eq { shell with lastLine := none } e (.ofFull shell.fullMode)
    (source.answer state e).1.evaluation
  rw [line_of_begins (begins_evaluate e) hfind, hkind, hrepeatable,
    Text.trim_cons_blank he.starts he.ends, run, evaluate_of_isExpression _ he]
  change ∃ log, (({ shell with lastLine := none } : Shell).start e (.ofFull shell.fullMode)
    (source.answer state e).1.evaluation).after _ = _
  rw [hstart]
  cases builtFrom (.ofFull shell.fullMode) e (source.answer state e).1.evaluation with
  | error error => exact ⟨_, rfl⟩
  | ok program => exact ⟨_, rfl⟩

end Shell

/-! ## On the course -/

/-- The session walks the metaprogram of a trace, and is on the course of that walk. -/
structure Session.Traveled (s : Session) : Prop where
  built : ∃ events mode rootName result,
    Metaprogram.ofEvents events mode rootName result = .ok s.program
  onCourse : OnCourse s.program s.cursor

namespace Cursor

variable {g : Metaprogram} {c : Cursor} {n : Nat}

theorem OnCourse.perform (hc : OnCourse g c) (move : Move) : OnCourse g (c.perform g move) :=
  perform_induction (onCourse_start g) OnCourse.step (fun hc h => (hc.step?_of_stepBack? h).1)
    move hc

/-- What one move keeps, any number of them keeps. -/
theorem repeatMove_induction {P : Cursor → Prop} {move : Cursor → Outcome × Cursor}
    (h : ∀ c, P c → P (move c).2) (n : Nat) (hc : P c) : P (c.repeatMove move n).2 := by
  induction n generalizing c with
  | zero => exact hc
  | succ n ih =>
      have hmoved := h c hc
      rw [repeatMove]
      split
      · next d hd =>
          rw [hd] at hmoved
          exact ih hmoved
      · exact hmoved

end Cursor

namespace Session

variable {s : Session} {c : Cursor}

theorem Traveled.wellFormed (h : s.Traveled) : s.program.WellFormed := by
  obtain ⟨events, mode, rootName, result, hbuilt⟩ := h.built
  exact Metaprogram.wellFormed_ofEvents hbuilt

theorem Traveled.moved (h : s.Traveled) (hc : OnCourse s.program c) :
    Traveled { s with cursor := c } :=
  ⟨h.built, hc⟩

theorem Traveled.exists_position (h : s.Traveled) :
    ∃ last i, EndsAt s.program last ∧ i ≤ last ∧ s.cursor = position s.program i := by
  obtain ⟨last, hlast⟩ := Cursor.exists_endsAt h.wellFormed
  obtain ⟨i, hi, hc⟩ := hlast.exists_position h.onCourse
  exact ⟨last, i, hlast, hi, hc⟩

end Session

namespace Shell

/-- The session, if there is one, is on the course of its walk. -/
def Traveled (shell : Shell) : Prop := ∀ s ∈ shell.session, s.Traveled

/-- Some lines lead a new debugger to this state, with some source. -/
def Reached (shell : Shell) : Prop :=
  ∃ (σ : Type) (source : TraceSource σ) (state : σ) (fullMode : Bool) (lines : List String),
    shell = (takeLines source { fullMode } state lines).shell

variable {σ : Type} {shell : Shell} {s : Session}

theorem start_traveled (h : shell.Traveled) (expression : String) (mode : Mode)
    (answer : Except TraceError Evaluation) :
    (shell.start expression mode answer).shell.Traveled := by
  obtain ⟨log, hstart⟩ := start_eq shell expression mode answer
  rw [hstart]
  cases hbuilt : builtFrom mode expression answer with
  | error error => exact h
  | ok program =>
      intro s hs
      cases hs
      cases answer with
      | error error => cases hbuilt
      | ok evaluation =>
          exact ⟨⟨evaluation.events, mode, expression, evaluation.result, hbuilt⟩,
            Cursor.onCourse_start program⟩

theorem evaluate_traveled (h : shell.Traveled) (args : List Char) :
    (shell.evaluate args).Meets fun e => e.shell.Traveled := by
  rw [evaluate]
  split
  dsimp only
  split
  · exact h
  · exact start_traveled h _ _
  · exact start_traveled h _ _

theorem moving_traveled {c : Cursor} (hs : s.Traveled) (hc : OnCourse s.program c)
    (shown : Session → List Document) : (shell.moving s c shown).shell.Traveled := by
  intro t ht
  cases ht
  exact hs.moved hc

theorem step_traveled (h : shell.Traveled) (args : List Char) :
    (shell.step args).shell.Traveled := by
  rw [step]
  split
  · exact h
  · next s hsession =>
      have hs := h s hsession
      split
      · exact h
      · next count _ =>
          split
          · exact moving_traveled hs (hs.onCourse.perform (.stepInto count.toNat)) _
          · exact moving_traveled hs (hs.onCourse.perform (.stepBackBy count.natAbs)) _
      · next kind count _ _ =>
          split
          · exact h
          · dsimp only
            -- the cursor is where the loop left it, whatever the outcome is
            have hmoves : OnCourse s.program (s.cursor.repeatMove
                (if kind = .over then Cursor.stepOver s.program else Cursor.stepOut s.program)
                count.toNat).2 := by
              refine Cursor.repeatMove_induction (fun c hc => ?_) _ hs.onCourse
              split
              · exact hc.perform .stepOver
              · exact hc.perform .stepOut
            split
            · next cursor hcursor =>
                rw [hcursor] at hmoves
                exact moving_traveled hs hmoves _
            · next outcome cursor _ hcursor =>
                rw [hcursor] at hmoves
                exact moving_traveled hs hmoves _

theorem proceed_traveled (h : shell.Traveled) (args : List Char) :
    (shell.proceed args).shell.Traveled := by
  rw [proceed]
  split
  · exact h
  · next s hsession =>
      have hs := h s hsession
      split
      · exact h
      · refine moving_traveled hs (Cursor.repeatMove_induction (fun c hc => ?_) _ hs.onCourse) _
        split
        · exact hc.perform (.continueUntil _)
        · exact hc.perform (.continueBackUntil _)

theorem addBreakpoint_traveled (h : shell.Traveled) (args : List Char) :
    (shell.addBreakpoint args).shell.Traveled := by
  rw [addBreakpoint]
  split
  · exact h
  · split
    · exact h
    · dsimp only
      split
      · exact h
      · dsimp only
        split
        · exact h
        · exact h

theorem run_traveled (h : shell.Traveled) (kind : CommandKind) (args : List Char) :
    (shell.run kind args).Meets fun e => e.shell.Traveled := by
  cases kind with
  | evaluate => exact evaluate_traveled h args
  | step => exact step_traveled h args
  | proceed => exact proceed_traveled h args
  | addBreakpoint => exact addBreakpoint_traveled h args
  | quit =>
      rw [run, Reaction.Meets, quit]
      split
      · exact h
      · exact h
  | forwardTrace | backtrace | frame | help =>
      exact (run_onlyLooks shell rfl args).mono fun e he => by rw [he]; exact h

theorem line_traveled (source : TraceSource σ) (h : shell.Traveled) (state : σ) (line : String) :
    (shell.line source state line).1.shell.Traveled := by
  rw [Shell.line]
  refine Reaction.Meets.settle (P := fun e => e.shell.Traveled) ?_ (fun _ _ he => he) source state
  rw [react]
  split
  · exact h
  · next meant _ =>
      show (shell.obey meant).Meets _
      rw [obey]
      split
      · exact h
      · next command rest _ =>
          have hnext : Traveled
              { shell with lastLine := if command.repeatable then some meant else none } := h
          exact Reaction.Meets.after (P := fun e => e.shell.Traveled)
            (run_traveled hnext command.kind _) (fun _ _ he => he) _

theorem takeLines_traveled (source : TraceSource σ) (h : shell.Traveled) (state : σ)
    (lines : List String) : (takeLines source shell state lines).shell.Traveled := by
  induction lines generalizing shell state with
  | nil => exact h
  | cons line rest ih =>
      rw [takeLines_cons]
      exact ih (line_traveled source h state line) _

/-- Every walk can be started, if it has a name that a line can give. -/
theorem reached_start {events : List Event} {fullMode : Bool} {e result : String}
    {g : Metaprogram} (h : Metaprogram.ofEvents events (.ofFull fullMode) e result = .ok g)
    (he : IsExpression e) :
    Reached
      { session := some { expression := e, program := g, cursor := .start g }, fullMode } := by
  let source : TraceSource Unit :=
    { answer := fun _ _ => ({ evaluation := .ok { events, result } }, ()) }
  refine ⟨Unit, source, (), fullMode, ["evaluate " ++ e], ?_⟩
  obtain ⟨log, hline⟩ := line_evaluate source { fullMode } () he
  have hbuilt : builtFrom (.ofFull fullMode) e (source.answer () e).1.evaluation = .ok g := h
  rw [hbuilt] at hline
  rw [takeLines_cons, hline]
  rfl

/-- A session at the start of the walk through a small trace. -/
def entwinedSession : Session :=
  let program := (outline entwined).graph .full "main" "int"
  { expression := "main", program, cursor := .start program }

theorem reached_entwinedSession : Reached { session := some entwinedSession, fullMode := true } :=
  reached_start (Metaprogram.ofEvents_of_balanced balanced_entwined)
    ⟨by decide, by decide, by decide, fun _ h => by cases h⟩

theorem Reached.traveled (h : shell.Reached) : shell.Traveled := by
  obtain ⟨σ, source, state, fullMode, lines, rfl⟩ := h
  refine takeLines_traveled source ?_ state lines
  rintro s ⟨⟩

end Shell

end TemplateTrace
