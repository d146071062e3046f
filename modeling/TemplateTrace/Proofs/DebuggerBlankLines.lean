import TemplateTrace.Proofs.CommandLookup
import TemplateTrace.Proofs.DebuggerLines

/-!
# Blank lines

A blank line is short for the line before it, if that one steps or goes on to a breakpoint, and
for nothing otherwise. `writtenOut` says so without a debugger: it goes through the lines with
nothing in mind but the last one that was not blank. The debugger has a line in mind as well, but
comes to it otherwise, forgetting it whenever a line fails or is not to be repeated, and a repeated
line goes the same way again. That both have the same line in mind (`Remembers`) is kept by every
line, whatever it shows, so lines and lines written out do the same, `takeLines_writtenOut`.

The line remembered is never blank, so a line without a word is never looked up.
-/

namespace TemplateTrace

/-- What comes of lines that are taken one by one. -/
structure Course (σ : Type) where
  shell : Shell
  /-- The state of the source. -/
  state : σ
  shown : List Document := []
  log : List LogRecord := []
  /-- The expressions whose traces were asked for. -/
  asked : List String := []

/-- The course with what one more line does put before it. -/
def Course.precededBy {σ : Type} (later : Course σ) (effect : Effect) (asked : List String) :
    Course σ :=
  { later with
    shown := effect.shown ++ later.shown
    log := effect.log ++ later.log
    asked := asked ++ later.asked }

namespace Shell

/-- Takes all lines, also those after the debugger was told to quit. -/
def takeLines {σ : Type} (source : TraceSource σ) : Shell → σ → List String → Course σ
  | shell, state, [] => { shell, state }
  | shell, state, first :: rest =>
      let (effect, next) := shell.line source state first
      (takeLines source effect.shell next rest).precededBy effect (shell.react first).asked

/-- Whether a line means a command that a blank line repeats. -/
def repeats (line : String) : Bool :=
  match Command.map.resolve line.toList with
  | .ok (command, _) => command.kind = .step || command.kind = .proceed
  | .error _ => false

/-- The lines without the blank ones, each of which is replaced by the last line before it that is
not blank if that one is to be repeated. -/
def writtenOut (latest : Option String) : List String → List String
  | [] => []
  | line :: rest =>
      if line.toList.all Text.isBlank then
        (latest.filter repeats).toList ++ writtenOut latest rest
      else line :: writtenOut (some line) rest

variable {σ : Type} {source : TraceSource σ} {shell : Shell} {latest : Option String}
  {line : String}

/-! ## What is remembered -/

/-- The commands that may be repeated step or go on. -/
theorem repeatable_eq {command : Command} (h : command ∈ Command.all) :
    command.repeatable = (command.kind = .step || command.kind = .proceed : Bool) := by
  revert command
  decide

theorem mem_all_of_resolve {rest : List Char} {command : Command}
    (h : Command.map.resolve line.toList = .ok (command, rest)) : command ∈ Command.all := by
  have hsnd : (Command.all.map fun c => (c.keys, c)).map Prod.snd = Command.all := by
    rw [List.map_map]
    exact List.map_id _
  exact hsnd ▸ CommandMap.mem_of_resolve h

theorem start_lastLine (shell : Shell) (expression : String) (mode : Mode)
    (answer : Except TraceError Evaluation) :
    (shell.start expression mode answer).shell.lastLine = shell.lastLine := by
  cases answer with
  | error error => rfl
  | ok evaluation =>
      rw [start]
      split
      · rfl
      · rfl

theorem step_lastLine (shell : Shell) (args : List Char) :
    (shell.step args).shell.lastLine = shell.lastLine := by
  rw [step]
  split
  · rfl
  · split
    · rfl
    · split
      · rfl
      · rfl
    · split
      · rfl
      · dsimp only
        split
        · rfl
        · rfl

theorem addBreakpoint_lastLine (shell : Shell) (args : List Char) :
    (shell.addBreakpoint args).shell.lastLine = shell.lastLine := by
  rw [addBreakpoint]
  split
  · rfl
  · split
    · rfl
    · dsimp only
      split
      · rfl
      · dsimp only
        split
        · rfl
        · rfl

/-- No command touches the line that is remembered. -/
theorem run_lastLine (shell : Shell) (kind : CommandKind) (args : List Char) :
    (shell.run kind args).Meets fun e => e.shell.lastLine = shell.lastLine := by
  cases kind with
  | evaluate =>
      rw [run, evaluate]
      split
      dsimp only
      split
      · rfl
      · exact shell.start_lastLine _ _
      · exact shell.start_lastLine _ _
  | step => exact shell.step_lastLine args
  | proceed =>
      rw [run, Reaction.Meets, proceed]
      split
      · rfl
      · split
        · rfl
        · rfl
  | addBreakpoint => exact shell.addBreakpoint_lastLine args
  | quit =>
      rw [run, Reaction.Meets, quit]
      split
      · rfl
      · rfl
  | forwardTrace | backtrace | frame | help =>
      exact (run_onlyLooks shell rfl args).mono fun e he => by rw [he]

/-- After a line it is the line remembered, if it is to be repeated. -/
theorem obey_lastLine (shell : Shell) (line : String) :
    (shell.obey line).Meets fun e => e.shell.lastLine = (some line).filter repeats := by
  rw [obey]
  split
  · next error hresolve =>
      have hnot : repeats line = false := by rw [repeats, hresolve]
      rw [Reaction.Meets, Option.filter_some, hnot]
      rfl
  · next command rest hresolve =>
      have hrepeats : repeats line = command.repeatable := by
        rw [repeats, hresolve, repeatable_eq (mem_all_of_resolve hresolve)]
      refine ((run_lastLine _ _ _).mono fun e he => ?_).after (fun _ _ he => he) _
      rw [he, Option.filter_some, hrepeats]

theorem line_lastLine (source : TraceSource σ) (shell : Shell) (state : σ)
    (h : line.toList.all Text.isBlank = false) :
    (shell.line source state line).1.shell.lastLine = (some line).filter repeats := by
  rw [line_eq_obey state ((Text.isEmpty_trim _).trans h)]
  exact (shell.obey_lastLine line).settle (fun _ _ he => he) source state

/-- The debugger remembers the last line that is not blank, if it is to be repeated. -/
structure Remembers (shell : Shell) (latest : Option String) : Prop where
  lastLine : shell.lastLine = latest.filter repeats
  solid : ∀ line ∈ latest, line.toList.all Text.isBlank = false

theorem remembers_start (fullMode : Bool) : Remembers { fullMode } none :=
  ⟨rfl, fun _ h => by cases h⟩

theorem remembers_line (source : TraceSource σ) (shell : Shell) (state : σ)
    (h : line.toList.all Text.isBlank = false) :
    Remembers (shell.line source state line).1.shell (some line) :=
  ⟨line_lastLine source shell state h, fun _ hmem => Option.mem_some.1 hmem ▸ h⟩

/-- A blank line does what the line does that it stands for, or nothing. -/
theorem meantLine_of_blank (h : Remembers shell latest)
    (hline : line.toList.all Text.isBlank = true) :
    shell.meantLine line = latest.filter repeats := by
  rw [meantLine, Text.isEmpty_trim, if_pos hline, h.lastLine]

theorem meantLine_of_solid (shell : Shell) (hline : line.toList.all Text.isBlank = false) :
    shell.meantLine line = some line := by
  rw [meantLine, Text.isEmpty_trim, hline, if_neg Bool.false_ne_true]

theorem react_congr {other : String} (h : shell.meantLine line = shell.meantLine other) :
    shell.react line = shell.react other := by
  rw [react, react, h]

theorem line_congr_meant {other : String} (h : shell.meantLine line = shell.meantLine other)
    (state : σ) : shell.line source state line = shell.line source state other := by
  rw [Shell.line, Shell.line, react_congr h]

theorem line_of_none (h : shell.meantLine line = none) (state : σ) :
    shell.line source state line = ({ shell }, state) := by
  rw [Shell.line, react, h]
  rfl

/-- Every line keeps it so that the debugger remembers some line. -/
theorem Remembers.after_line (source : TraceSource σ) (h : Remembers shell latest) (state : σ)
    (line : String) :
    ∃ latest, Remembers (shell.line source state line).1.shell latest := by
  cases hblank : line.toList.all Text.isBlank with
  | false => exact ⟨some line, remembers_line source shell state hblank⟩
  | true =>
      have hmeant := meantLine_of_blank h hblank
      cases hlatest : latest.filter repeats with
      | none =>
          rw [line_of_none (hmeant.trans hlatest)]
          exact ⟨latest, h⟩
      | some meant =>
          have hsolid := h.solid meant (Option.filter_eq_some_iff.1 hlatest).1
          rw [hlatest, ← meantLine_of_solid shell hsolid] at hmeant
          rw [line_congr_meant hmeant]
          exact ⟨some meant, remembers_line source shell state hsolid⟩

/-! ## Runs -/

theorem takeLines_cons (source : TraceSource σ) (shell : Shell) (state : σ) (first : String)
    (rest : List String) :
    takeLines source shell state (first :: rest) =
      (takeLines source (shell.line source state first).1.shell
        (shell.line source state first).2 rest).precededBy
          (shell.line source state first).1 (shell.react first).asked := rfl

theorem takeLines_cons_congr {other : String} (h : shell.meantLine line = shell.meantLine other)
    (state : σ) (rest : List String) :
    takeLines source shell state (line :: rest) =
      takeLines source shell state (other :: rest) := by
  rw [takeLines_cons, takeLines_cons, line_congr_meant h, react_congr h]

theorem takeLines_cons_of_none (h : shell.meantLine line = none) (state : σ)
    (rest : List String) :
    takeLines source shell state (line :: rest) = takeLines source shell state rest := by
  rw [takeLines_cons, line_of_none h, react, h]
  rfl

theorem Remembers.takeLines_eq (h : Remembers shell latest) (state : σ) (lines : List String) :
    takeLines source shell state lines =
      takeLines source shell state (writtenOut latest lines) := by
  induction lines generalizing shell state latest with
  | nil => rfl
  | cons line rest ih =>
      rw [writtenOut]
      split
      · next hblank =>
          have hmeant := meantLine_of_blank h hblank
          cases hlatest : latest.filter repeats with
          | none =>
              rw [hlatest] at hmeant
              rw [takeLines_cons_of_none hmeant, ih h]
              rfl
          | some meant =>
              obtain ⟨rfl, -⟩ := Option.filter_eq_some_iff.1 hlatest
              have hsolid := h.solid meant rfl
              rw [hlatest, ← meantLine_of_solid shell hsolid] at hmeant
              rw [takeLines_cons_congr hmeant, Option.toList_some, List.singleton_append,
                takeLines_cons, takeLines_cons, ih (remembers_line source shell state hsolid)]
      · next hsolid =>
          rw [takeLines_cons, takeLines_cons,
            ih (remembers_line source shell state (Bool.eq_false_iff.2 hsolid))]

theorem Remembers.after_lines (source : TraceSource σ) (h : Remembers shell latest) (state : σ)
    (lines : List String) :
    ∃ latest, Remembers (takeLines source shell state lines).shell latest := by
  induction lines generalizing shell state latest with
  | nil => exact ⟨latest, h⟩
  | cons line rest ih =>
      obtain ⟨latest, h⟩ := h.after_line source state line
      rw [takeLines_cons]
      exact ih h _

/-- The line that is meant has a word, so it is not looked up as no command. -/
theorem Remembers.lookup_ne (h : Remembers shell latest) (line : String) :
    (shell.meantLine line).map (Command.map.resolve ·.toList) ≠ some (.error .noCommand) := by
  intro hlookup
  obtain ⟨meant, hmeant, hresolve⟩ := Option.map_eq_some_iff.1 hlookup
  have hsolid : meant.toList.all Text.isBlank = false := by
    cases hblank : line.toList.all Text.isBlank with
    | false =>
        rw [meantLine_of_solid shell hblank] at hmeant
        cases hmeant
        exact hblank
    | true =>
        rw [meantLine_of_blank h hblank] at hmeant
        exact h.solid meant (Option.filter_eq_some_iff.1 hmeant).1
  rw [Command.map, CommandMap.resolve_eq_noCommand_iff, ← List.all_eq_true, hsolid] at hresolve
  cases hresolve

/-- Lines do the same as the lines written out, and after any lines there is no line that is
looked up as no command. -/
theorem takeLines_writtenOut (source : TraceSource σ) (fullMode : Bool) (state : σ)
    (lines : List String) :
    takeLines source { fullMode } state lines =
        takeLines source { fullMode } state (writtenOut none lines) ∧
      ∀ line, ((takeLines source { fullMode } state lines).shell.meantLine line).map
        (Command.map.resolve ·.toList) ≠ some (.error .noCommand) := by
  refine ⟨(remembers_start fullMode).takeLines_eq state lines, fun line => ?_⟩
  obtain ⟨latest, h⟩ := (remembers_start fullMode).after_lines source state lines
  exact h.lookup_ne line

example : writtenOut none ["", "step 2", " ", "bt", "\t", "quit", "", "s x", "c y", "", ""] =
    ["step 2", "step 2", "bt", "quit", "s x", "c y", "c y", "c y"] := by
  decide +kernel

end Shell

end TemplateTrace
