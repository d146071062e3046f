import TemplateTrace.Debugger.Shell
import TemplateTrace.Proofs.BuilderGraph
import TemplateTrace.Proofs.WalkUndo

/-!
# A line of the debugger takes effect or fails

Each command has its own ways to fail, and all of them leave the debugger as it was: whatever
shows an error shows nothing else and changes nothing but the line that an empty line repeats.
`AllOrNothing` says so of one effect, `run_allOrNothing` of every command, and from there it
goes on to lines and scripts.

One command could do otherwise. Stepping out is repeated as often as asked, and the error that
there is nothing above the root comes from inside that loop, when the cursor may have moved. But
a step forward never leads to the root (`isAtRoot_of_step?`), so only the first round can find
the cursor there, and then it has not moved (`repeatMove_stepOut`).

What a line shows depends on no line before it but through the state, and a line that is not
blank does not look at the line remembered. So the lines that fail, and those that only look,
may be left out of a script and the others show the same, `transcript_remaining`.
-/

namespace TemplateTrace

/-- Whether a document tells of an error. -/
def Document.isError : Document → Bool
  | .error _ => true
  | _ => false

/-- Whether a command looks at the state of the debugger and leaves it alone. -/
def CommandKind.onlyLooks : CommandKind → Bool
  | .forwardTrace | .backtrace | .frame | .help => true
  | _ => false

/-- Whether an error is shown. -/
def Effect.fails (e : Effect) : Bool := e.shown.any Document.isError

/-- A condition on the effect of a reaction, whatever the answer is if it asks. -/
def Reaction.Meets (P : Effect → Prop) : Reaction → Prop
  | .settled effect => P effect
  | .asks _ _ resume => ∀ answer, P (resume answer)

/-- What a source says to an expression does not depend on what it was asked before. -/
def TraceSource.AnswersByExpression {σ : Type} (source : TraceSource σ) : Prop :=
  ∀ s t expression,
    (source.answer s expression).1.evaluation = (source.answer t expression).1.evaluation

/-! ## Stepping over and out -/

namespace Cursor

variable {g : Metaprogram} {c d : Cursor} {n : Nat}

theorem stepOver_ne_atRoot (c : Cursor) : (c.stepOver g).1 ≠ .atRoot := by
  rw [stepOver]
  split
  · exact Outcome.noConfusion
  · exact Outcome.noConfusion

/-- Stepping out stops at the root, and from elsewhere does not come there. -/
theorem stepOut_cases (g : Metaprogram) (c : Cursor) :
    (c.isAtRoot = true ∧ c.stepOut g = (.atRoot, c)) ∨
      ((c.stepOut g).1 ≠ .atRoot ∧ (c.stepOut g).2.isAtRoot = false) := by
  rw [stepOut]
  split
  · next hfin => exact .inr ⟨Outcome.noConfusion, by simp [isAtRoot, hfin]⟩
  · split
    · next hroot => exact .inl ⟨hroot, rfl⟩
    · next haway =>
        refine .inr ⟨Outcome.noConfusion, ?_⟩
        exact advanceUntil_induction (P := fun b => b.isAtRoot = false)
          (fun _ h => isAtRoot_of_step? h) _ _ (by simpa using haway)

theorem repeatMove_stepOver (n : Nat) (c : Cursor) :
    (c.repeatMove (stepOver g) n).1 ≠ .atRoot := by
  induction n generalizing c with
  | zero => exact Outcome.noConfusion
  | succ n ih =>
      rw [repeatMove]
      split
      · next b _ => exact ih b
      · exact stepOver_ne_atRoot c

theorem repeatMove_stepOut_of_away (n : Nat) (h : c.isAtRoot = false) :
    (c.repeatMove (stepOut g) n).1 ≠ .atRoot := by
  induction n generalizing c with
  | zero => exact Outcome.noConfusion
  | succ n ih =>
      rw [repeatMove]
      rcases stepOut_cases g c with ⟨hroot, -⟩ | ⟨hmoved, haway⟩
      · rw [hroot] at h
        cases h
      · split
        · next b hb =>
            rw [hb] at haway
            exact ih haway
        · exact hmoved

/-- Stepping out that ends at the root has not begun. -/
theorem repeatMove_stepOut (h : c.repeatMove (stepOut g) n = (.atRoot, d)) : d = c := by
  cases n with
  | zero => cases h
  | succ n =>
      rw [repeatMove] at h
      rcases stepOut_cases g c with ⟨-, hroot⟩ | ⟨hmoved, haway⟩
      · rw [hroot] at h
        cases h
        rfl
      · split at h
        · next b hb =>
            rw [hb] at haway
            exact absurd (congrArg Prod.fst h) (repeatMove_stepOut_of_away n haway)
        · exact absurd (congrArg Prod.fst h) hmoved

end Cursor

/-! ## Commands -/

namespace Session

theorem not_isError_place (s : Session) : s.place.any Document.isError = false := by
  rw [place]
  split
  · rfl
  · split
    · rfl
    · rfl

end Session

namespace Shell

/-- Nothing but the line that an empty line repeats is different. -/
def Keeps (before after : Shell) : Prop := after = { before with lastLine := after.lastLine }

/-- An effect shows no error, or shows one error and nothing else and keeps the debugger. -/
def AllOrNothing (before : Shell) (e : Effect) : Prop :=
  e.fails = false ∨ (∃ message, e.shown = [.error message]) ∧ before.Keeps e.shell

variable {shell before after later : Shell} {e : Effect}

theorem Keeps.refl (shell : Shell) : shell.Keeps shell := rfl

theorem Keeps.symm (h : before.Keeps after) : after.Keeps before := by
  rw [Keeps, h]

theorem Keeps.trans (h : before.Keeps after) (h' : after.Keeps later) : before.Keeps later := by
  rw [Keeps, h', h]

theorem keeps_lastLine (shell : Shell) (lastLine : Option String) :
    shell.Keeps { shell with lastLine } := rfl

theorem allOrNothing_failing (shell : Shell) (message : String) :
    shell.AllOrNothing (shell.failing message) :=
  .inr ⟨⟨message, rfl⟩, .refl shell⟩

theorem allOrNothing_place (shell after : Shell) (s : Session) (log : List LogRecord) :
    shell.AllOrNothing { shell := after, shown := s.place, log } :=
  .inl s.not_isError_place

theorem start_allOrNothing (shell : Shell) (expression : String) (mode : Mode)
    (answer : Except TraceError Evaluation) :
    shell.AllOrNothing (shell.start expression mode answer) := by
  cases answer with
  | error error => exact allOrNothing_failing shell _
  | ok evaluation =>
      rw [start]
      split
      · exact .inr ⟨⟨_, rfl⟩, .refl shell⟩
      · exact .inl rfl

theorem evaluate_allOrNothing (shell : Shell) (args : List Char) :
    (shell.evaluate args).Meets shell.AllOrNothing := by
  rw [evaluate]
  split
  dsimp only
  split
  · exact allOrNothing_failing shell _
  · exact shell.start_allOrNothing _ _
  · exact shell.start_allOrNothing _ _

theorem step_allOrNothing (shell : Shell) (args : List Char) :
    shell.AllOrNothing (shell.step args) := by
  rw [step]
  split
  · exact allOrNothing_failing shell _
  · next s hs =>
      split
      · exact allOrNothing_failing shell _
      · split
        · exact allOrNothing_place ..
        · exact allOrNothing_place ..
      · next kind count _ _ =>
          split
          · exact allOrNothing_failing shell _
          · dsimp only
            split
            · next cursor hroot =>
                -- only stepping out ends so, and then the cursor is where it was
                have hsame : cursor = s.cursor := by
                  split at hroot
                  · exact absurd (congrArg Prod.fst hroot) (Cursor.repeatMove_stepOver _ _)
                  · exact Cursor.repeatMove_stepOut hroot
                refine .inr ⟨⟨_, rfl⟩, ?_⟩
                rw [hsame, Keeps, moving, ← hs]
            · exact allOrNothing_place ..

theorem proceed_allOrNothing (shell : Shell) (args : List Char) :
    shell.AllOrNothing (shell.proceed args) := by
  rw [proceed]
  split
  · exact allOrNothing_failing shell _
  · split
    · exact allOrNothing_failing shell _
    · refine .inl ?_
      rw [Effect.fails, moving, proceedPlace]
      dsimp only
      split
      · rfl
      · exact Session.not_isError_place _

theorem forwardTrace_allOrNothing (shell : Shell) (args : List Char) :
    shell.AllOrNothing (shell.forwardTrace args) := by
  rw [forwardTrace]
  split
  · exact allOrNothing_failing shell _
  · dsimp only
    split
    · exact allOrNothing_failing shell _
    · split
      · exact allOrNothing_place ..
      · exact .inl rfl

theorem backtrace_allOrNothing (shell : Shell) (args : List Char) :
    shell.AllOrNothing (shell.backtrace args) := by
  rw [backtrace]
  split
  · exact allOrNothing_failing shell _
  · split
    · exact allOrNothing_failing shell _
    · split
      · exact allOrNothing_place ..
      · exact .inl rfl

theorem frame_allOrNothing (shell : Shell) (args : List Char) :
    shell.AllOrNothing (shell.frame args) := by
  rw [frame]
  split
  · exact allOrNothing_failing shell _
  · split
    · exact allOrNothing_failing shell _
    · split
      · exact allOrNothing_place ..
      · split
        · exact .inl rfl
        · exact allOrNothing_failing shell _

theorem addBreakpoint_allOrNothing (shell : Shell) (args : List Char) :
    shell.AllOrNothing (shell.addBreakpoint args) := by
  rw [addBreakpoint]
  split
  · exact allOrNothing_failing shell _
  · split
    · exact allOrNothing_failing shell _
    · dsimp only
      split
      · exact allOrNothing_failing shell _
      · exact .inl rfl

theorem not_isError_rawTexts (texts : List String) :
    (texts.map Document.rawText).any Document.isError = false := by
  rw [List.any_map, List.any_eq_false]
  exact fun _ _ => Bool.false_ne_true

theorem help_allOrNothing (shell : Shell) (args : List Char) :
    shell.AllOrNothing (shell.help args) := by
  rw [help]
  split
  · exact .inl (not_isError_rawTexts _)
  · split
    · exact .inl (not_isError_rawTexts _)
    · exact allOrNothing_failing shell _
    · exact allOrNothing_failing shell _

theorem quit_allOrNothing (shell : Shell) (args : List Char) :
    shell.AllOrNothing (shell.quit args) := by
  rw [quit]
  split
  · exact .inl rfl
  · exact allOrNothing_failing shell _

theorem run_allOrNothing (shell : Shell) (kind : CommandKind) (args : List Char) :
    (shell.run kind args).Meets shell.AllOrNothing := by
  cases kind with
  | evaluate => exact shell.evaluate_allOrNothing args
  | step => exact shell.step_allOrNothing args
  | proceed => exact shell.proceed_allOrNothing args
  | forwardTrace => exact shell.forwardTrace_allOrNothing args
  | backtrace => exact shell.backtrace_allOrNothing args
  | frame => exact shell.frame_allOrNothing args
  | addBreakpoint => exact shell.addBreakpoint_allOrNothing args
  | help => exact shell.help_allOrNothing args
  | quit => exact shell.quit_allOrNothing args

/-- A command that only looks leaves the debugger as it is. -/
theorem run_onlyLooks (shell : Shell) {kind : CommandKind} (h : kind.onlyLooks = true)
    (args : List Char) : (shell.run kind args).Meets fun e => e.shell = shell := by
  cases kind with
  | forwardTrace =>
      rw [run, Reaction.Meets, forwardTrace]
      split
      · rfl
      · dsimp only
        repeat' split
        all_goals rfl
  | backtrace =>
      rw [run, Reaction.Meets, backtrace]
      repeat' split
      all_goals rfl
  | frame =>
      rw [run, Reaction.Meets, frame]
      repeat' split
      all_goals rfl
  | help =>
      rw [run, Reaction.Meets, help]
      repeat' split
      all_goals rfl
  | evaluate | step | proceed | addBreakpoint | quit => cases h

end Shell

/-! ## Lines -/

namespace Reaction

variable {P Q : Effect → Prop} {r : Reaction}

theorem Meets.mono (h : r.Meets P) (hpq : ∀ e, P e → Q e) : r.Meets Q := by
  cases r with
  | settled effect => exact hpq effect h
  | asks expression log resume => exact fun answer => hpq _ (h answer)

theorem Meets.after (h : r.Meets P) (hlog : ∀ e log, P e → P (e.after log))
    (log : List LogRecord) : (r.after log).Meets P := by
  cases r with
  | settled effect => exact hlog effect log h
  | asks expression asked resume => exact h

theorem Meets.settle {σ : Type} (h : r.Meets P) (hlog : ∀ e log, P e → P (e.after log))
    (source : TraceSource σ) (state : σ) : P (r.settle source state).1 := by
  cases r with
  | settled effect => exact h
  | asks expression log resume => exact hlog _ _ (h _)

end Reaction

namespace Shell

variable {σ : Type} {source : TraceSource σ} {shell before after : Shell}

/-- Whether a line means a command that only looks. -/
def looks (line : String) : Bool :=
  match Command.map.resolve line.toList with
  | .ok (command, _) => command.kind.onlyLooks
  | .error _ => false

theorem AllOrNothing.of_keeps {e : Effect} (h : before.Keeps after)
    (he : after.AllOrNothing e) : before.AllOrNothing e :=
  he.imp_right fun ⟨hshown, hkeeps⟩ => ⟨hshown, h.trans hkeeps⟩

theorem obey_allOrNothing (shell : Shell) (line : String) :
    (shell.obey line).Meets shell.AllOrNothing := by
  rw [obey]
  split
  · exact .inr ⟨⟨_, rfl⟩, keeps_lastLine shell none⟩
  · exact ((run_allOrNothing _ _ _).mono fun _ => .of_keeps (keeps_lastLine shell _)).after
      (fun _ _ he => he) _

theorem line_allOrNothing (source : TraceSource σ) (shell : Shell) (state : σ) (line : String) :
    shell.AllOrNothing (shell.line source state line).1 := by
  rw [Shell.line]
  refine Reaction.Meets.settle ?_ (fun _ _ he => he) source state
  rw [react]
  split
  · exact .inl rfl
  · next meant _ => exact shell.obey_allOrNothing meant

theorem line_looks (source : TraceSource σ) (state : σ) {line meant : String}
    (hmeant : shell.meantLine line = some meant) (h : looks meant = true) :
    shell.Keeps (shell.line source state line).1.shell := by
  rw [Shell.line, react, hmeant]
  refine Reaction.Meets.settle (P := fun e => shell.Keeps e.shell) ?_ (fun _ _ he => he)
    source state
  show Reaction.Meets _ (shell.obey meant)
  rw [looks] at h
  rw [obey]
  split
  · next hresolve =>
      rw [hresolve] at h
      cases h
  · next command rest hresolve =>
      rw [hresolve] at h
      refine ((run_onlyLooks _ h _).mono fun e he => ?_).after (fun _ _ he => he) _
      rw [he]
      exact keeps_lastLine shell _

/-! ## Scripts -/

/-- What each line of a script shows, which is nothing once the debugger is stopped. -/
def transcript (source : TraceSource σ) : Shell → σ → List String →
    List (String × List Document)
  | _, _, [] => []
  | shell, state, first :: rest =>
      if shell.stopped then (first, []) :: transcript source shell state rest
      else
        let (effect, state) := shell.line source state first
        (first, effect.shown) :: transcript source effect.shell state rest

/-- Whether a line of a transcript shows no error and does more than look. -/
def remains (entry : String × List Document) : Bool :=
  !entry.2.any Document.isError && !looks entry.1

theorem transcript_of_stopped (h : shell.stopped = true) (state : σ) (lines : List String) :
    transcript source shell state lines = lines.map (·, []) := by
  induction lines with
  | nil => rfl
  | cons first rest ih => rw [transcript, if_pos h, ih, List.map_cons]

/-- The transcript has what the run shows. -/
theorem shown_runLines (source : TraceSource σ) (shell : Shell) (state : σ)
    (lines : List String) :
    (runLines source shell state lines).1.shown =
      (transcript source shell state lines).flatMap Prod.snd := by
  induction lines generalizing shell state with
  | nil => rfl
  | cons first rest ih =>
      rw [runLines]
      split
      · next hstop =>
          rw [transcript_of_stopped hstop]
          simp
      · next hgo =>
          rw [transcript, if_neg hgo]
          simp only [List.flatMap_cons, ih]

/-- A line that is not blank does the same whatever line is remembered. -/
theorem obey_eq_of_keeps (h : before.Keeps after) (line : String) :
    after.obey line = before.obey line := by
  rw [h]
  rfl

theorem line_eq_obey (state : σ) {line : String}
    (hline : (Text.trim line.toList).isEmpty = false) :
    shell.line source state line = (shell.obey line).settle source state := by
  rw [Shell.line, react, meantLine, if_neg (by simp [hline])]

/-- A line that is not blank shows the same, and leads to the same, in shells that differ in the
line remembered, whatever the source was asked before. -/
theorem line_congr (hsource : source.AnswersByExpression) (h : before.Keeps after) (s t : σ)
    {line : String} (hline : (Text.trim line.toList).isEmpty = false) :
    (after.line source t line).1.shown = (before.line source s line).1.shown ∧
      (after.line source t line).1.shell = (before.line source s line).1.shell := by
  rw [line_eq_obey s hline, line_eq_obey t hline, obey_eq_of_keeps h]
  cases before.obey line with
  | settled effect => exact ⟨rfl, rfl⟩
  | asks expression log resume =>
      rw [Reaction.settle, Reaction.settle]
      dsimp only [Effect.after]
      rw [hsource t s expression]
      exact ⟨rfl, rfl⟩

/-- A line that fails or only looks keeps the debugger. -/
theorem keeps_of_not_remains {state : σ} {line : String}
    (hline : (Text.trim line.toList).isEmpty = false)
    (h : remains (line, (shell.line source state line).1.shown) = false) :
    shell.Keeps (shell.line source state line).1.shell := by
  rw [remains, Bool.and_eq_false_iff, Bool.not_eq_false', Bool.not_eq_false'] at h
  rcases h with hfails | hlooks
  · rcases shell.line_allOrNothing source state line with hnone | ⟨-, hkeeps⟩
    · rw [Effect.fails, hfails] at hnone
      cases hnone
    · exact hkeeps
  · refine line_looks source state ?_ hlooks
    rw [meantLine, if_neg (by simp [hline])]

/-- The lines that remain of a script show by themselves what they show in it. -/
theorem transcript_remaining (hsource : source.AnswersByExpression) {lines : List String}
    (hlines : ∀ line ∈ lines, (Text.trim line.toList).isEmpty = false)
    (h : before.Keeps after) (s t : σ) :
    transcript source after t
        (((transcript source before s lines).filter remains).map Prod.fst) =
      (transcript source before s lines).filter remains := by
  induction lines generalizing before after s t with
  | nil => rfl
  | cons first rest ih =>
      obtain ⟨hfirst, hrest⟩ := List.forall_mem_cons.1 hlines
      -- a line that remains makes the two shells one, any other keeps them as much alike
      rw [transcript]
      split
      · next hstop =>
          have hstop' : after.stopped = true := by rw [h]; exact hstop
          cases hremains : remains (first, []) with
          | true =>
              rw [List.filter_cons_of_pos hremains, List.map_cons, transcript, if_pos hstop',
                ih hrest h]
          | false =>
              rw [List.filter_cons_of_neg (by rw [hremains]; exact Bool.false_ne_true)]
              exact ih hrest h s t
      · next hgo =>
          have hgo' : ¬ after.stopped = true := by rw [h]; exact hgo
          dsimp only
          cases hremains : remains (first, (before.line source s first).1.shown) with
          | true =>
              obtain ⟨hshown, hshell⟩ := line_congr hsource h s t hfirst
              rw [List.filter_cons_of_pos hremains, List.map_cons, transcript, if_neg hgo']
              dsimp only
              rw [hshown, hshell, ih hrest (.refl _)]
          | false =>
              rw [List.filter_cons_of_neg (by rw [hremains]; exact Bool.false_ne_true)]
              exact ih hrest ((keeps_of_not_remains hfirst hremains).symm.trans h) _ t

/-- A line that shows an error shows nothing else and keeps the debugger, and so does a line
that only looks keep it; without the lines of these two kinds a script shows what its other
lines show. -/
theorem line_all_or_nothing (source : TraceSource σ) (shell : Shell) (state : σ) :
    (∀ line, (shell.line source state line).1.fails = true →
      (∃ message, (shell.line source state line).1.shown = [.error message]) ∧
        shell.Keeps (shell.line source state line).1.shell) ∧
    (∀ line meant, shell.meantLine line = some meant → looks meant = true →
      shell.Keeps (shell.line source state line).1.shell) ∧
    (source.AnswersByExpression → ∀ lines : List String,
      (∀ line ∈ lines, (Text.trim line.toList).isEmpty = false) →
      let kept := (transcript source shell state lines).filter remains
      transcript source shell state (kept.map Prod.fst) = kept ∧
        (runLines source shell state (kept.map Prod.fst)).1.shown =
          kept.flatMap Prod.snd) := by
  refine ⟨fun line hfails => ?_, fun line meant => line_looks source state,
    fun hsource lines hlines => ?_⟩
  · rcases shell.line_allOrNothing source state line with hnone | hall
    · rw [hnone] at hfails
      cases hfails
    · exact hall
  · have hkept := transcript_remaining hsource hlines (.refl shell) state state
    exact ⟨hkept, by rw [shown_runLines, hkept]⟩

/-- A debugger that has just evaluated the small trace. -/
def ofEntwined : Shell :=
  let program := (outline entwined).graph .full "main" "int"
  { session := some { expression := "main", program, cursor := .start program } }

theorem line_all_or_nothing_entwined :
    let source := FileSource.toTraceSource { path := none, result := "int" }
      fun _ => .error .notFound
    let lines := ["step out", "step", "bt", "step 2", "frame 9", "evaluate", "step over"]
    (∃ message, (ofEntwined.line source () "step out").1.shown = [.error message]) ∧
      ofEntwined.Keeps (ofEntwined.line source () "step out").1.shell ∧
      ofEntwined.Keeps (ofEntwined.line source () "bt").1.shell ∧
      ((transcript source ofEntwined () lines).filter remains).map Prod.fst =
        ["step", "step 2", "step over"] ∧
      transcript source ofEntwined () ["step", "step 2", "step over"] =
        (transcript source ofEntwined () lines).filter remains := by
  intro source lines
  obtain ⟨hfails, hlooks, hscript⟩ := line_all_or_nothing source ofEntwined ()
  obtain ⟨hmessage, hkeeps⟩ := hfails "step out" (by decide +kernel)
  have hkept : ((transcript source ofEntwined () lines).filter remains).map Prod.fst =
      ["step", "step 2", "step over"] := by decide +kernel
  refine ⟨hmessage, hkeeps, hlooks "bt" "bt" (by decide +kernel) (by decide +kernel), hkept, ?_⟩
  obtain ⟨hremaining, -⟩ := hscript (fun _ _ _ => rfl) lines (by decide +kernel)
  rw [hkept] at hremaining
  exact hremaining

end Shell

end TemplateTrace
