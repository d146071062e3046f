import TemplateTrace.CommandLine.Run
import TemplateTrace.Proofs.DebuggerSessions

/-!
# The call graph of a file in two ways

A file of a trace can be asked for its call graph at once, or the debugger can be told to evaluate
an expression from it and then to show what lies ahead. Both say the same, also why there is no
call graph.

On the one way nobody asks what the evaluation resulted in, on the other the source gives a result.
That makes another metaprogram, but it differs in nothing that a call graph looks at, and whether
the events make one at all does not depend on it (`ofEvents_withResult`). The rest is about the two
lines: that the first word of each is found, and that what follows it is taken as it was written.
-/

namespace TemplateTrace

/-! ## Another result -/

namespace Metaprogram

/-- The metaprogram with another result. -/
def withResult (g : Metaprogram) (result : String) : Metaprogram := { g with result }

theorem grow_withResult (g : Metaprogram) (result : String) (mode : Mode) (room : Nat)
    (limit : Option Nat) (path : List VertexId) (frame : Frame) (v : VertexId) :
    (g.withResult result).grow mode room limit path frame v =
      g.grow mode room limit path frame v := by
  induction room generalizing limit path frame v with
  | zero => rfl
  | succ room ih =>
      funext seen
      rw [grow, grow]
      simp only [ih]
      rfl

/-- A call graph says nothing about the result. -/
theorem callGraph_withResult (g : Metaprogram) (result : String) (start : VertexId)
    (frame : Frame) (mode : Mode) (maxDepth : Option Nat) :
    (g.withResult result).callGraph start frame mode maxDepth =
      g.callGraph start frame mode maxDepth := by
  rw [callGraph, callTree, grow_withResult]
  rfl

end Metaprogram

namespace Cursor

theorem callGraph_start_withResult (g : Metaprogram) (result : String) (mode : Mode)
    (maxDepth : Option Nat) :
    (start (g.withResult result)).callGraph (g.withResult result) mode maxDepth =
      (start g).callGraph g mode maxDepth :=
  g.callGraph_withResult result _ _ mode maxDepth

end Cursor

namespace Builder

/-- The builder of a metaprogram with another result. -/
def withResult (b : Builder) (result : String) : Builder :=
  { b with program := b.program.withResult result }

theorem begin_withResult (b : Builder) (result : String) (i : Instantiation) :
    (b.withResult result).begin i = (b.begin i).withResult result := by
  simp only [begin, withVertex, withResult]
  split
  · rfl
  · rfl

theorem close_withResult (b : Builder) (result : String) (kind : Kind) :
    (b.withResult result).close kind = (b.close kind).map (·.withResult result) := by
  simp only [close, withResult]
  split
  · rfl
  · rfl

theorem handle_withResult (b : Builder) (result : String) (event : Event) :
    (b.withResult result).handle event = (b.handle event).map (·.withResult result) := by
  cases event with
  | begins i => exact congrArg Except.ok (b.begin_withResult result i)
  | ends kind time memory => exact b.close_withResult result kind

theorem replay_withResult (b : Builder) (result : String) (events : List Event) :
    (b.withResult result).replay events =
      ((b.replay events).1.withResult result, (b.replay events).2) := by
  induction events generalizing b with
  | nil => rfl
  | cons event rest ih =>
      rw [replay, replay, handle_withResult]
      cases b.handle event with
      | error error => rfl
      | ok b => exact ih b

end Builder

namespace Metaprogram

theorem ofEvents_withResult (events : List Event) (mode : Mode) (rootName result other : String) :
    ofEvents events mode rootName other =
      (ofEvents events mode rootName result).map (·.withResult other) := by
  have hreplay := (Builder.new mode rootName result).replay_withResult other events
  rw [show (Builder.new mode rootName result).withResult other =
    Builder.new mode rootName other from rfl] at hreplay
  rw [ofEvents, ofEvents, build, build, hreplay]
  obtain ⟨b, error⟩ := (Builder.new mode rootName result).replay events
  cases error with
  | some error => rfl
  | none =>
      cases hopened : b.opened.isEmpty with
      | true =>
          simp only [Builder.finish, Builder.withResult, hopened, if_true]
          rfl
      | false =>
          simp only [Builder.finish, Builder.withResult, hopened, Bool.false_eq_true, if_false]
          rfl

end Metaprogram

/-! ## The two lines -/

namespace Shell

variable {σ : Type}

theorem find_forwardTrace : ∃ command, Command.map.find "ft".toList = .ok command ∧
    command.kind = .forwardTrace ∧ command.repeatable = false :=
  ⟨_, rfl, rfl, rfl⟩

/-- The argument that limits the depth of a trace, if it is to be limited. -/
def depthText : Option Nat → List Char
  | none => []
  | some n => Number.digits n

/-- The line that asks for the call graph of the current frame. -/
def forwardLine : Option Nat → String
  | none => "ft"
  | some n => "ft " ++ Number.text n

theorem begins_forwardLine (depth : Option Nat) :
    ∃ rest, Text.Begins (forwardLine depth).toList "ft".toList rest ∧
      Text.trimEnd (Text.trimStart rest) = depthText depth := by
  cases depth with
  | none =>
      exact ⟨[], ⟨⟨[], rfl, List.forall_mem_nil _⟩, by decide, Text.solid_of_any (by decide), rfl⟩,
        rfl⟩
  | some n =>
      refine ⟨' ' :: Number.digits n, ?_, Text.trim_solid fun c => Text.isBlank_of_mem_digits⟩
      rw [forwardLine, show "ft " = "ft" ++ " " by decide, ← Number.toList_text]
      exact Text.begins_word (Number.text n) (by decide) (by decide)

theorem splitFull_depthText (depth : Option Nat) :
    splitFull (depthText depth) = (false, depthText depth) := by
  refine splitFull_of_not_full fun rest h => ?_
  have hminus : '-' ∈ depthText depth := by
    rw [h]
    exact List.mem_cons_self
  cases depth with
  | none => cases hminus
  | some n =>
      have hdigit : Number.isDigit '-' = true := Number.isDigit_of_mem_digits hminus
      cases hdigit

theorem depthArgument?_depthText {depth : Option Nat} (h : ∀ n ∈ depth, n < Number.countBound) :
    depthArgument? (depthText depth) = some depth := by
  cases depth with
  | none => rfl
  | some n =>
      have hne : (Number.digits n).isEmpty = false := by simpa using Number.digits_ne_nil n
      rw [depthArgument?, depthText, hne, if_neg Bool.false_ne_true,
        Number.count?_digits (h n rfl)]
      rfl

theorem line_forwardLine (shell : Shell) (source : TraceSource σ) (state : σ) {depth : Option Nat}
    (h : ∀ n ∈ depth, n < Number.countBound) :
    (shell.line source state (forwardLine depth)).1.shown =
      match shell.session with
      | none => [.error notEvaluated]
      | some s =>
          if s.cursor.finished then s.place
          else [.callGraph (s.cursor.callGraph s.program s.program.mode depth)] := by
  obtain ⟨command, hfind, hkind, -⟩ := find_forwardTrace
  obtain ⟨rest, hbegins, hargs⟩ := begins_forwardLine depth
  rw [line_of_begins hbegins hfind, hkind, hargs, run, forwardTrace]
  cases hsession : shell.session with
  | none => rfl
  | some s =>
      simp only [splitFull_depthText, depthArgument?_depthText h]
      split
      · rfl
      · rfl

/-- The two lines, one after the other. -/
theorem transcript_pair (source : TraceSource σ) (shell : Shell) (state : σ) (first second : String)
    (hgo : shell.stopped = false)
    (hgo' : (shell.line source state first).1.shell.stopped = false) :
    transcript source shell state [first, second] =
      [(first, (shell.line source state first).1.shown),
       (second, ((shell.line source state first).1.shell.line source
          (shell.line source state first).2 second).1.shown)] := by
  rw [transcript, hgo, if_neg Bool.false_ne_true]
  dsimp only
  rw [transcript, hgo', if_neg Bool.false_ne_true]
  rfl

end Shell

/-! ## The two ways -/

namespace Metaprogram

theorem fst_buildFile (files : Files) (path : String) (mode : Mode) (rootName result : String) :
    (buildFile files path mode rootName result).1 =
      (Event.ofFile files path).bind (ofEvents · mode rootName result) := by
  rw [buildFile]
  cases Event.ofFile files path with
  | error error => rfl
  | ok events => rfl

theorem buildFile_withResult (files : Files) (path : String) (mode : Mode)
    (rootName result other : String) :
    (buildFile files path mode rootName other).1 =
      (buildFile files path mode rootName result).1.map (·.withResult other) := by
  rw [fst_buildFile, fst_buildFile]
  cases Event.ofFile files path with
  | error error => rfl
  | ok events => exact ofEvents_withResult events mode rootName result other

theorem mode_of_buildFile {files : Files} {path : String} {mode : Mode}
    {rootName result : String} {g : Metaprogram}
    (h : (buildFile files path mode rootName result).1 = .ok g) : g.mode = mode := by
  rw [fst_buildFile] at h
  cases hfile : Event.ofFile files path with
  | error error =>
      rw [hfile] at h
      cases h
  | ok events =>
      rw [hfile] at h
      exact mode_of_ofEvents h

end Metaprogram

theorem FileSource.builtFrom_answer (files : Files) (path result : String) (mode : Mode)
    (e : String) :
    Shell.builtFrom mode e (FileSource.answer { path := some path, result } files e).evaluation =
      (Metaprogram.buildFile files path mode e result).1 := by
  show Shell.builtFrom mode e
    ((Event.ofFile files path).map fun events => { events, result }) = _
  rw [Metaprogram.fst_buildFile]
  cases Event.ofFile files path with
  | error error => rfl
  | ok events => rfl

theorem Invocation.fst_traceNodes (files : Files) (path e : String) (full : Bool)
    (depth : Option Nat) :
    (traceNodes files path e full depth).1 =
      (Metaprogram.buildFile files path (.ofFull full) e Settings.unknownResult).1.map fun g =>
        (Cursor.start g).callGraph g (.ofFull full) depth := by
  rw [traceNodes]
  cases Metaprogram.buildFile files path (.ofFull full) e Settings.unknownResult with
  | mk built log =>
      cases built with
      | error error => rfl
      | ok g => rfl

theorem Event.readTrace_ofList (s : List Char) :
    Event.readTrace (String.ofList s) =
      ((Xml.document s).mapError fun flaw => .malformed (.ofFlaw s flaw)).bind Event.ofTrace := by
  rw [Event.readTrace, Xml.read, String.toList_ofList]
  cases Xml.document s with
  | error flaw => rfl
  | ok root => rfl

namespace Shell

/-- What the call graph of a file shows, and why there is none, the debugger shows as well when it
evaluates the same expression and asks for the same depth. -/
theorem transcript_eq_traceNodes (files : Files) (path result : String) {e : String}
    (he : IsExpression e) (full : Bool) {depth : Option Nat}
    (hdepth : ∀ n ∈ depth, n < Number.countBound) :
    let source := FileSource.toTraceSource { path := some path, result } files
    (transcript source { fullMode := full } ()
        ["evaluate " ++ e, forwardLine depth]).map Prod.snd =
      match (Invocation.traceNodes files path e full depth).1 with
      | .ok nodes => [[.rawText "Metaprogram started"], [.callGraph nodes]]
      | .error error => [[.error error.message], [.error "Metaprogram not evaluated yet"]] := by
  intro source
  obtain ⟨log, hline⟩ := line_evaluate source { fullMode := full } () he
  have hbuilt : builtFrom (.ofFull full) e (source.answer () e).1.evaluation =
      (Metaprogram.buildFile files path (.ofFull full) e Settings.unknownResult).1.map
        (·.withResult result) :=
    (FileSource.builtFrom_answer files path result _ e).trans
      (Metaprogram.buildFile_withResult files path _ e _ result)
  rw [hbuilt] at hline
  rw [Invocation.fst_traceNodes]
  cases htrace : (Metaprogram.buildFile files path (.ofFull full) e Settings.unknownResult).1 with
  | error error =>
      rw [htrace] at hline
      rw [transcript_pair source _ () _ _ rfl (by rw [hline]; rfl), hline, List.map_cons,
        List.map_singleton, line_forwardLine _ _ _ hdepth]
      rfl
  | ok g =>
      have hmode : (g.withResult result).mode = .ofFull full :=
        (Metaprogram.mode_of_buildFile htrace : g.mode = _)
      rw [htrace] at hline
      rw [transcript_pair source _ () _ _ rfl (by rw [hline]; rfl), hline, List.map_cons,
        List.map_singleton, line_forwardLine _ _ _ hdepth]
      dsimp only [Except.map]
      rw [hmode, Cursor.callGraph_start_withResult]
      rfl

/-- A file with `b` inside `a`, and `a` inside that once more. -/
def nestedFile : String :=
  "<Trace>
    <TemplateBegin><Kind>TemplateInstantiation</Kind><Context context='a'/>
      <PointOfInstantiation>main.cpp|1|1</PointOfInstantiation>
      <TimeStamp time='0'/><MemoryUsage bytes='0'/></TemplateBegin>
    <TemplateBegin><Kind>TemplateInstantiation</Kind><Context context='b'/>
      <PointOfInstantiation>main.cpp|1|1</PointOfInstantiation>
      <TimeStamp time='0'/><MemoryUsage bytes='0'/></TemplateBegin>
    <TemplateBegin><Kind>TemplateInstantiation</Kind><Context context='a'/>
      <PointOfInstantiation>main.cpp|1|1</PointOfInstantiation>
      <TimeStamp time='0'/><MemoryUsage bytes='0'/></TemplateBegin>
    <TemplateEnd><Kind>TemplateInstantiation</Kind>
      <TimeStamp time='0'/><MemoryUsage bytes='0'/></TemplateEnd>
    <TemplateEnd><Kind>TemplateInstantiation</Kind>
      <TimeStamp time='0'/><MemoryUsage bytes='0'/></TemplateEnd>
    <TemplateEnd><Kind>TemplateInstantiation</Kind>
      <TimeStamp time='0'/><MemoryUsage bytes='0'/></TemplateEnd>
  </Trace>"

theorem readTrace_nestedFile : Event.readTrace nestedFile = .ok (entwined.take 6) := by
  -- read from the characters of the literal, since to take it apart is slow
  rw [nestedFile, show Event.readTrace _ = _ from Event.readTrace_ofList _]
  decide +kernel

/-- A word that only begins like a flag is an expression; one of the files is there. -/
theorem transcript_eq_traceNodes_nested :
    let files : Files := fun path =>
      if path = "nested.xml" then .ok nestedFile else .error .notFound
    let source (path : String) :=
      FileSource.toTraceSource { path := some path, result := "int" } files
    let shown (path : String) := (transcript (source path) { fullMode := true } ()
      ["evaluate -fully", "ft 3"]).map Prod.snd
    let seen (name : String) : Frame := { name, kind := some .templateInstantiation }
    IsExpression "-fully" ∧ (∀ n ∈ some 3, n < Number.countBound) ∧
      shown "nested.xml" = [[.rawText "Metaprogram started"],
        [.callGraph [⟨{ name := "-fully" }, 0, 1⟩, ⟨seen "a", 1, 1⟩, ⟨seen "b", 2, 1⟩,
          ⟨seen "a", 3, 0⟩]]] ∧
      shown "none.xml" = [[.error ("can't open templight file 'none.xml': " ++
        "No such file or directory (os error 2)")], [.error "Metaprogram not evaluated yet"]] := by
  intro files source shown seen
  have he : IsExpression "-fully" := by
    refine ⟨by decide, by decide, by decide, fun rest h => ?_⟩
    have hsplit : "-fully".toList = "-full".toList ++ "y".toList := by decide
    have hrest : "y".toList = rest := List.append_cancel_left (hsplit.symm.trans h)
    rw [← hrest]
    decide
  have hdepth : ∀ n ∈ some 3, n < Number.countBound := by decide
  have hfile : Event.ofFile files "nested.xml" = .ok (entwined.take 6) := readTrace_nestedFile
  have hnested : (Invocation.traceNodes files "nested.xml" "-fully" true (some 3)).1 =
      .ok [⟨{ name := "-fully" }, 0, 1⟩, ⟨seen "a", 1, 1⟩, ⟨seen "b", 2, 1⟩,
        ⟨seen "a", 3, 0⟩] := by
    rw [Invocation.fst_traceNodes, Metaprogram.fst_buildFile, hfile, Except.bind,
      Metaprogram.ofEvents_of_balanced ⟨by decide, by decide⟩]
    decide
  have hnone : (Invocation.traceNodes files "none.xml" "-fully" true (some 3)).1 =
      .error (.unreadable "none.xml" .notFound) := by decide +kernel
  refine ⟨he, hdepth, ?_, ?_⟩
  · have hshown := transcript_eq_traceNodes files "nested.xml" "int" he true hdepth
    rw [hnested] at hshown
    exact hshown
  · have hshown := transcript_eq_traceNodes files "none.xml" "int" he true hdepth
    rw [hnone] at hshown
    exact hshown

end Shell

end TemplateTrace
