import TemplateTrace.Debugger.Breakpoint
import TemplateTrace.Debugger.Command
import TemplateTrace.Debugger.Source
import TemplateTrace.Document
import TemplateTrace.Graph.Builder
import TemplateTrace.Text.Quoted
import TemplateTrace.Walk.Moves

/-!
# The debugger

The debugger takes one line after the other. A line is a command with its arguments; an empty
line stands for the line before it if that one may be repeated. What a line does is an *effect*:
a new state of the debugger, the documents that are shown and the records for the log. Only the
command that evaluates an expression needs anything from outside, the trace of the evaluation,
so the reaction to a line is either an effect or a question with the effect of every answer.
-/

namespace TemplateTrace

/-- An evaluation that is being walked through. -/
structure Session where
  expression : String
  program : Metaprogram
  cursor : Cursor
  deriving DecidableEq, Repr, Inhabited

/-- The state of the debugger. -/
structure Shell where
  session : Option Session := none
  /-- In the order in which they were added. -/
  breakpoints : List Breakpoint := []
  /-- Whether every evaluation is in full mode. -/
  fullMode : Bool := false
  /-- The last line, if an empty line repeats it. -/
  lastLine : Option String := none
  /-- Whether the debugger was told to quit. -/
  stopped : Bool := false

/-- What a line does. -/
structure Effect where
  shell : Shell
  shown : List Document := []
  log : List LogRecord := []

/-- What the debugger does about a line: something, or it asks for the trace of an expression
and then does something. -/
inductive Reaction where
  | settled (effect : Effect)
  | asks (expression : String) (log : List LogRecord)
    (resume : Except TraceError Evaluation → Effect)

namespace Session

/-- What is shown about the place where the walk is. -/
def place (s : Session) : List Document :=
  match s.cursor.frame? s.program with
  | none => [.rawText "Metaprogram finished", .typeName s.program.result]
  | some frame =>
      if s.cursor.isAtRoot then [.rawText "Metaprogram started"] else [.frame frame]

/-- The first breakpoint that stops at the current frame. Nothing stops at the root. -/
def reached? (s : Session) (breakpoints : List Breakpoint) : Option (Breakpoint × Frame) :=
  if s.cursor.isAtRoot then none
  else do
    let frame ← s.cursor.frame? s.program
    let breakpoint ← breakpoints.find? (·.stopsAt frame)
    return (breakpoint, frame)

/-- The vertices other than the root whose name a breakpoint accepts. -/
def locations (s : Session) (b : Breakpoint) : Nat :=
  (s.program.vertices.toList.drop 1).countP (b.accepts ·.name)

end Session

namespace Cursor

/-- Makes a move so many times, as long as the cursor moves. -/
def repeatMove (move : Cursor → Outcome × Cursor) : Nat → Cursor → Outcome × Cursor
  | 0, c => (.moved, c)
  | n + 1, c =>
      match move c with
      | (.moved, c) => repeatMove move n c
      | stuck => stuck

end Cursor

namespace Shell

/-- The prompt. -/
def prompt : String := "(mdb) "

/-- Shows something and changes nothing. -/
def showing (shell : Shell) (shown : List Document) : Effect := { shell, shown }

/-- Shows an error and changes nothing. -/
def failing (shell : Shell) (message : String) : Effect := shell.showing [.error message]

/-- The message where there is no session. -/
def notEvaluated : String := "Metaprogram not evaluated yet"

/-- The message for an argument that is no number. -/
def badArgument : String := "Argument parsing failed"

/-- The message for an argument where none is allowed. -/
def noArguments : String := "This command doesn't accept arguments"

/-- Splits off a leading word that asks for full mode. -/
def splitFull (args : List Char) : Bool × List Char :=
  match "-full".toList.isPrefixOf? args with
  | some rest =>
      if rest.head?.all Text.isBlank then (true, Text.trimStart rest) else (false, args)
  | none => (false, args)

/-- Moves the cursor of a session, and notes the steps forward. -/
def moving (shell : Shell) (s : Session) (cursor : Cursor) (shown : Session → List Document) :
    Effect :=
  let moved := { s with cursor }
  { shell := { shell with session := some moved }
    shown := shown moved
    log := s.cursor.stepLog s.program cursor }

/-- Starts to debug an expression, given its trace. -/
def start (shell : Shell) (expression : String) (mode : Mode)
    (answer : Except TraceError Evaluation) : Effect :=
  match answer with
  | .error error => shell.failing error.message
  | .ok evaluation =>
      match Metaprogram.build evaluation.events mode expression evaluation.result with
      | (.error error, log) => { shell.failing error.message with log }
      | (.ok program, log) =>
          { shell :=
              { shell with session := some { expression, program, cursor := .start program } }
            shown := [.rawText "Metaprogram started"]
            log }

/-- The command that evaluates an expression, or the last one again. -/
def evaluate (shell : Shell) (args : List Char) : Reaction :=
  let (full, given) := splitFull args
  let mode := Mode.ofFull (full || shell.fullMode)
  match given, shell.session with
  | [], none => .settled (shell.failing "Nothing has been evaluated yet.")
  | [], some s => .asks s.expression [] (shell.start s.expression mode)
  | given, _ => .asks (String.ofList given) [] (shell.start (String.ofList given) mode)

/-- The ways to step. -/
inductive StepKind where
  | into
  | over
  | out
  deriving DecidableEq, Repr

/-- Reads the arguments of a step: how to step and how often. -/
def stepArguments? (args : List Char) : Option (StepKind × Int) :=
  let words := Text.words args
  let (kind, rest) := match words with
    | word :: rest =>
        if word = "over".toList then (StepKind.over, rest)
        else if word = "out".toList then (StepKind.out, rest)
        else (StepKind.into, words)
    | [] => (StepKind.into, [])
  match rest with
  | [] => some (kind, 1)
  | [count] => (Number.int64? count).map (kind, ·)
  | _ => none

/-- The command that steps. -/
def step (shell : Shell) (args : List Char) : Effect :=
  match shell.session with
  | none => shell.failing notEvaluated
  | some s =>
      match stepArguments? args with
      | none => shell.failing badArgument
      | some (.into, count) =>
          if 0 ≤ count then
            shell.moving s (s.cursor.stepInto s.program count.toNat).2 Session.place
          else shell.moving s (s.cursor.stepBackBy s.program count.natAbs).2 Session.place
      | some (kind, count) =>
          if count < 0 then
            shell.failing "Stepping backwards with over or out is not supported"
          else
            let move := if kind = .over then Cursor.stepOver s.program
              else Cursor.stepOut s.program
            match s.cursor.repeatMove move count.toNat with
            | (.atRoot, cursor) =>
                shell.moving s cursor fun _ => [.error "Already at the top level"]
            | (_, cursor) => shell.moving s cursor Session.place

/-- Reads the argument of a command that goes on to a breakpoint: how many of them. -/
def proceedArgument? (args : List Char) : Option Int :=
  if args.isEmpty then some 1 else Number.int64? args

/-- What is shown after going on to a breakpoint. -/
def proceedPlace (breakpoints : List Breakpoint) (s : Session) : List Document :=
  match s.reached? breakpoints with
  | some (b, frame) =>
      [.rawText ("Breakpoint \"" ++ b.pattern ++ "\" reached"), .frame frame]
  | none => s.place

/-- The command that goes on, or back, to a breakpoint. -/
def proceed (shell : Shell) (args : List Char) : Effect :=
  match shell.session with
  | none => shell.failing notEvaluated
  | some s =>
      match proceedArgument? args with
      | none => shell.failing badArgument
      | some count =>
          let hit (frame : Frame) : Bool := shell.breakpoints.any (·.stopsAt frame)
          let move := if 0 < count then Cursor.continueUntil s.program hit
            else Cursor.continueBackUntil s.program hit
          shell.moving s (s.cursor.repeatMove move count.natAbs).2
            (proceedPlace shell.breakpoints)

/-- Reads the argument that limits the depth of a trace; there may be none. -/
def depthArgument? (args : List Char) : Option (Option Nat) :=
  if args.isEmpty then some none else (Number.count? args).map some

/-- The command that shows what the current frame instantiates. -/
def forwardTrace (shell : Shell) (args : List Char) : Effect :=
  match shell.session with
  | none => shell.failing notEvaluated
  | some s =>
      let (full, rest) := splitFull args
      match depthArgument? rest with
      | none => shell.failing badArgument
      | some maxDepth =>
          if s.cursor.finished then shell.showing s.place
          else
            let mode := if full then .full else s.program.mode
            shell.showing [.callGraph (s.cursor.callGraph s.program mode maxDepth)]

/-- The command that shows the way to the current frame. -/
def backtrace (shell : Shell) (args : List Char) : Effect :=
  if !args.isEmpty then shell.failing noArguments
  else match shell.session with
    | none => shell.failing notEvaluated
    | some s =>
        if s.cursor.finished then shell.showing s.place
        else shell.showing [.backtrace (s.cursor.backtrace s.program)]

/-- The command that shows one frame of the way to the current one. -/
def frame (shell : Shell) (args : List Char) : Effect :=
  match shell.session with
  | none => shell.failing notEvaluated
  | some s =>
      match Number.count? args with
      | none => shell.failing badArgument
      | some index =>
          if s.cursor.finished then shell.showing s.place
          else match (s.cursor.backtrace s.program).get? index with
            | some frame => shell.showing [.frame frame]
            | none => shell.failing "Frame index out of range"

/-- What is shown about a new breakpoint that has so many locations. -/
def breakpointNotice (pattern : String) (locations : Nat) : String :=
  if locations = 0 then "Breakpoint \"" ++ pattern ++ "\" will never stop the execution"
  else
    "Breakpoint \"" ++ pattern ++ "\" will stop the execution on " ++ Number.text locations ++
      " location" ++ (if locations = 1 then "" else "s")

/-- The command that adds a breakpoint, unless it could never stop anything. -/
def addBreakpoint (shell : Shell) (args : List Char) : Effect :=
  if args.isEmpty then shell.failing "Argument expected"
  else match shell.session with
    | none => shell.failing notEvaluated
    | some s =>
        let pattern := String.ofList args
        match Breakpoint.read? pattern with
        | none => shell.failing ("\"" ++ pattern ++ "\" is not a valid regex")
        | some b =>
            let locations := s.locations b
            { shell :=
                if locations = 0 then shell
                else { shell with breakpoints := shell.breakpoints ++ [b] }
              shown := [.rawText (breakpointNotice pattern locations)] }

/-- The lines of the list of commands. -/
def commandList : List String :=
  ["List of available commands:", ""] ++
    Command.all.map (fun c => c.label ++ " -- " ++ c.summary) ++
    ["", "Type \"help\" followed by a command name for more information."]

/-- The lines of the help for one command. -/
def commandHelp (c : Command) : List String :=
  [c.synopsis, "", c.summary] ++ (if c.details = "" then [] else [c.details])

/-- The command that shows help. -/
def help (shell : Shell) (args : List Char) : Effect :=
  if args.isEmpty then shell.showing (commandList.map .rawText)
  else match Command.map.resolve args with
    | .ok (c, []) => shell.showing ((commandHelp c).map .rawText)
    | .ok _ => shell.failing "Only one argument expected"
    | .error _ => shell.failing ("Command \"" ++ String.ofList args ++ "\" not found.")

/-- The command that quits. -/
def quit (shell : Shell) (args : List Char) : Effect :=
  if args.isEmpty then { shell := { shell with stopped := true } }
  else shell.failing noArguments

/-- Runs a command. -/
def run (shell : Shell) (kind : CommandKind) (args : List Char) : Reaction :=
  match kind with
  | .evaluate => shell.evaluate args
  | .step => .settled (shell.step args)
  | .proceed => .settled (shell.proceed args)
  | .forwardTrace => .settled (shell.forwardTrace args)
  | .backtrace => .settled (shell.backtrace args)
  | .frame => .settled (shell.frame args)
  | .addBreakpoint => .settled (shell.addBreakpoint args)
  | .help => .settled (shell.help args)
  | .quit => .settled (shell.quit args)

/-- The note about a command. -/
def commandRecord (kind : CommandKind) (args : List Char) : LogRecord :=
  { level := .debug, origin := .shell,
    message := "mdb: " ++ kind.name ++ " " ++ String.ofList (Text.quoted args) }

end Shell

namespace Effect

/-- The effect with records before its own. -/
def after (log : List LogRecord) (e : Effect) : Effect := { e with log := log ++ e.log }

end Effect

namespace Reaction

/-- The reaction with records before its own. -/
def after (log : List LogRecord) : Reaction → Reaction
  | .settled effect => .settled (effect.after log)
  | .asks expression asked resume => .asks expression (log ++ asked) resume

/-- The effect of a reaction, for a source in some state. -/
def settle {σ : Type} (source : TraceSource σ) (state : σ) : Reaction → Effect × σ
  | .settled effect => (effect, state)
  | .asks expression log resume =>
      let (answer, state) := source.answer state expression
      ((resume answer.evaluation).after (log ++ answer.log), state)

/-- The expression that is asked for. -/
def asked : Reaction → List String
  | .settled _ => []
  | .asks expression _ _ => [expression]

end Reaction

namespace Shell

/-- What a line stands for: itself, or if it is blank the line that it repeats. -/
def meantLine (shell : Shell) (line : String) : Option String :=
  if (Text.trim line.toList).isEmpty then shell.lastLine else some line

/-- The reaction to a line that is not blank. -/
def obey (shell : Shell) (line : String) : Reaction :=
  match Command.map.resolve line.toList with
  | .error error => .settled ({ shell with lastLine := none }.failing error.message)
  | .ok (command, rest) =>
      let args := Text.trimEnd rest
      let lastLine := if command.repeatable then some line else none
      ({ shell with lastLine }.run command.kind args).after [commandRecord command.kind args]

/-- The reaction to a line. -/
def react (shell : Shell) (line : String) : Reaction :=
  match shell.meantLine line with
  | none => .settled { shell }
  | some line => shell.obey line

/-- Takes a line, asking a source for traces. -/
def line {σ : Type} (source : TraceSource σ) (shell : Shell) (state : σ) (line : String) :
    Effect × σ :=
  (shell.react line).settle source state

/-- Takes lines until they end or the debugger is stopped, and returns all that was shown and
noted. -/
def runLines {σ : Type} (source : TraceSource σ) : (shell : Shell) → (state : σ) →
    List String → Effect × σ
  | shell, state, [] => ({ shell }, state)
  | shell, state, first :: rest =>
      if shell.stopped then ({ shell }, state)
      else
        let (effect, state) := shell.line source state first
        let (later, state) := runLines source effect.shell state rest
        ({ shell := later.shell, shown := effect.shown ++ later.shown,
           log := effect.log ++ later.log }, state)

end Shell

end TemplateTrace
