import TemplateTrace.CommandLine.Arguments
import TemplateTrace.CommandLine.Input
import TemplateTrace.Debugger.Shell

/-!
# Running the program

The whole program as a function: from the command line, the files, the standard input and the
environment to what is written and the exit code. A command writes what it shows to the standard
output; the log and a final error go to the standard error.
-/

namespace TemplateTrace

/-- What the program finds around it. -/
structure Surroundings where
  files : Files
  /-- The lines of the standard input. -/
  lines : List (Except FileError String) := []
  /-- The width of the console as the environment gives it. -/
  columns : Option String := none
  isTerminal : Bool := false

/-- What the program leaves behind. -/
structure Report where
  exitCode : Nat := 0
  output : String := ""
  log : List LogRecord := []
  /-- What went wrong at last. -/
  failure : Option String := none
  deriving DecidableEq, Repr, Inhabited

namespace Report

/-- A run that fails. -/
def failed (message : String) (log : List LogRecord) : Report :=
  { exitCode := 1, log, failure := some message }

/-- What is written to the standard error when records up to the given level are. -/
def errorText (report : Report) (threshold : LogLevel) : String :=
  String.join ((report.log.filter (·.passes threshold)).map (·.line ++ "\n")) ++
    (match report.failure with
      | none => ""
      | some message => "error: " ++ message ++ "\n")

end Report

namespace Metaprogram

/-- Builds a metaprogram from the trace in a file, and returns the notes made meanwhile. -/
def buildFile (files : Files) (path : String) (mode : Mode) (rootName result : String) :
    Except TraceError Metaprogram × List LogRecord :=
  match Event.ofFile files path with
  | .error error => (.error error, [])
  | .ok events => build events mode rootName result

end Metaprogram

namespace Invocation

/-- The number of flags for verbosity. -/
def verbosity : Invocation → Nat
  | .check verbosity _ | .trace verbosity _ _ _ _ _ | .debug verbosity _ _ _ _ _ => verbosity

/-- The last level of records that are written. -/
def threshold (invocation : Invocation) : LogLevel := .ofVerbosity invocation.verbosity

/-- Counts what is in a trace. -/
def runCheck (around : Surroundings) (path : String) : Report :=
  match Metaprogram.buildFile around.files path .normal Settings.unnamedRoot
      Settings.unknownResult with
  | (.error error, log) => .failed error.message log
  | (.ok g, log) =>
      { output := path ++ ": " ++ Number.text g.edgeCount ++ " instantiations of " ++
          Number.text (g.vertexCount - 1) ++ " entities\n"
        log }

/-- The note about a call graph. -/
def callGraphRecord (nodes : List CallNode) : LogRecord :=
  { level := .debug, origin := .traceCommand,
    message := "call graph: " ++ Number.text nodes.length ++ " nodes" }

/-- The call graph of the trace in a file, seen from its root. -/
def traceNodes (files : Files) (path root : String) (full : Bool) (depth : Option Nat) :
    Except TraceError (List CallNode) × List LogRecord :=
  let mode := Mode.ofFull full
  match Metaprogram.buildFile files path mode root Settings.unknownResult with
  | (.error error, log) => (.error error, log)
  | (.ok g, log) =>
      let nodes := (Cursor.start g).callGraph g mode depth
      (.ok nodes, log ++ [callGraphRecord nodes])

/-- Shows the call graph of a trace. -/
def runTrace (around : Surroundings) (path root : String) (full : Bool) (depth : Option Nat)
    (output : OutputOptions) : Report :=
  match traceNodes around.files path root full depth with
  | (.error error, log) => .failed error.message log
  | (.ok nodes, log) =>
      { output := (output.sink around.columns around.isTerminal).output [.callGraph nodes], log }

/-- The lines up to the first that is no text, and the error of that one. -/
def readable : List (Except FileError String) → List String × Option FileError
  | [] => ([], none)
  | .error error :: _ => ([], some error)
  | .ok line :: rest =>
      let (lines, error) := readable rest
      (line :: lines, error)

/-- Runs the debugger on the given lines, or if there are none on those of the standard input.
An input that is no text fails, unless the debugger was told to quit before. -/
def runDebug (around : Surroundings) (path : Option String) (result : String) (full : Bool)
    (given : List String) (output : OutputOptions) : Report :=
  let source := (FileSource.mk path result).toTraceSource around.files
  let (lines, error) := if given.isEmpty then readable around.lines else (given, none)
  let (effect, ()) := Shell.runLines source { fullMode := full } () lines
  let report : Report :=
    { output := (output.sink around.columns around.isTerminal).output effect.shown
      log := effect.log }
  match error with
  | some error =>
      if effect.shell.stopped then report
      else { report with exitCode := 1, failure := some error.message }
  | none => report

/-- Obeys a command line. -/
def run (around : Surroundings) : Invocation → Report
  | .check _ path => runCheck around path
  | .trace _ path root full depth output => runTrace around path root full depth output
  | .debug _ path result full lines output => runDebug around path result full lines output

end Invocation

/-- Runs the program: the exit code, and what is written to the standard output and to the
standard error. What the usage of the program is, is not written. -/
def runProgram (arguments : List String) (around : Surroundings) : Nat × String × String :=
  match Invocation.read arguments with
  | .error error => (error.exitCode, "", "")
  | .ok invocation =>
      let report := invocation.run around
      (report.exitCode, report.output, report.errorText invocation.threshold)

end TemplateTrace
