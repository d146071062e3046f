import TemplateTrace.Display.Console
import TemplateTrace.Number.Integer
import TemplateTrace.Text.Blank

/-!
# Options

What the command line can say: which command is wanted and with which options. A value of an
option is judged when the option is settled, so each option has a reader of its value here.
-/

namespace TemplateTrace

/-- Why a command line is not obeyed. -/
inductive UsageError where
  /-- Help is asked for. -/
  | help
  /-- Nothing is said. -/
  | nothing
  | unknownCommand
  | unknownArgument
  /-- An option comes twice that may come once. -/
  | repeatedOption
  /-- A value is none of the values that the option knows, or is missing. -/
  | badValue
  /-- A value is no number. -/
  | badNumber
  /-- An option that takes no value has one. -/
  | unwantedValue
  | missingTrace
  deriving DecidableEq, Repr, Inhabited

/-- The exit code of the program for a command line that is not obeyed. -/
def UsageError.exitCode : UsageError → Nat
  | .help => 0
  | _ => 2

/-- The forms of output. -/
inductive OutputFormat where
  | console
  | json
  deriving DecidableEq, Repr, Inhabited

/-- Reads the name of a form of output. -/
def OutputFormat.read? : String → Option OutputFormat
  | "console" => some .console
  | "json" => some .json
  | _ => none

/-- When the output is coloured. -/
inductive ColorChoice where
  /-- On a terminal. -/
  | auto
  | always
  | never
  deriving DecidableEq, Repr, Inhabited

/-- Reads the name of a choice of colours. -/
def ColorChoice.read? : String → Option ColorChoice
  | "auto" => some .auto
  | "always" => some .always
  | "never" => some .never
  | _ => none

/-- Whether the output is coloured. -/
def ColorChoice.colorizes (choice : ColorChoice) (isTerminal : Bool) : Bool :=
  match choice with
  | .auto => isTerminal
  | .always => true
  | .never => false

/-- How the output is to look. -/
structure OutputOptions where
  format : OutputFormat := .console
  width : Option Nat := none
  color : ColorChoice := .auto
  deriving DecidableEq, Repr, Inhabited

/-- Reads the width that the environment gives. A width of zero is none. -/
def columns? (value : Option String) : Option Nat :=
  (value.bind fun text => Number.count? (Text.trim text.toList)).filter (0 < ·)

/-- The width of the console: the one that was asked for, else that of the environment. -/
def consoleWidth (asked : Option Nat) (environment : Option String) : Nat :=
  (asked.or (columns? environment)).getD defaultWidth

/-- Where the documents of a command go. -/
def OutputOptions.sink (options : OutputOptions) (environment : Option String)
    (isTerminal : Bool) : Sink :=
  match options.format with
  | .console =>
      .console (consoleWidth options.width environment) (options.color.colorizes isTerminal)
  | .json => .json

/-- A command line that is obeyed. -/
inductive Invocation where
  /-- Reads a trace and counts what is in it. -/
  | check (verbosity : Nat) (trace : String)
  /-- Shows the call graph of a trace. -/
  | trace (verbosity : Nat) (trace root : String) (full : Bool) (depth : Option Nat)
    (output : OutputOptions)
  /-- Runs the debugger, on the given lines if there are any. -/
  | debug (verbosity : Nat) (trace : Option String) (result : String) (full : Bool)
    (lines : List String) (output : OutputOptions)
  deriving DecidableEq, Repr, Inhabited

end TemplateTrace
