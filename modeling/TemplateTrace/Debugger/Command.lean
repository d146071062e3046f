import TemplateTrace.Debugger.CommandMap

/-!
# The commands of the debugger

Each command with the keys that mean it and the texts that its help shows.
-/

namespace TemplateTrace

/-- What a command does. -/
inductive CommandKind where
  | evaluate
  | step
  /-- On to a breakpoint. -/
  | proceed
  | forwardTrace
  | backtrace
  | frame
  /-- A breakpoint for names that match a regular expression. -/
  | addBreakpoint
  | help
  | quit
  deriving DecidableEq, Repr, Inhabited

/-- The name of what a command does, as the log shows it. -/
def CommandKind.name : CommandKind → String
  | .evaluate => "Evaluate"
  | .step => "Step"
  | .proceed => "Continue"
  | .forwardTrace => "Forwardtrace"
  | .backtrace => "Backtrace"
  | .frame => "Frame"
  | .addBreakpoint => "Rbreak"
  | .help => "Help"
  | .quit => "Quit"

/-- A command of the debugger. -/
structure Command where
  keys : List String
  kind : CommandKind
  /-- Whether an empty line runs the command again. -/
  repeatable : Bool
  usage : String
  summary : String
  details : String
  deriving DecidableEq, Repr, Inhabited

namespace Command

/-- The keys, with bars between them. -/
def label (c : Command) : String := "|".intercalate c.keys

/-- The keys and the usage. -/
def synopsis (c : Command) : String :=
  if c.usage = "" then c.label else c.label ++ " " ++ c.usage

/-- Every command, in the order in which help lists them. -/
def all : List Command :=
  [{ keys := ["evaluate"], kind := .evaluate, repeatable := false
     usage := "[-full] [<type>]"
     summary := "Evaluate and start debugging a new metaprogram."
     details := "Evaluating a metaprogram using the `-full` qualifier will expand all " ++
       "Memoization events. If <type> is omitted, the previous metaprogram is " ++
       "evaluated again." },
   { keys := ["step"], kind := .step, repeatable := true
     usage := "[over|out] [n]"
     summary := "Step the program."
     details := "Argument n means step n times. n defaults to 1 if not specified. Negative n " ++
       "means step the program backwards. Use of the `over` qualifier will jump over " ++
       "sub instantiations. Use of the `out` qualifier will jump out of the current " ++
       "instantiation frame." },
   { keys := ["continue"], kind := .proceed, repeatable := true
     usage := "[n]"
     summary := "Continue program being debugged."
     details := "The program is continued until the nth breakpoint or the end of the program is " ++
       "reached. n defaults to 1 if not specified. Negative n means continue the " ++
       "program backwards." },
   { keys := ["forwardtrace", "ft"], kind := .forwardTrace, repeatable := false
     usage := "[-full] [n]"
     summary := "Print forwardtrace from the current point."
     details := "The n specifier limits the depth of the trace. If n is not specified, then the " ++
       "trace depth is unlimited. The `-full` qualifier expands repeated " ++
       "instantiations." },
   { keys := ["backtrace", "bt"], kind := .backtrace, repeatable := false
     usage := ""
     summary := "Print backtrace from the current point."
     details := "" },
   { keys := ["frame"], kind := .frame, repeatable := false
     usage := "n"
     summary := "Inspect the nth frame of the current backtrace."
     details := "" },
   { keys := ["rbreak"], kind := .addBreakpoint, repeatable := false
     usage := "<regex>"
     summary := "Add breakpoint for all types matching `<regex>`."
     details := "" },
   { keys := ["help"], kind := .help, repeatable := false
     usage := "[<command>]"
     summary := "Show help for commands."
     details := "" },
   { keys := ["quit"], kind := .quit, repeatable := false
     usage := ""
     summary := "Quit metadebugger."
     details := "" }]

/-- The commands by their keys. -/
def map : CommandMap Command := .ofList (all.map fun c => (c.keys, c))

end Command

end TemplateTrace
