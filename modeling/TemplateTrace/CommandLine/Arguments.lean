import TemplateTrace.CommandLine.Options

/-!
# Reading the command line

The arguments are a command, its options in any order, and a trace among them. An option has a
long name after two hyphens, or a letter after one; letters may be joined, and a value may be
joined to its option or be the next argument, unless that begins with a hyphen. After two
hyphens alone everything is a trace.

An option with its value is *pending* until the next option or trace settles it: only then is
it judged. So an argument that nobody knows is reported even where a value before it is wrong,
while of two wrong values the first one is.
-/

namespace TemplateTrace

/-- The commands. -/
inductive Subcommand where
  | check
  | trace
  | debug
  deriving DecidableEq, Repr, Inhabited

/-- The name of a command. -/
def Subcommand.ofName? : String → Option Subcommand
  | "check" => some .check
  | "trace" => some .trace
  | "mdb" => some .debug
  | _ => none

/-- The options, the trace being one that has no name. -/
inductive OptionId where
  | trace
  | root
  | result
  | full
  | depth
  | execute
  | format
  | width
  | color
  | verbose
  | help
  deriving DecidableEq, Repr, Inhabited

namespace OptionId

/-- The option with a long name. -/
def ofLong? : String → Option OptionId
  | "root" => some .root
  | "result" => some .result
  | "full" => some .full
  | "depth" => some .depth
  | "execute" => some .execute
  | "format" => some .format
  | "width" => some .width
  | "color" => some .color
  | "help" => some .help
  | _ => none

/-- The option with a letter. -/
def ofLetter? : Char → Option OptionId
  | 'x' => some .execute
  | 'v' => some .verbose
  | 'h' => some .help
  | _ => none

/-- Whether the option takes a value. -/
def takesValue : OptionId → Bool
  | .full | .verbose | .help => false
  | _ => true

/-- Whether a command has the option. -/
def belongsTo (command : Subcommand) : OptionId → Bool
  | .trace | .verbose | .help => true
  | .root | .depth => command = .trace
  | .result | .execute => command = .debug
  | .full | .format | .width | .color => command ≠ .check

end OptionId

/-- What was said so far about a command. -/
structure Settings where
  trace : Option String := none
  root : Option String := none
  result : Option String := none
  full : Bool := false
  depth : Option Nat := none
  lines : List String := []
  format : Option OutputFormat := none
  width : Option Nat := none
  color : Option ColorChoice := none
  verbosity : Nat := 0
  deriving DecidableEq, Repr, Inhabited

namespace Settings

/-- The greatest verbosity that is counted. -/
def maxVerbosity : Nat := 255

/-- Settles an option without a value. -/
def switch (s : Settings) : OptionId → Except UsageError Settings
  | .full => if s.full then .error .repeatedOption else .ok { s with full := true }
  | .verbose => .ok { s with verbosity := min maxVerbosity (s.verbosity + 1) }
  | .help => .error .help
  | _ => .error .badValue

/-- Puts a value where none is yet, if the value is one. -/
def once {α : Type} (old : Option α) (value? : Option α) (bad : UsageError) :
    Except UsageError (Option α) :=
  match old, value? with
  | some _, _ => .error .repeatedOption
  | none, none => .error bad
  | none, some value => .ok (some value)

/-- Settles an option with its value. -/
def assign (s : Settings) (option : OptionId) (value : String) : Except UsageError Settings := do
  match option with
  | .trace =>
      return { s with trace := ← once s.trace (if value = "" then none else value) .badValue }
  | .root => return { s with root := ← once s.root (some value) .badValue }
  | .result => return { s with result := ← once s.result (some value) .badValue }
  | .depth =>
      return { s with depth := ← once s.depth (Number.count? value.toList) .badNumber }
  | .execute => return { s with lines := s.lines ++ [value] }
  | .format =>
      return { s with format := ← once s.format (OutputFormat.read? value) .badValue }
  | .width =>
      return { s with width := ← once s.width (Number.count? value.toList) .badNumber }
  | .color => return { s with color := ← once s.color (ColorChoice.read? value) .badValue }
  | .full | .verbose | .help => .error .unwantedValue

/-- How the output is to look. -/
def output (s : Settings) : OutputOptions :=
  { format := s.format.getD .console, width := s.width, color := s.color.getD .auto }

/-- What is shown where a trace does not tell the type of its result. -/
def unknownResult : String := "<unknown>"

/-- What is shown where nobody tells the expression of a trace. -/
def unnamedRoot : String := "<root>"

/-- The command with what was said about it. -/
def invocation (s : Settings) (command : Subcommand) : Except UsageError Invocation :=
  match command, s.trace with
  | .debug, trace =>
      .ok (.debug s.verbosity trace (s.result.getD unknownResult) s.full s.lines s.output)
  | .check, some trace => .ok (.check s.verbosity trace)
  | .trace, some trace =>
      .ok (.trace s.verbosity trace (s.root.getD unnamedRoot) s.full s.depth s.output)
  | _, none => .error .missingTrace

end Settings

/-- The reader of the arguments of a command. -/
structure ArgumentReader where
  command : Subcommand
  settings : Settings := {}
  /-- The option that is not settled yet, with its value if that was read. -/
  pending : Option (OptionId × Option String) := none
  /-- Whether there was a trace, settled or not. -/
  hasTrace : Bool := false
  /-- Whether everything is a trace from here on. -/
  onlyTraces : Bool := false
  deriving DecidableEq, Repr, Inhabited

namespace ArgumentReader

/-- Settles the pending option. -/
def settle (r : ArgumentReader) : Except UsageError ArgumentReader :=
  match r.pending with
  | none => .ok r
  | some (_, none) => .error .badValue
  | some (option, some value) => do
      return { r with settings := ← r.settings.assign option value, pending := none }

/-- Takes an option without a value. -/
def switch (r : ArgumentReader) (option : OptionId) : Except UsageError ArgumentReader := do
  let r ← r.settle
  return { r with settings := ← r.settings.switch option }

/-- Takes an option with a value that is joined to it. -/
def assign (r : ArgumentReader) (option : OptionId) (value : String) :
    Except UsageError ArgumentReader := do
  let r ← r.settle
  return { r with settings := ← r.settings.assign option value }

/-- Takes an option whose value is still to come. -/
def await (r : ArgumentReader) (option : OptionId) : Except UsageError ArgumentReader := do
  let r ← r.settle
  return { r with pending := some (option, none) }

/-- The option that a reader of names finds, if the command has it. -/
def known? (r : ArgumentReader) (option : Option OptionId) : Option OptionId :=
  option.filter (OptionId.belongsTo r.command)

/-- Takes an option by its long name, with an optional value after an equals sign. -/
def takeLong (r : ArgumentReader) (body : List Char) : Except UsageError ArgumentReader :=
  let name := body.takeWhile (· ≠ '=')
  let value := match body.dropWhile (· ≠ '=') with
    | _ :: value => some (String.ofList value)
    | [] => none
  match r.known? (OptionId.ofLong? (String.ofList name)), value with
  | none, _ => .error .unknownArgument
  | some option, none => if option.takesValue then r.await option else r.switch option
  | some option, some value =>
      if option.takesValue then r.assign option value else .error .unwantedValue

/-- Takes options by their letters. What follows the letter of an option with a value is the
value, perhaps after an equals sign. -/
def takeLetters (r : ArgumentReader) : List Char → Except UsageError ArgumentReader
  | [] => .ok r
  | letter :: rest =>
      match r.known? (OptionId.ofLetter? letter) with
      | none => .error .unknownArgument
      | some option =>
          if option.takesValue then
            match rest with
            | [] => r.await option
            | '=' :: value | value => r.assign option (String.ofList value)
          else do
            let r ← r.switch option
            r.takeLetters rest

/-- Takes a trace. -/
def takeTrace (r : ArgumentReader) (path : String) : Except UsageError ArgumentReader :=
  if r.hasTrace then .error .unknownArgument
  else do
    let r ← r.settle
    return { r with pending := some (.trace, some path), hasTrace := true }

/-- Takes an argument that is no option: the value of the pending option or a trace. -/
def takePlain (r : ArgumentReader) (argument : String) : Except UsageError ArgumentReader :=
  match r.pending with
  | some (option, none) => .ok { r with pending := some (option, some argument) }
  | _ => r.takeTrace argument

/-- Takes an argument. -/
def take (r : ArgumentReader) (argument : String) : Except UsageError ArgumentReader :=
  if r.onlyTraces then r.takeTrace argument
  else match argument.toList with
    | ['-', '-'] => .ok { r with onlyTraces := true }
    | '-' :: '-' :: body => r.takeLong body
    | ['-'] => r.takePlain argument
    | '-' :: letters => r.takeLetters letters
    | _ => r.takePlain argument

/-- Reads the arguments of a command. -/
def read (command : Subcommand) (arguments : List String) : Except UsageError Invocation := do
  let r ← arguments.foldlM take { command }
  let r ← r.settle
  r.settings.invocation command

end ArgumentReader

namespace Invocation

/-- What asking for help gives, with the command that help is wanted for. -/
def help : List String → UsageError
  | [] => .help
  | [name] => if name = "help" || (Subcommand.ofName? name).isSome then .help else .unknownCommand
  | _ => .unknownCommand

/-- What a first argument gives that is no command. -/
def refuse (argument : String) : UsageError :=
  match argument.toList with
  | ['-'] => .unknownCommand
  | '-' :: '-' :: body =>
      if body = "help".toList then .help
      else if "help=".toList.isPrefixOf body then .unwantedValue
      else .unknownArgument
  | '-' :: 'h' :: _ => .help
  | '-' :: _ => .unknownArgument
  | _ => .unknownCommand

/-- What comes of two hyphens before any command. -/
def refuseEscaped : List String → UsageError
  | [] => .nothing
  | name :: _ =>
      if name = "help" || (Subcommand.ofName? name).isSome then .unknownArgument
      else .unknownCommand

/-- Reads a command line. -/
def read : List String → Except UsageError Invocation
  | [] => .error .nothing
  | "--" :: rest => .error (refuseEscaped rest)
  | "help" :: rest => .error (help rest)
  | name :: rest =>
      match Subcommand.ofName? name with
      | some command => ArgumentReader.read command rest
      | none => .error (refuse name)

end Invocation

end TemplateTrace
