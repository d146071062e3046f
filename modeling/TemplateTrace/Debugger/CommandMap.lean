import TemplateTrace.Text.Blank

/-!
# Looking commands up

A command has one or more keys, and a word means the command if it is one of its keys, or an
abbreviation that only one key starts with. A key that several commands list belongs to the
first of them.

The keys are kept in ascending order, so those that a word abbreviates stand together, and the
word itself comes first if it is a key: two looks are enough.
-/

namespace TemplateTrace

/-- Why a line means no command. -/
inductive CommandError where
  | noCommand
  | unknown (word : String)
  | ambiguous (word : String)
  deriving DecidableEq, Repr, Inhabited

/-- The wording of a command error. -/
def CommandError.message : CommandError → String
  | .noCommand => "no command given"
  | .unknown word => "command not found: \"" ++ word ++ "\""
  | .ambiguous word => "ambiguous command: \"" ++ word ++ "\""

/-- Commands and the keys that mean them. -/
structure CommandMap (α : Type) where
  commands : List α
  /-- The keys in ascending order, each with its command. -/
  keys : List (String × α)
  deriving Repr, Inhabited

namespace CommandMap

variable {α : Type}

/-- Puts a key at its place unless it is there already. -/
def insertKey (key : String) (command : α) : List (String × α) → List (String × α)
  | [] => [(key, command)]
  | (other, owner) :: rest =>
      if key = other then (other, owner) :: rest
      else if key < other then (key, command) :: (other, owner) :: rest
      else (other, owner) :: insertKey key command rest

/-- The map of commands, given each with its keys. -/
def ofList (entries : List (List String × α)) : CommandMap α :=
  { commands := entries.map (·.2)
    keys := entries.foldl
      (fun keys (names, command) =>
        names.foldl (fun keys name => insertKey name command keys) keys) [] }

/-- Whether a word is a key or the beginning of one. -/
def abbreviates (word : List Char) (key : String) : Bool := word.isPrefixOf key.toList

/-- The command that a word means. -/
def find (map : CommandMap α) (word : List Char) : Except CommandError α :=
  match map.keys.dropWhile (·.1 < String.ofList word) with
  | [] => .error (.unknown (String.ofList word))
  | (key, command) :: rest =>
      if !abbreviates word key then .error (.unknown (String.ofList word))
      else if key ≠ String.ofList word && rest.head?.any (abbreviates word ·.1) then
        .error (.ambiguous (String.ofList word))
      else .ok command

/-- The command that the first word of a line means, and the rest of the line without the
blanks before it. -/
def resolve (map : CommandMap α) (line : List Char) : Except CommandError (α × List Char) :=
  let (word, rest) := Text.splitWord (Text.trimStart line)
  if word.isEmpty then .error .noCommand
  else match map.find word with
    | .error error => .error error
    | .ok command => .ok (command, Text.trimStart rest)

end CommandMap

end TemplateTrace
