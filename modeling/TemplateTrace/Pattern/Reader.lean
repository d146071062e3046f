import TemplateTrace.Pattern.Bracket
import TemplateTrace.Pattern.Size
import TemplateTrace.Unicode.Current

/-!
# Reading regular expressions

A regular expression is a choice of branches, a branch is a row of terms, and a term is an atom,
a set in brackets or a group, perhaps repeated. Flags may be set for the rest of a group or for a
group of their own. There are no references back to groups and no tests of what is around a
place, other than the assertions.

The reader is a machine with a stack of the groups that are open; every step takes characters
off. An expression is refused if it breaks the grammar, is nested too deeply, or if its pattern
is too large.
-/

namespace TemplateTrace.PatternNotation

/-- A part of an expression. -/
structure Term where
  pattern : Pattern
  /-- How deep the expression is nested. -/
  depth : Nat
  /-- A setting of flags is no expression and cannot be repeated. -/
  isSetting : Bool := false

namespace Term

/-- A row of terms, given in reverse. One term alone is not nested in a row. -/
def row (reversed : List Term) : Term :=
  match reversed with
  | [] => { pattern := .empty, depth := 0 }
  | [term] => { term with isSetting := false }
  | _ =>
      { pattern := .concat (reversed.reverse.map Term.pattern)
        depth := (reversed.map Term.depth).foldl max 0 + 1 }

/-- A choice between branches, given in reverse, the last one apart. -/
def choice (last : Term) (reversed : List Term) : Term :=
  match reversed.reverse with
  | [] => last
  | first :: rest =>
      let branches := first :: rest ++ [last]
      { pattern := .oneOf (branches.map Term.pattern)
        depth := (branches.map Term.depth).foldl max 0 + 1 }

/-- A group around a term, with its number if its match is of interest. -/
def group (index : Option Nat) (term : Term) : Term :=
  { pattern := match index with
      | some index => .captured index term.pattern
      | none => term.pattern
    depth := term.depth + 1 }

/-- Copies of a term. -/
def copies (copies : Copies) (term : Term) : Term :=
  { pattern := .copies term.pattern copies, depth := term.depth + 1 }

end Term

/-- What was read of a group: branches that are complete, and the terms of the last one, both
in reverse. -/
structure Branches where
  complete : List Term := []
  terms : List Term := []

namespace Branches

/-- One more term. -/
def add (b : Branches) (term : Term) : Branches := { b with terms := term :: b.terms }

/-- A new branch. -/
def next (b : Branches) : Branches := { complete := .row b.terms :: b.complete }

/-- All of the group. -/
def term (b : Branches) : Term := .choice (.row b.terms) b.complete

/-- Repeats the last term. -/
def repeatLast? (b : Branches) (copies : Copies) : Option Branches :=
  match b.terms with
  | [] => none
  | last :: before =>
      if last.isSetting then none
      else some { b with terms := last.copies copies :: before }

end Branches

/-- A group that is open, with what was read before it. -/
structure OpenGroup where
  /-- Its number, if its match is of interest. -/
  index : Option Nat
  /-- The flags in force around the group. -/
  flags : PatternFlags
  before : Branches

/-- The state of the reader. -/
structure ReaderState where
  flags : PatternFlags := {}
  branches : Branches := {}
  /-- The open groups, the innermost first. -/
  groups : List OpenGroup := []
  /-- The number of groups so far whose matches are of interest. -/
  count : Nat := 0
  /-- The names of groups so far. -/
  names : List (List Char) := []

namespace ReaderState

/-- Adds a term. -/
def add (r : ReaderState) (term : Term) : ReaderState :=
  { r with branches := r.branches.add term }

/-- Opens a group in which the given flags are in force. -/
def openGroup (r : ReaderState) (captures : Bool) (flags : PatternFlags) : ReaderState :=
  let count := if captures then r.count + 1 else r.count
  { r with
    flags
    branches := {}
    count
    groups :=
      { index := if captures then some count else none, flags := r.flags, before := r.branches } ::
        r.groups }

/-- Closes the innermost group. -/
def closeGroup? (r : ReaderState) : Option ReaderState :=
  match r.groups with
  | [] => none
  | group :: outer =>
      some { r with
        flags := group.flags
        branches := group.before.add (r.branches.term.group group.index)
        groups := outer }

end ReaderState

/-- Whether a character may stand in the name of a group. -/
def isNameChar (isFirst : Bool) (c : Char) : Bool :=
  c = '_' || Unicode.Current.alphabetic.contains c ||
    (!isFirst && (c = '.' || c = '[' || c = ']' || Unicode.Current.numbers.contains c))

/-- Reads the name of a group up to its closing mark. -/
def groupName? (s : List Char) : Option (List Char × List Char) :=
  match s.takeWhile (· ≠ '>'), s.dropWhile (· ≠ '>') with
  | c :: name, _ :: rest =>
      if isNameChar true c && name.all (isNameChar false) then some (c :: name, rest) else none
  | _, _ => none

/-- Reads flags up to the colon or the parenthesis that ends them. A hyphen switches off the
flags after it; `seen` are the letters and the hyphen so far, the last one first. -/
def settings? : (seen : List Char) → PatternFlags → List Char →
    Option (List Char × PatternFlags × Char × List Char)
  | _, _, [] => none
  | seen, flags, c :: rest =>
      if c = ':' || c = ')' then
        if seen.head? = some '-' then none else some (seen, flags, c, rest)
      else if seen.contains c then none
      else if c = '-' then settings? (c :: seen) flags rest
      else match flags.switch? (!seen.contains '-') c with
        | none => none
        | some flags => settings? (c :: seen) flags rest

/-- Reads what follows an opening parenthesis. -/
def group? (r : ReaderState) (s : List Char) : Option (ReaderState × List Char) :=
  let named (s : List Char) : Option (ReaderState × List Char) := do
    let (name, rest) ← groupName? s
    if r.names.contains name then none
    return ({ r with names := name :: r.names }.openGroup true r.flags, rest)
  match skip r.flags s with
  | '?' :: '=' :: _ | '?' :: '!' :: _ | '?' :: '<' :: '=' :: _ | '?' :: '<' :: '!' :: _ => none
  | '?' :: 'P' :: '<' :: rest | '?' :: '<' :: rest => named rest
  | '?' :: rest => do
      let (seen, flags, mark, rest) ← settings? [] r.flags rest
      if mark = ':' then return (r.openGroup false flags, rest)
      else if seen.isEmpty then none
      else
        return ({ r with flags }.add { pattern := .empty, depth := 0, isSetting := true }, rest)
  | rest => some (r.openGroup true r.flags, rest)

/-- Reads a number of copies, which is below 2^32, with blanks around it. -/
def copyCount? (flags : PatternFlags) (s : List Char) : Option (Nat × List Char) := do
  let (digits, rest) := digitsFrom (s.dropWhile Text.isBlank)
  let n ← Number.natural? digits
  if n < 0x100000000 then return (n, blanksFrom s.length rest) else none
where
  /-- Takes digits, and what may be skipped after each of them. -/
  digitsFrom (s : List Char) : List Char × List Char :=
    match s with
    | [] => ([], [])
    | c :: rest =>
        if Number.isDigit c then
          let (digits, rest) := digitsIn false rest
          (c :: digits, rest)
        else ([], c :: rest)
  /-- Goes on after a digit. -/
  digitsIn : (inComment : Bool) → List Char → List Char × List Char
    | _, [] => ([], [])
    | true, c :: rest => digitsIn (c != '\n') rest
    | false, c :: rest =>
        if flags.spaced && Text.isBlank c then digitsIn false rest
        else if flags.spaced && c = '#' then digitsIn true rest
        else if Number.isDigit c then
          let (digits, rest) := digitsIn false rest
          (c :: digits, rest)
        else ([], c :: rest)
  /-- Skips blanks, and what may be skipped after each of them. -/
  blanksFrom : (bound : Nat) → List Char → List Char
    | bound + 1, c :: rest =>
        if Text.isBlank c then blanksFrom bound (skip flags rest) else c :: rest
    | _, s => s

/-- Reads the numbers of copies in braces, after the opening one. -/
def copyRange? (flags : PatternFlags) (s : List Char) :
    Option (Nat × Option Nat × List Char) := do
  let (least, rest) ← copyCount? flags (skip flags s)
  match rest with
  | '\x7d' :: rest => return (least, some least, rest)
  | ',' :: rest =>
      match skip flags rest with
      | '\x7d' :: rest => return (least, none, rest)
      | rest => do
          let (greatest, rest) ← copyCount? flags rest
          match rest with
          | '\x7d' :: rest => if least ≤ greatest then return (least, some greatest, rest) else none
          | _ => none
  | _ => none

/-- Repeats the last term. A mark that may follow turns round whether few copies are
preferred. -/
def repeat? (r : ReaderState) (least : Nat) (greatest : Option Nat) (s : List Char) :
    Option (ReaderState × List Char) := do
  let (isMarked, rest) := match s with
    | '?' :: rest => (true, rest)
    | _ => (false, s)
  let copies : Copies := { least, greatest, prefersFew := isMarked != r.flags.prefersFew }
  return ({ r with branches := ← r.branches.repeatLast? copies }, rest)

/-- Reads one part of an expression, which is not at its end. -/
def part? (r : ReaderState) (s : List Char) : Option (ReaderState × List Char) :=
  match s with
  | '(' :: rest => group? r rest
  | ')' :: rest => (r.closeGroup?).map (·, rest)
  | '|' :: rest => some ({ r with branches := r.branches.next }, rest)
  | '[' :: rest => do
      let (nested, rest) ← bracket? r.flags rest
      return (r.add { pattern := .ofSet nested.set, depth := nested.depth }, rest)
  | '?' :: rest => repeat? r 0 (some 1) rest
  | '*' :: rest => repeat? r 0 none rest
  | '+' :: rest => repeat? r 1 none rest
  | '\x7b' :: rest => do
      let (least, greatest, rest) ← copyRange? r.flags rest
      repeat? r least greatest (skip r.flags rest)
  | s => do
      let (atom, rest) ← atom? r.flags s
      return (r.add { pattern := ← atom.pattern? r.flags, depth := 0 }, rest)

/-- Reads all parts of an expression. -/
def parts? : (bound : Nat) → ReaderState → List Char → Option Term
  | 0, _, _ => none
  | bound + 1, r, s =>
      match skip r.flags s with
      | [] => if r.groups.isEmpty then some r.branches.term else none
      | s => match part? r s with
        | none => none
        | some (r, rest) => parts? bound r rest

/-- How deep an expression may be nested. -/
def maxDepth : Nat := 250

end PatternNotation

open PatternNotation in
/-- Reads a regular expression. -/
def Pattern.read? (text : String) : Option Pattern := do
  let s := text.toList
  let term ← parts? (s.length + 1) {} s
  if term.depth ≤ maxDepth && term.pattern.isModest then return term.pattern else none

end TemplateTrace
