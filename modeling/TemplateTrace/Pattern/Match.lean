import TemplateTrace.Pattern.Syntax
import TemplateTrace.Unicode.Property

/-!
# Searching a text for a pattern

A place of a text is one of the gaps before, between and after its characters, numbered from
zero. A set of places is a natural number whose bits mark the members. A pattern leads from a
set of places to the set of places where its matches from there end, so two patterns after each
other are a composition, alternatives are a union, and a repetition is an iteration that stops
when nothing changes any more. No match is ever tried twice, whatever the pattern.

The questions about characters are answered before the search: `Pattern.over` lays a pattern
over a text, and what is left of each character set and each assertion are marks.
-/

namespace TemplateTrace

namespace Unicode

/-- The characters of words. -/
def wordChars : CharSet :=
  ["m", "pc", "nd"].foldl (fun set key => set.union (categoryOrGroup key))
    ((having "alphabetic").union (having "joincontrol"))

/-- The characters of words that are in ASCII. -/
def asciiWordChars : CharSet := .ofRanges [(0x30, 0x39), (0x41, 0x5A), (0x5F, 0x5F), (0x61, 0x7A)]

end Unicode

namespace WordPlace

/-- Whether a place is as asked for, given whether there is a word before and after it. -/
def holds (before after : Bool) : WordPlace → Bool
  | .boundary => before != after
  | .noBoundary => before == after
  | .start => !before && after
  | .stop => before && !after
  | .startHalf => !before
  | .stopHalf => !after

end WordPlace

namespace Assertion

/-- Whether a place is as asked for, given the characters before and after it. -/
def holds (before after : Option Char) : Assertion → Bool
  | .textStart => before.isNone
  | .textEnd => after.isNone
  | .lineStart => before.all (· = '\n')
  | .lineEnd => after.all (· = '\n')
  | .returnLineStart => before.all (fun c => c = '\n' || (c = '\r' && after != some '\n'))
  | .returnLineEnd => after.all (fun c => c = '\r' || (c = '\n' && before != some '\r'))
  | .word place unicode =>
      let words := if unicode then Unicode.wordChars else Unicode.asciiWordChars
      place.holds (before.any words.contains) (after.any words.contains)

end Assertion

/-- A set of places of a text, its members being marked by bits. -/
abbrev Places := Nat

namespace Places

/-- The places below a bound that satisfy a test. -/
def below (test : Nat → Bool) : (bound : Nat) → Places
  | 0 => 0
  | n + 1 => below test n ||| (if test n then 1 <<< n else 0)

/-- The result of `n` steps; a step that changes nothing is the last. -/
def iterate (step : Places → Places) : (n : Nat) → Places → Places
  | 0, places => places
  | n + 1, places =>
      let next := step places
      if next = places then places else iterate step n next

/-- All places that are reached with at most `n` steps. -/
def spread (step : Places → Places) (n : Nat) (places : Places) : Places :=
  iterate (fun places => places ||| step places) n places

end Places

/-- A pattern laid over a text. -/
inductive Overlay where
  | stay
  /-- Goes over a character, at the marked places. -/
  | cross (marks : Places)
  /-- Stays, at the marked places. -/
  | keep (marks : Places)
  | seq (first second : Overlay)
  | either (left right : Overlay)
  | repeated (body : Overlay) (least more : Nat)
  deriving DecidableEq, Repr, Inhabited

/-- Goes over a character that satisfies a test. -/
def Overlay.crossing (text : Array Char) (test : Char → Bool) : Overlay :=
  .cross (Places.below (fun i => text[i]?.any test) text.size)

/-- Lays a pattern over a text. A repetition without a greatest number goes on for at most as
many copies as there are places. -/
def Pattern.over (text : Array Char) : Pattern → Overlay
  | .empty => .stay
  | .text chars => chars.foldr (fun c rest => .seq (.crossing text (· = c)) rest) .stay
  | .char set => .crossing text set.contains
  | .assertion asked =>
      .keep (Places.below
        (fun i => asked.holds (if i = 0 then none else text[i - 1]?) text[i]?) (text.size + 1))
  | .seq a b => .seq (a.over text) (b.over text)
  | .either a b => .either (a.over text) (b.over text)
  | .repeated body copies =>
      .repeated (body.over text) copies.least
        (match copies.greatest with
          | none => text.size + 1
          | some greatest => greatest - copies.least)
  | .captured _ body => body.over text

/-- The places where matches from the given places end. -/
def Overlay.ends : Overlay → Places → Places
  | .stay, places => places
  | .cross marks, places => (places &&& marks) <<< 1
  | .keep marks, places => places &&& marks
  | .seq a b, places => b.ends (a.ends places)
  | .either a b, places => a.ends places ||| b.ends places
  | .repeated body least more, places =>
      Places.spread body.ends more (Places.iterate body.ends least places)

/-- Whether some part of a text matches a pattern. -/
def Pattern.isIn (pattern : Pattern) (text : String) : Bool :=
  let text := text.toList.toArray
  (pattern.over text).ends (Places.below (fun _ => true) (text.size + 1)) != 0

end TemplateTrace
