import TemplateTrace.Unicode.Current

/-!
# Quoted text

A text between quotes, for people who look for what is hard to see: characters that show nothing
of their own are written as escapes, and so are marks that would join the character before them.
-/

namespace TemplateTrace.Text

/-- The general categories whose characters show nothing of their own. -/
def invisibleCategories : List String := ["cc", "cf", "co", "zl", "zp", "zs"]

/-- Two marks that are written like the letters beside them, although they join these. -/
def soundMarks : Unicode.CharSet := .ofRanges [(0xFF9E, 0xFF9F)]

/-- The characters that show nothing of their own, whether because they are blank, because they
stand for nothing or because they are not assigned, and those that join the one before them. -/
def hiddenChars : Unicode.CharSet :=
  invisibleCategories.foldl (fun set key => set.union (Unicode.categorySet key))
    ((Unicode.Current.extending.difference soundMarks).union
      ((Unicode.having "defaultignorablecodepoint").union Unicode.Current.assigned.complement))

/-- The escape that gives the number of a character. -/
def numberEscape (c : Char) : List Char :=
  "\\u\x7b".toList ++ Nat.toDigits 16 c.toNat ++ ['\x7d']

/-- A character inside quotes. -/
def quotedChar (c : Char) : List Char :=
  if c = '"' then ['\\', '"']
  else if c = '\\' then ['\\', '\\']
  else if c = '\t' then ['\\', 't']
  else if c = '\r' then ['\\', 'r']
  else if c = '\n' then ['\\', 'n']
  else if c = '\x00' then ['\\', '0']
  else if c ≠ ' ' && hiddenChars.contains c then numberEscape c
  else [c]

/-- The quoted form of a text. -/
def quoted (s : List Char) : List Char := '"' :: (s.flatMap quotedChar ++ ['"'])

end TemplateTrace.Text
