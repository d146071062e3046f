import Mathlib.Data.List.Chain
import TemplateTrace.Display.Console
import TemplateTrace.Proofs.TextWords

/-!
# Word wrap is greedy

The lines of a wrapped text are made of rows of its words. The rows hold all words in their order, a
row of several words is within the width, and a row ends only where the next word would not have
fitted any more (`Greedy`). A row of one word may be too wide, since words are not split.

`fill` is followed with the words of the current line, which stand behind its indentation: these and
the words that are left are always what the rows from here on have to hold (`exists_greedy_fill`).
That the first line has an indentation of its own matters only until it ends; the rows after it are
filled in the same way, and their first one has the common indentation as its own.
-/

namespace TemplateTrace.Text

/-- The words of one line, and what they stand behind. -/
structure Row where
  indent : List Char
  words : List (List Char)

/-- The line of a row has one space between two words. -/
def Row.line (row : Row) : List Char := row.indent ++ [' '].intercalate row.words

/-- Rows of words as greedy word wrap makes them. -/
structure Greedy (width : Nat) (first rest : List Char) (words : List (List Char))
    (rows : List Row) : Prop where
  indents : rows.map Row.indent = first :: List.replicate (rows.length - 1) rest
  keeps : rows.flatMap Row.words = words
  full : words ≠ [] → ∀ row ∈ rows, row.words ≠ []
  /-- A text without words is a line of its own. -/
  alone : words = [] → rows = [⟨first, []⟩]
  fits : ∀ row ∈ rows, 2 ≤ row.words.length → row.line.length ≤ width
  /-- The first word of a row was too wide for the row before it. -/
  forced : rows.IsChain fun row next =>
    ∀ word ∈ next.words.head?, width < row.line.length + 1 + word.length

variable {width : Nat} {first rest word : List Char} {words seen : List (List Char)}
  {rows : List Row}

theorem intercalate_concat (h : seen ≠ []) (word : List Char) :
    [' '].intercalate (seen ++ [word]) = [' '].intercalate seen ++ ' ' :: word := by
  induction seen with
  | nil => exact absurd rfl h
  | cons earlier seen ih =>
      cases seen with
      | nil => simp
      | cons next seen =>
          rw [List.cons_append, List.cons_append, List.intercalate_cons_cons,
            List.intercalate_cons_cons, ← List.cons_append, ih (List.cons_ne_nil _ _),
            List.append_assoc, List.append_assoc, List.append_assoc]

/-- The first row of some words begins with the first of them. -/
theorem Greedy.head? (h : Greedy width first rest (word :: words) rows) :
    ∀ row ∈ rows.head?, row.words.head? = some word := by
  cases rows with
  | nil => intro row hrow; cases hrow
  | cons row rows =>
      rintro _ ⟨⟩
      obtain ⟨w, ws, hw⟩ :=
        List.exists_cons_of_ne_nil (h.full (List.cons_ne_nil _ _) row List.mem_cons_self)
      have hwords := h.keeps
      rw [List.flatMap_cons, hw, List.cons_append] at hwords
      rw [hw, List.head?_cons, (List.cons.inj hwords).1]

/-- A row of words that fit, and no words after it. -/
theorem greedy_singleton (hfits : 2 ≤ seen.length → (Row.mk first seen).line.length ≤ width) :
    Greedy width first rest seen [⟨first, seen⟩] where
  indents := rfl
  keeps := List.flatMap_singleton _ _
  full hne := List.forall_mem_singleton.2 hne
  alone hnone := by rw [hnone]
  fits := List.forall_mem_singleton.2 hfits
  forced := List.isChain_singleton _

/-- A row that ends because the next word does not fit. -/
theorem Greedy.cons (h : Greedy width rest rest (word :: words) rows) (hne : seen ≠ [])
    (hfits : 2 ≤ seen.length → (Row.mk first seen).line.length ≤ width)
    (hforced : width < (Row.mk first seen).line.length + 1 + word.length) :
    Greedy width first rest (seen ++ word :: words) (⟨first, seen⟩ :: rows) where
  indents := by
    have hpos : rows.length = rows.length - 1 + 1 := by
      have hlen := congrArg List.length h.indents
      rw [List.length_map, List.length_cons, List.length_replicate] at hlen
      omega
    rw [List.map_cons, h.indents, List.length_cons, Nat.add_sub_cancel, hpos,
      List.replicate_succ]
    rfl
  keeps := by rw [List.flatMap_cons, h.keeps]
  full _ := List.forall_mem_cons.2 ⟨hne, h.full (List.cons_ne_nil _ _)⟩
  alone hnone := absurd hnone (by simp)
  fits := List.forall_mem_cons.2 ⟨hfits, h.fits⟩
  forced := List.isChain_cons.2 ⟨fun next hnext other hother => by
    rw [h.head? next hnext] at hother
    cases hother
    exact hforced, h.forced⟩

/-- Filling words into a line that holds some already makes rows of all of them. -/
theorem exists_greedy_fill (width : Nat) (rest : List Char) (words : List (List Char))
    (first : List Char) (seen : List (List Char)) {line : List Char} {hasWord : Bool}
    (hline : line = (Row.mk first seen).line) (hhas : hasWord = !seen.isEmpty)
    (hfits : 2 ≤ seen.length → line.length ≤ width) :
    ∃ rows, fill width rest line hasWord words = rows.map Row.line ∧
      Greedy width first rest (seen ++ words) rows := by
  subst hline
  induction words generalizing first seen hasWord with
  | nil =>
      refine ⟨[⟨first, seen⟩], by rw [fill.eq_1]; rfl, ?_⟩
      rw [List.append_nil]
      exact greedy_singleton hfits
  | cons word words ih =>
      cases seen with
      | nil =>
          -- the first word stays however wide it is
          subst hhas
          have hstart : (Row.mk first []).line ++ word = (Row.mk first [word]).line := by
            simp [Row.line]
          obtain ⟨rows, hrows, hgreedy⟩ := ih first [word] rfl (by simp)
          exact ⟨rows, by rw [List.isEmpty_nil, Bool.not_true, fill.eq_2, hstart, ← hrows]; rfl,
            hgreedy⟩
      | cons earlier seen =>
          subst hhas
          have hne := List.cons_ne_nil earlier seen
          rw [List.isEmpty_cons, Bool.not_false, fill.eq_3]
          split
          · next hwide =>
              -- the row ends here, and the rows to come have no other indentation
              have hstart : rest ++ word = (Row.mk rest [word]).line := by simp [Row.line]
              obtain ⟨rows, hrows, hgreedy⟩ := ih rest [word] rfl (by simp)
              rw [List.isEmpty_cons, Bool.not_false, ← hstart] at hrows
              exact ⟨⟨first, earlier :: seen⟩ :: rows, by rw [hrows]; rfl,
                hgreedy.cons hne hfits hwide⟩
          · next hroom =>
              have hlonger : (Row.mk first (earlier :: seen)).line ++ ' ' :: word =
                  (Row.mk first (earlier :: seen ++ [word])).line := by
                rw [Row.line, Row.line, intercalate_concat hne, List.append_assoc]
              have hlength := congrArg List.length hlonger
              rw [List.length_append, List.length_cons] at hlength
              obtain ⟨rows, hrows, hgreedy⟩ := ih first (earlier :: seen ++ [word]) rfl
                fun _ => by omega
              rw [List.append_assoc] at hgreedy
              exact ⟨rows, by rw [hlonger, ← hrows]; rfl, hgreedy⟩

/-- Lines that a text is wrapped into greedily. -/
def WrapsGreedily (width : Nat) (first rest text : String) (lines : List String) : Prop :=
  ∃ words rows, HasWords text.toList words ∧
    Greedy width first.toList rest.toList words rows ∧
    lines.map String.toList = rows.map Row.line

theorem wrapsGreedily_wrap (width : Nat) (first rest text : String) :
    WrapsGreedily width first rest text
      ((wrap width first.toList rest.toList text.toList).map String.ofList) := by
  have hstart : first.toList = (Row.mk first.toList []).line := (List.append_nil _).symm
  obtain ⟨rows, hrows, hgreedy⟩ := exists_greedy_fill width rest.toList (words text.toList)
    first.toList [] hstart rfl (fun hmany => absurd hmany (by decide))
  refine ⟨_, rows, hasWords_words text.toList, hgreedy, ?_⟩
  have hlines : wrap width first.toList rest.toList text.toList = rows.map Row.line := hrows
  rw [hlines, List.map_map, List.map_map]
  exact List.map_congr_left fun row _ => String.toList_ofList

/-- A wrapped text is added to a block below the lines that are there. -/
theorem Block.addWrapped_eq (b : Block) (first rest text : String) :
    ∃ lines, WrapsGreedily b.width first rest text lines ∧
      b.addWrapped first rest text = { b with lines := b.lines ++ lines } :=
  ⟨_, wrapsGreedily_wrap b.width first rest text, rfl⟩

/-! ## Comments -/

/-- The lines of a paragraph in a comment. -/
def ParagraphLines (width : Nat) (p : Paragraph) (lines : List String) : Prop :=
  if p.content = "" then lines = [" *"]
  else WrapsGreedily width (" * " ++ p.firstIndent) (" * " ++ p.restIndent) p.content lines

/-- A paragraph is added to the block of a comment. -/
def Block.addParagraph (b : Block) (p : Paragraph) : Block :=
  if p.content = "" then b.addEmpty
  else b.addWrapped (" * " ++ p.firstIndent) (" * " ++ p.restIndent) p.content

theorem Block.addParagraph_eq {b : Block} (hmargin : b.margin = " * ") (p : Paragraph) :
    ∃ lines, ParagraphLines b.width p lines ∧
      b.addParagraph p = { b with lines := b.lines ++ lines } := by
  by_cases hempty : p.content = ""
  · refine ⟨[" *"], by rw [ParagraphLines, if_pos hempty], ?_⟩
    rw [addParagraph, if_pos hempty, addEmpty, addLine, hmargin]
    rfl
  · obtain ⟨lines, hlines, hadd⟩ :=
      b.addWrapped_eq (" * " ++ p.firstIndent) (" * " ++ p.restIndent) p.content
    exact ⟨lines, by rwa [ParagraphLines, if_neg hempty], by rw [addParagraph, if_neg hempty, hadd]⟩

theorem Block.foldl_addParagraph {b : Block} (hmargin : b.margin = " * ")
    (paragraphs : List Paragraph) :
    ∃ blocks, List.Forall₂ (ParagraphLines b.width) paragraphs blocks ∧
      paragraphs.foldl addParagraph b = { b with lines := b.lines ++ blocks.flatten } := by
  induction paragraphs generalizing b with
  | nil => exact ⟨[], .nil, by simp⟩
  | cons p paragraphs ih =>
      obtain ⟨lines, hlines, hadd⟩ := addParagraph_eq hmargin p
      obtain ⟨blocks, hblocks, hfold⟩ :=
        ih (b := { b with lines := b.lines ++ lines }) hmargin
      exact ⟨lines :: blocks, .cons hlines hblocks, by
        rw [List.foldl_cons, hadd, hfold, List.flatten_cons, ← List.append_assoc]⟩

/-- A comment is its paragraphs between two lines that open and close it. -/
theorem commentText_eq (width : Nat) (prose : Comment) :
    ∃ blocks, List.Forall₂ (ParagraphLines width) prose.paragraphs blocks ∧
      Document.commentText width prose =
        "\n".intercalate ("/*" :: (blocks.flatten ++ [" */"])) := by
  obtain ⟨blocks, hblocks, hfold⟩ := Block.foldl_addParagraph
    (b := { width, margin := " * ", lines := ["/*"] }) rfl prose.paragraphs
  refine ⟨blocks, hblocks, ?_⟩
  show ((prose.paragraphs.foldl Block.addParagraph
    { width, margin := " * ", lines := ["/*"] }).addLine " */").text = _
  rw [hfold]
  rfl

/-- Wrapping a text is greedy, and leaves the lines before it as they are. In a comment it is done
to every paragraph that is not empty. The words of a text are one list and no other. -/
theorem addWrapped_greedy :
    (∀ (b : Block) (first rest text : String),
      ∃ lines, WrapsGreedily b.width first rest text lines ∧
        b.addWrapped first rest text = { b with lines := b.lines ++ lines }) ∧
    (∀ (width : Nat) (palette : Palette) (prose : Comment),
      ∃ blocks, List.Forall₂ (ParagraphLines width) prose.paragraphs blocks ∧
        (Document.comment prose).writes width palette =
          [.text ("\n".intercalate ("/*" :: (blocks.flatten ++ [" */"]))), .newLine]) ∧
    ∀ s ws, HasWords s ws ↔ Text.words s = ws := by
  refine ⟨Block.addWrapped_eq, fun width palette prose => ?_, fun s ws => hasWords_iff⟩
  obtain ⟨blocks, hblocks, htext⟩ := commentText_eq width prose
  exact ⟨blocks, hblocks, by rw [← htext]; rfl⟩

example : wrap 12 "- ".toList "    ".toList " aaa  bbb verylongword c\n".toList =
    ["- aaa bbb".toList, "    verylongword".toList, "    c".toList] := by decide +kernel

end TemplateTrace.Text
