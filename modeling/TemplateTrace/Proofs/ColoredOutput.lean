import TemplateTrace.Proofs.EscapeSequences
import TemplateTrace.Proofs.LabelWrapping
import TemplateTrace.Proofs.WordWrapping
import TemplateTrace.Proofs.WrittenNumbers

/-!
# Colours leave the text as it is

What a console shows in colours and what it shows without them are made side by side. Three things
are painted: the tree art of a call graph, errors, and the numbers of a backtrace. Each of them is
a step of `Paints`, and so is all that is shown as it stands, since it has no escape character.
Documents put these one after the other, and what they put next to what is the same for both
outputs: where a label is cut depends on the width and the depth of its node (`nodeLines_eq`), never
on its tree art, whose cells are longer in colours.

Texts are given by their documents, but comments are wrapped before they are shown. A line of a
comment holds words of its paragraphs and blanks besides (`ParagraphLines.not_mem`), and the number
of a frame holds digits, so an escape character in what is shown comes from a text or from a
palette.
-/

namespace TemplateTrace

variable {oneLine : Prop} {width : Nat}

/-! ## Texts without escape characters -/

theorem not_mem_intercalate {α : Type} {a : α} {separator : List α} {parts : List (List α)}
    (hseparator : a ∉ separator) (hparts : ∀ part ∈ parts, a ∉ part) :
    a ∉ separator.intercalate parts := by
  induction parts with
  | nil => exact List.not_mem_nil
  | cons part parts ih =>
      obtain ⟨hpart, hothers⟩ := List.forall_mem_cons.1 hparts
      cases parts with
      | nil => rwa [List.intercalate_singleton]
      | cons next parts =>
          rw [List.intercalate_cons_cons, List.mem_append, List.mem_append]
          exact not_or.2 ⟨not_or.2 ⟨hpart, hseparator⟩, ih hothers⟩

namespace Text

variable {c : Char} {s : List Char} {ws : List (List Char)} {first rest text : String}
  {lines : List String}

theorem HasWords.not_mem (h : HasWords s ws) (hs : c ∉ s) : ∀ word ∈ ws, c ∉ word := by
  induction h with
  | nil => exact List.forall_mem_nil _
  | cons hbegins _ ih =>
      obtain ⟨before, rfl, -⟩ := hbegins.blanks
      rw [List.mem_append, List.mem_append, not_or, not_or] at hs
      exact List.forall_mem_cons.2 ⟨hs.2.1, ih hs.2.2⟩

/-- A wrapped text has the characters of its parts, and blanks. -/
theorem WrapsGreedily.not_mem (h : WrapsGreedily width first rest text lines) (hblank : c ≠ ' ')
    (hfirst : c ∉ first.toList) (hrest : c ∉ rest.toList) (htext : c ∉ text.toList) :
    ∀ line ∈ lines, c ∉ line.toList := by
  obtain ⟨words, rows, hwords, hgreedy, hlines⟩ := h
  intro line hline
  have hrow := List.mem_map_of_mem (f := String.toList) hline
  rw [hlines] at hrow
  obtain ⟨row, hmem, hrow⟩ := List.mem_map.1 hrow
  have hindent : row.indent = first.toList ∨ row.indent = rest.toList := by
    have hindents := List.mem_map_of_mem (f := Row.indent) hmem
    rw [hgreedy.indents] at hindents
    exact (List.mem_cons.1 hindents).imp_right List.eq_of_mem_replicate
  have hinside : ∀ word ∈ row.words, c ∉ word := fun word hword =>
    hwords.not_mem htext word (hgreedy.keeps ▸ List.mem_flatMap.2 ⟨row, hmem, hword⟩)
  rw [← hrow, Row.line, List.mem_append, not_or]
  refine ⟨?_, not_mem_intercalate (by simpa using hblank) hinside⟩
  rcases hindent with h | h
  · rwa [h]
  · rwa [h]

theorem ParagraphLines.not_mem {p : Paragraph} (h : ParagraphLines width p lines)
    (hp : ∀ text ∈ [p.firstIndent, p.restIndent, p.content], '\x1b' ∉ text.toList) :
    ∀ line ∈ lines, '\x1b' ∉ line.toList := by
  simp only [List.forall_mem_cons] at hp
  obtain ⟨hfirst, hrest, hcontent, -⟩ := hp
  rw [ParagraphLines] at h
  split at h
  · rw [h]
    decide
  · exact h.not_mem (by decide) (by simpa using hfirst) (by simpa using hrest) hcontent

theorem ParagraphLines.not_mem_flatten {paragraphs : List Paragraph}
    {blocks : List (List String)} (h : List.Forall₂ (ParagraphLines width) paragraphs blocks)
    (hp : ∀ p ∈ paragraphs, ∀ text ∈ [p.firstIndent, p.restIndent, p.content],
      '\x1b' ∉ text.toList) : ∀ line ∈ blocks.flatten, '\x1b' ∉ line.toList := by
  induction h with
  | nil => exact List.forall_mem_nil _
  | cons hlines _ ih =>
      obtain ⟨hfirst, hothers⟩ := List.forall_mem_cons.1 hp
      rw [List.flatten_cons, List.forall_mem_append]
      exact ⟨hlines.not_mem hfirst, ih hothers⟩

end Text

theorem Kind.escape_not_mem_name (kind : Kind) : '\x1b' ∉ kind.name.toList := by
  cases kind <;> decide

theorem Frame.escape_not_mem_label {shown : Frame} (h : '\x1b' ∉ shown.name.toList) :
    '\x1b' ∉ shown.label.toList := by
  rw [Frame.label]
  split
  · exact h
  · next kind _ => simp [h, kind.escape_not_mem_name]

theorem Number.not_mem_text {c : Char} (h : isDigit c = false) (n : Nat) :
    c ∉ (Number.text n).toList := by
  rw [toList_text]
  intro hmem
  rw [isDigit_of_mem_digits hmem] at h
  cases h

/-! ## Tree art -/

theorem isColor_of_digits (digits : List Char) (hne : digits ≠ []) (hzero : digits ≠ ['0'])
    (hdigits : digits.all Number.isDigit = true) :
    IsColor ('\x1b' :: '[' :: (digits ++ ['m'])) := by
  refine ⟨⟨digits, hne, List.all_eq_true.1 hdigits, rfl⟩, fun heq => hzero ?_⟩
  have htail : digits ++ ['m'] = ['0'] ++ ['m'] := by
    rw [show resetSequence = '\x1b' :: '[' :: (['0'] ++ ['m']) from rfl] at heq
    exact (List.cons.inj (List.cons.inj heq).2).2
  exact List.append_cancel_right htail

theorem isColor_forDepth (depth : Nat) : IsColor (Palette.terminal.forDepth depth).toList := by
  unfold Palette.forDepth
  split
  · exact isColor_of_digits ['3', '1'] (by decide) (by decide) (by decide)
  · exact isColor_of_digits ['3', '2'] (by decide) (by decide) (by decide)
  · exact isColor_of_digits ['3', '3'] (by decide) (by decide) (by decide)
  · exact isColor_of_digits ['3', '4'] (by decide) (by decide) (by decide)
  · exact isColor_of_digits ['3', '6'] (by decide) (by decide) (by decide)

theorem isColor_white : IsColor Palette.terminal.white.toList :=
  isColor_of_digits ['3', '7'] (by decide) (by decide) (by decide)

theorem isColor_brightRed : IsColor Palette.terminal.brightRed.toList :=
  isColor_of_digits ['9', '1'] (by decide) (by decide) (by decide)

namespace TreeArt

variable {mark margin mark' margin' : List Char} {pieces : List (List Char)}

theorem paints_paint {cell : String} (hescape : '\x1b' ∉ cell.toList)
    (hfeed : '\n' ∉ cell.toList) (depth : Nat) :
    Paints oneLine (paint .terminal depth cell) (paint .plain depth cell) := by
  rw [paint_plain, paint, List.append_assoc]
  exact .around (isColor_forDepth depth) hescape fun _ => hfeed

theorem paints_guide (r : Remaining) (depth : Nat) :
    Paints oneLine (guide .terminal r depth) (guide .plain r depth) := by
  unfold guide
  split
  · exact paints_paint (by decide) (by decide) depth
  · exact paints_paint (by decide) (by decide) depth

/-- The cell of a node is painted, but for the blanks below its last line. -/
theorem paints_ownCell (r : Remaining) (depth : Nat) (isFirst : Bool) :
    Paints oneLine (ownCell .terminal r depth isFirst) (ownCell .plain r depth isFirst) := by
  unfold ownCell
  split
  · exact paints_paint (by decide) (by decide) depth
  · exact paints_paint (by decide) (by decide) depth
  · exact paints_paint (by decide) (by decide) depth
  · exact .same (by decide)

theorem paints_cells (r : Remaining) (depth : Nat) (isFirst : Bool) :
    Paints oneLine (cells .terminal r depth isFirst) (cells .plain r depth isFirst) := by
  cases depth with
  | zero => exact .nil
  | succ above =>
      exact (Paints.flatMap fun d _ => paints_guide r (d + 1)).append
        (paints_ownCell r (above + 1) isFirst)

theorem paints_hang (hmark : Paints oneLine mark mark') (hmargin : Paints oneLine margin margin')
    (hpieces : ∀ piece ∈ pieces, '\x1b' ∉ piece) :
    List.Forall₂ (Paints oneLine) (hang mark margin pieces) (hang mark' margin' pieces) := by
  cases pieces with
  | nil => exact .nil
  | cons first rest =>
      obtain ⟨hfirst, hrest⟩ := List.forall_mem_cons.1 hpieces
      refine .cons (hmark.append (.same hfirst)) ?_
      rw [List.forall₂_map_left_iff, List.forall₂_map_right_iff, List.forall₂_same]
      exact fun piece hpiece => hmargin.append (.same (hrest piece hpiece))

/-- Where a label is cut does not depend on the colours. -/
theorem paints_nodeLines (r : Remaining) {node : CallNode}
    (h : '\x1b' ∉ node.frame.name.toList) :
    List.Forall₂ (Paints oneLine) (nodeLines width .terminal r node)
      (nodeLines width .plain r node) := by
  have hpieces : ∀ piece ∈ labelPieces width node, '\x1b' ∉ piece := fun piece hpiece hmem =>
    Frame.escape_not_mem_label h
      (flatten_labelPieces width node ▸ List.mem_flatten.2 ⟨piece, hpiece, hmem⟩)
  rw [nodeLines_eq, nodeLines_eq]
  exact paints_hang (paints_cells _ _ _) (paints_cells _ _ _) hpieces

theorem paints_linesFrom {nodes : List CallNode}
    (h : ∀ node ∈ nodes, '\x1b' ∉ node.frame.name.toList) (r : Remaining) :
    List.Forall₂ (Paints oneLine) (linesFrom width .terminal r nodes)
      (linesFrom width .plain r nodes) := by
  induction nodes generalizing r with
  | nil => exact .nil
  | cons node nodes ih =>
      obtain ⟨hnode, hnodes⟩ := List.forall_mem_cons.1 h
      exact List.rel_append (paints_nodeLines _ hnode) (ih hnodes _)

end TreeArt

/-! ## Writes -/

namespace Write

theorem toList_output (writes : List Write) :
    (output writes).toList = writes.flatMap (·.content.toList) := by
  rw [output, String.toList_join, List.flatMap_map]

theorem toList_output_append (first later : List Write) :
    (output (first ++ later)).toList = (output first).toList ++ (output later).toList := by
  rw [output, List.map_append, String.join_append, String.toList_append]
  rfl

theorem toList_output_flatMap {α : Type} (items : List α) (writes : α → List Write) :
    (output (items.flatMap writes)).toList =
      items.flatMap fun item => (output (writes item)).toList := by
  simp only [toList_output, List.flatMap_assoc]

end Write

namespace Document

/-- The texts that a document shows. -/
def texts : Document → List String
  | .rawText text | .error text | .typeName text | .code text => [text]
  | .comment prose => prose.paragraphs.flatMap fun p => [p.firstIndent, p.restIndent, p.content]
  | .frame shown => [shown.name]
  | .backtrace trace => trace.frames.map Frame.name
  | .callGraph nodes => nodes.map (·.frame.name)

theorem escape_not_mem_commentText {prose : Comment}
    (h : ∀ text ∈ (Document.comment prose).texts, '\x1b' ∉ text.toList) :
    '\x1b' ∉ (commentText width prose).toList := by
  obtain ⟨blocks, hblocks, htext⟩ := Text.commentText_eq width prose
  have hlines := Text.ParagraphLines.not_mem_flatten hblocks fun p hp text htext =>
    h text (List.mem_flatMap.2 ⟨p, hp, htext⟩)
  rw [htext, String.toList_intercalate]
  refine not_mem_intercalate (by decide) (List.forall_mem_map.2 ?_)
  exact List.forall_mem_cons.2 ⟨by decide, List.forall_mem_append.2 ⟨hlines, by decide⟩⟩

theorem paints_coloredWrites {color text : String} (hcolor : IsColor color.toList)
    (hescape : '\x1b' ∉ text.toList) (hline : oneLine → '\n' ∉ text.toList) (other : String) :
    Paints oneLine (Write.output (coloredWrites .terminal color text)).toList
      (Write.output (coloredWrites .plain other text)).toList := by
  have hcolored : coloredWrites .terminal color text =
      [.text color, .text text, .text Palette.terminal.reset] := rfl
  have hplain : coloredWrites .plain other text = [.text text] := rfl
  rw [hcolored, hplain, Write.toList_output, Write.toList_output]
  simp only [List.flatMap_cons, List.flatMap_nil, List.append_nil, Write.content]
  exact .around hcolor hescape hline

theorem escape_not_mem_frameWrites {shown : Frame} (h : '\x1b' ∉ shown.name.toList) :
    '\x1b' ∉ (Write.output (frameWrites shown)).toList := by
  obtain ⟨name, kind⟩ := shown
  rw [Write.toList_output]
  cases kind with
  | none => simpa [frameWrites, Write.content] using h
  | some kind => simpa [frameWrites, Write.content, kind.escape_not_mem_name] using h

theorem escape_not_mem_line {text : String} (h : '\x1b' ∉ text.toList) :
    '\x1b' ∉ (Write.output [.text text, .newLine]).toList := by
  simpa [Write.toList_output, Write.content] using h

/-- The number of a frame is painted, and the frame is not. -/
theorem paints_numberedFrame {shown : Frame} (h : '\x1b' ∉ shown.name.toList) (i : Nat) :
    Paints oneLine
      (Write.output (coloredWrites .terminal Palette.terminal.white ("#" ++ Number.text i ++ " ") ++
        frameWrites shown)).toList
      (Write.output (coloredWrites .plain Palette.plain.white ("#" ++ Number.text i ++ " ") ++
        frameWrites shown)).toList := by
  have hescape := Number.not_mem_text (c := '\x1b') rfl i
  have hfeed := Number.not_mem_text (c := '\n') rfl i
  rw [Write.toList_output_append, Write.toList_output_append]
  refine (paints_coloredWrites isColor_white ?_ (fun _ => ?_) _).append
    (.same (escape_not_mem_frameWrites h))
  · simpa using hescape
  · simpa using hfeed

theorem toList_output_render (width : Nat) (palette : Palette) (nodes : List CallNode) :
    (Write.output ((TreeArt.render width palette nodes).flatMap fun line =>
      [.text line, .newLine])).toList =
      (TreeArt.linesFrom width palette .start nodes).flatMap (· ++ ['\n']) := by
  rw [Write.toList_output_flatMap, TreeArt.render, List.flatMap_map]
  refine List.flatMap_congr fun line _ => ?_
  simp [Write.toList_output, Write.content]

theorem paints_lines {lines lines' : List (List Char)}
    (h : List.Forall₂ (Paints oneLine) lines lines') :
    Paints oneLine (lines.flatMap (· ++ ['\n'])) (lines'.flatMap (· ++ ['\n'])) := by
  induction h with
  | nil => exact .nil
  | cons hline _ ih => exact (hline.append (.same (by decide))).append ih

/-- A document in colours and without. -/
theorem paints_writes {document : Document}
    (hescape : ∀ text ∈ document.texts, '\x1b' ∉ text.toList)
    (hline : oneLine → ∀ text ∈ document.texts, '\n' ∉ text.toList) :
    Paints oneLine (Write.output (document.writes width .terminal)).toList
      (Write.output (document.writes width .plain)).toList := by
  unfold writes
  split
  -- whether a document shows nothing is not a matter of colours
  · exact .nil
  cases document with
  | rawText text => exact .same (escape_not_mem_line (hescape text List.mem_cons_self))
  | typeName name => exact .same (escape_not_mem_line (hescape name List.mem_cons_self))
  | code text => exact .same (escape_not_mem_line (hescape text List.mem_cons_self))
  | error text =>
      rw [Write.toList_output_append, Write.toList_output_append]
      exact (paints_coloredWrites isColor_brightRed (hescape text List.mem_cons_self)
        (fun h => hline h text List.mem_cons_self) _).append (.same (by decide))
  | comment prose => exact .same (escape_not_mem_line (escape_not_mem_commentText hescape))
  | frame shown => exact .same (escape_not_mem_frameWrites (hescape _ List.mem_cons_self))
  | backtrace trace =>
      rw [Write.toList_output_flatMap, Write.toList_output_flatMap]
      refine .flatMap fun (shown, i) hmem => paints_numberedFrame (hescape _ ?_) i
      exact List.mem_map_of_mem (List.fst_mem_of_mem_zipIdx hmem)
  | callGraph nodes =>
      rw [toList_output_render, toList_output_render]
      have hnames : ∀ node ∈ nodes, '\x1b' ∉ node.frame.name.toList := fun node hmem =>
        hescape _ (List.mem_map_of_mem (f := fun node => node.frame.name) hmem)
      exact paints_lines (TreeArt.paints_linesFrom hnames .start)

end Document

namespace Sink

/-- An error, a backtrace and a call graph with a cut label. -/
def mixed : List Document :=
  [.error "no [31m", .backtrace ⟨[{ name := "f" }, { name := "g", kind := some .memoization }]⟩,
    .callGraph [⟨{ name := "root" }, 0, 1⟩, ⟨{ name := "0123456789abc" }, 1, 0⟩]]

end Sink

end TemplateTrace
