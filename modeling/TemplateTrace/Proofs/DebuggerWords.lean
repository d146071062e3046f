import TemplateTrace.Proofs.DebuggerBlankLines
import TemplateTrace.Proofs.TextWords
import TemplateTrace.Proofs.WrittenNumbers

/-!
# What stands behind a word

A line that begins with the word of a command runs it with what stands behind the word, without
the blanks at both ends. Where that is written without blanks, as a number is, the command gets it
as it was written.
-/

namespace TemplateTrace

namespace Text

/-- What stands behind a blank is what is left of it, if it has no blanks at its ends. -/
theorem trim_cons_blank {s : List Char} (hstart : s.head?.any isBlank = false)
    (hend : s.getLast?.any isBlank = false) : trimEnd (trimStart (' ' :: s)) = s := by
  rw [show trimStart (' ' :: s) = trimStart s from rfl, trimStart_of_head hstart,
    trimEnd_of_getLast hend]

theorem any_isBlank_of_solid {c? : Option Char} (h : ∀ c ∈ c?, isBlank c = false) :
    c?.any isBlank = false := by
  cases c? with
  | none => rfl
  | some c => exact h c rfl

theorem solid_of_any {word : List Char} (h : word.any isBlank = false) :
    ∀ c ∈ word, isBlank c = false :=
  fun c hc => by simpa using List.any_eq_false.1 h c hc

/-- What has no blanks at all is left as it is. -/
theorem trim_solid {s : List Char} (h : ∀ c ∈ s, isBlank c = false) :
    trimEnd (trimStart (' ' :: s)) = s :=
  trim_cons_blank (any_isBlank_of_solid fun c hc => h c (List.mem_of_mem_head? hc))
    (any_isBlank_of_solid fun c hc => h c (List.mem_of_getLast? hc))

theorem isBlank_of_isDigit {c : Char} (h : Number.isDigit c = true) : isBlank c = false := by
  rw [Number.isDigit, Bool.and_eq_true, decide_eq_true_iff, decide_eq_true_iff] at h
  have hzero : 48 ≤ c.toNat := h.1
  have hnine : c.toNat ≤ 57 := h.2
  simp only [isBlank, Bool.or_eq_false_iff, Bool.and_eq_false_iff, decide_eq_false_iff_not,
    beq_eq_false_iff_ne]
  omega

theorem isBlank_of_mem_digits {c : Char} {n : Nat} (h : c ∈ Number.digits n) :
    isBlank c = false :=
  isBlank_of_isDigit (Number.isDigit_of_mem_digits h)

theorem isBlank_of_mem_signedDigits {c : Char} {n : Int} (h : c ∈ Number.signedDigits n) :
    isBlank c = false := by
  rw [Number.signedDigits] at h
  split at h
  · rcases List.mem_cons.1 h with rfl | h
    · rfl
    · exact isBlank_of_mem_digits h
  · exact isBlank_of_mem_digits h

theorem Begins.not_all_isBlank {line word rest : List Char} (h : Begins line word rest) :
    line.all isBlank = false := by
  obtain ⟨before, rfl, -⟩ := h.blanks
  obtain ⟨c, hc⟩ := List.exists_mem_of_ne_nil word h.nonempty
  refine List.all_eq_false.2 ⟨c, ?_, by rw [h.solid c hc]; exact Bool.false_ne_true⟩
  exact List.mem_append_right _ (List.mem_append_left _ hc)

theorem begins_word {word : String} (rest : String) (hne : word.toList ≠ [])
    (hsolid : word.toList.any isBlank = false) :
    Begins (word ++ " " ++ rest).toList word.toList (' ' :: rest.toList) where
  blanks := ⟨[], by simp [String.toList_append], List.forall_mem_nil _⟩
  nonempty := hne
  solid := solid_of_any hsolid
  maximal := rfl

end Text

namespace Shell

variable {σ : Type} {source : TraceSource σ} {shell : Shell} {state : σ} {line word : String}
  {rest : List Char} {command : Command}

/-- What a line does that begins with the word of a command. -/
theorem line_of_begins {word : List Char} (h : Text.Begins line.toList word rest)
    (hfind : Command.map.find word = .ok command) :
    shell.line source state line =
      (({ shell with lastLine := if command.repeatable then some line else none }.run
        command.kind (Text.trimEnd (Text.trimStart rest))).after
          [commandRecord command.kind (Text.trimEnd (Text.trimStart rest))]).settle
        source state := by
  rw [Shell.line, react, meantLine_of_solid shell h.not_all_isBlank]
  show (shell.obey line).settle source state = _
  rw [obey, CommandMap.resolve_of_begins _ h, hfind]
  rfl

/-- The line that gives a number to a command. -/
def numberLine (word : String) (n : Int64) : String := word ++ " " ++ Number.signedText n.toInt

theorem line_numberLine (n : Int64) (hne : word.toList ≠ [])
    (hsolid : word.toList.any Text.isBlank = false)
    (hfind : Command.map.find word.toList = .ok command) :
    shell.line source state (numberLine word n) =
      (({ shell with
          lastLine := if command.repeatable then some (numberLine word n) else none }.run
        command.kind (Number.signedDigits n.toInt)).after
          [commandRecord command.kind (Number.signedDigits n.toInt)]).settle source state := by
  have htext : (Number.signedText n.toInt).toList = Number.signedDigits n.toInt :=
    String.toList_ofList
  rw [numberLine, line_of_begins (Text.begins_word _ hne hsolid) hfind, htext,
    Text.trim_solid fun c => Text.isBlank_of_mem_signedDigits]

end Shell

end TemplateTrace
