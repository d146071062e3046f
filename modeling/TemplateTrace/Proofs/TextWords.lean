import Mathlib.Data.List.Basic
import TemplateTrace.Proofs.CommandLookup

/-!
# The words of a text

To find the words of a text is to begin with its first word and to go on with what follows it,
until only blanks are left. `HasWords` says this with a word that a text begins with, so a word
is whole, none is left out, and their order is kept. Every text has one list of words.
-/

namespace TemplateTrace.Text

/-- The words of a text, in order. -/
inductive HasWords : List Char → List (List Char) → Prop
  | nil {s : List Char} : (∀ c ∈ s, isBlank c = true) → HasWords s []
  | cons {s word rest : List Char} {later : List (List Char)} :
      Begins s word rest → HasWords rest later → HasWords s (word :: later)

variable {s word rest before : List Char}

theorem words_solid {s : List Char} (h : ∀ c ∈ s, isBlank c = false) (hne : s ≠ []) :
    words s = [s] := by
  have hword : (!s.isEmpty) = true := by simpa using hne
  rw [words, List.splitOnP_eq_singleton h, List.filter_singleton, hword]
  rfl

/-- No word goes across a blank. -/
theorem words_append_blank {c : Char} (hc : isBlank c = true) (s t : List Char) :
    words (s ++ c :: t) = words s ++ words t := by
  rw [words, List.splitOnP_append_cons s t hc, List.filter_append, words, words]

theorem words_cons_blank {c : Char} (hc : isBlank c = true) (s : List Char) :
    words (c :: s) = words s :=
  words_append_blank hc [] s

theorem words_append_of_blank (h : ∀ c ∈ before, isBlank c = true) (s : List Char) :
    words (before ++ s) = words s := by
  induction before with
  | nil => rfl
  | cons c before ih =>
      obtain ⟨hc, hbefore⟩ := List.forall_mem_cons.1 h
      rw [List.cons_append, words_cons_blank hc, ih hbefore]

theorem words_of_blank (h : ∀ c ∈ s, isBlank c = true) : words s = [] := by
  rw [← List.append_nil s, words_append_of_blank h]
  rfl

theorem words_of_begins (h : Begins s word rest) : words s = word :: words rest := by
  obtain ⟨before, rfl, hbefore⟩ := h.blanks
  have hword := words_solid h.solid h.nonempty
  rw [words_append_of_blank hbefore]
  cases rest with
  | nil => rw [List.append_nil, hword]; rfl
  | cons c rest =>
      have hc : isBlank c = true := h.maximal
      rw [words_append_blank hc, words_cons_blank hc, hword]
      rfl

theorem Begins.length_lt (h : Begins s word rest) : rest.length < s.length := by
  obtain ⟨before, rfl, -⟩ := h.blanks
  have hword := List.length_pos_iff.2 h.nonempty
  rw [List.length_append, List.length_append]
  omega

theorem hasWords_words (s : List Char) : HasWords s (words s) := by
  by_cases hblank : ∀ c ∈ s, isBlank c = true
  · rw [words_of_blank hblank]
    exact .nil hblank
  · obtain ⟨word, rest, h⟩ := exists_begins hblank
    have hshorter := h.length_lt
    rw [words_of_begins h]
    exact .cons h (hasWords_words rest)
termination_by s.length

theorem hasWords_iff {ws : List (List Char)} : HasWords s ws ↔ words s = ws := by
  refine ⟨fun h => ?_, fun h => h ▸ hasWords_words s⟩
  induction h with
  | nil hblank => exact words_of_blank hblank
  | cons hbegins _ ih => rw [words_of_begins hbegins, ih]

end TemplateTrace.Text
