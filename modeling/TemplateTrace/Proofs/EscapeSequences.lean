import Mathlib.Data.List.Basic
import TemplateTrace.Display.Palette
import TemplateTrace.Number.Integer

/-!
# Escape sequences

A text for a terminal and the text that is seen: `deleteEscapes` goes through the first and leaves
all escape sequences out, with no knowledge of how it was made. `Paints` says how it was made: of
characters that are no escape, and of coloured stretches, which are a colour, some such characters
and the reset. From that both follow, that without the escape sequences only the characters are
left (`Paints.deleteEscapes_eq`), and that no colour goes on when the next one begins
(`Paints.colorsEnd`).

A colour can be found anywhere in a text, so the second has to say that only the colours that were
put there are found. The escape character is enough for that: it stands at the beginning of each
sequence and nowhere else (`ColorsEnd.skip`).
-/

namespace TemplateTrace

/-- The escape character, a bracket, digits and the letter `m`. -/
def IsEscape (s : List Char) : Prop :=
  ∃ digits, digits ≠ [] ∧ (∀ c ∈ digits, Number.isDigit c = true) ∧
    s = '\x1b' :: '[' :: (digits ++ ['m'])

/-- The sequence that ends all colours. -/
def resetSequence : List Char := Palette.terminal.reset.toList

/-- An escape sequence that sets a colour. -/
structure IsColor (s : List Char) : Prop where
  isEscape : IsEscape s
  ne_reset : s ≠ resetSequence

/-- What follows the escape sequence at the beginning of a text. -/
def afterEscape? : List Char → Option (List Char)
  | '\x1b' :: '[' :: s =>
      match s.takeWhile Number.isDigit, s.dropWhile Number.isDigit with
      | _ :: _, 'm' :: rest => some rest
      | _, _ => none
  | _ => none

theorem length_afterEscape? {s rest : List Char} (h : afterEscape? s = some rest) :
    rest.length < s.length := by
  rw [afterEscape?.eq_def] at h
  split at h
  · next s =>
      split at h
      · next hdrop =>
          cases h
          have hle := (List.dropWhile_sublist Number.isDigit (l := s)).length_le
          rw [hdrop, List.length_cons] at hle
          rw [List.length_cons, List.length_cons]
          omega
      · cases h
  · cases h

/-- The text without its escape sequences. -/
def deleteEscapes : List Char → List Char
  | [] => []
  | c :: s =>
      match h : afterEscape? (c :: s) with
      | some rest =>
          have := length_afterEscape? h
          deleteEscapes rest
      | none => c :: deleteEscapes s
termination_by s => s.length
decreasing_by
  · exact this
  · exact Nat.lt_succ_self _

variable {oneLine : Prop} {s t s' t' e e' : List Char} {c : Char}

theorem afterEscape?_append (h : IsEscape e) (s : List Char) : afterEscape? (e ++ s) = some s := by
  obtain ⟨digits, hne, hdigits, rfl⟩ := h
  obtain ⟨d, ds, rfl⟩ := List.exists_cons_of_ne_nil hne
  have htake : (d :: ds ++ 'm' :: s).takeWhile Number.isDigit = d :: ds := by
    rw [List.takeWhile_append_of_pos hdigits, List.takeWhile_cons_of_neg (by decide),
      List.append_nil]
  have hdrop : (d :: ds ++ 'm' :: s).dropWhile Number.isDigit = 'm' :: s := by
    rw [List.dropWhile_append_of_pos hdigits, List.dropWhile_cons_of_neg (by decide)]
  rw [List.cons_append, List.cons_append, List.append_assoc, List.singleton_append, afterEscape?,
    htake, hdrop]
  rfl

theorem afterEscape?_cons (h : c ≠ '\x1b') (s : List Char) : afterEscape? (c :: s) = none := by
  rw [afterEscape?.eq_def]
  split
  · next heq => exact absurd (List.cons.inj heq).1 h
  · rfl

theorem deleteEscapes_append (h : IsEscape e) (s : List Char) :
    deleteEscapes (e ++ s) = deleteEscapes s := by
  have hafter := afterEscape?_append h s
  obtain ⟨digits, -, -, rfl⟩ := h
  rw [List.cons_append] at hafter ⊢
  rw [deleteEscapes]
  split
  · next heq =>
      rw [hafter] at heq
      cases heq
      rfl
  · next heq =>
      rw [hafter] at heq
      cases heq

theorem deleteEscapes_cons (h : c ≠ '\x1b') (s : List Char) :
    deleteEscapes (c :: s) = c :: deleteEscapes s := by
  rw [deleteEscapes]
  split
  · next heq =>
      rw [afterEscape?_cons h] at heq
      cases heq
  · rfl

theorem deleteEscapes_append_plain (h : '\x1b' ∉ s) (t : List Char) :
    deleteEscapes (s ++ t) = s ++ deleteEscapes t := by
  induction s with
  | nil => rfl
  | cons c s ih =>
      have hc := Ne.symm (List.ne_of_not_mem_cons h)
      rw [List.cons_append, deleteEscapes_cons hc, ih (List.not_mem_of_not_mem_cons h),
        List.cons_append]

/-! ## Where escape sequences stand -/

/-- The escape character stands only at the beginning. -/
theorem IsEscape.exists_tail (h : IsEscape e) :
    ∃ tail, e = '\x1b' :: tail ∧ '\x1b' ∉ tail := by
  obtain ⟨digits, -, hdigits, rfl⟩ := h
  have hdigit : '\x1b' ∉ digits := fun hmem => absurd (hdigits _ hmem) (by decide)
  exact ⟨_, rfl, by simp [hdigit]⟩

/-- No escape sequence goes on as another one. -/
theorem IsEscape.append_inj (h : IsEscape e) (h' : IsEscape e') (heq : e ++ s = e' ++ s') :
    e = e' ∧ s = s' := by
  have hafter := afterEscape?_append h s
  rw [heq, afterEscape?_append h'] at hafter
  cases hafter
  exact ⟨List.append_cancel_right heq, rfl⟩

/-- The next escape sequence of a text is the reset, on the same line if there is to be one line
only. -/
def Resets (oneLine : Prop) (s : List Char) : Prop :=
  ∃ inside rest, s = inside ++ (resetSequence ++ rest) ∧ '\x1b' ∉ inside ∧
    (oneLine → '\n' ∉ inside)

/-- Every colour is followed by the reset before another one begins. -/
def ColorsEnd (oneLine : Prop) (s : List Char) : Prop :=
  ∀ before color after, s = before ++ (color ++ after) → IsColor color → Resets oneLine after

namespace ColorsEnd

theorem nil : ColorsEnd oneLine [] := by
  intro before color after heq hcolor
  obtain ⟨tail, rfl, -⟩ := hcolor.isEscape.exists_tail
  simp at heq

/-- In what holds no escape character no colour begins. -/
theorem skip (hs : '\x1b' ∉ s) (h : ColorsEnd oneLine t) : ColorsEnd oneLine (s ++ t) := by
  intro before color after heq hcolor
  rcases List.append_eq_append_iff.1 heq with ⟨between, rfl, ht⟩ | ⟨begun, rfl, hcut⟩
  · exact h between color after ht hcolor
  · cases begun with
    | nil => exact h [] color after hcut.symm hcolor
    | cons d begun =>
        obtain ⟨tail, rfl, -⟩ := hcolor.isEscape.exists_tail
        rw [List.cons_append, List.cons_append] at hcut
        obtain ⟨rfl, -⟩ := List.cons.inj hcut
        simp at hs

/-- An escape sequence holds no colour but itself. -/
theorem escape (he : IsEscape e) (h : ColorsEnd oneLine t)
    (hself : IsColor e → Resets oneLine t) : ColorsEnd oneLine (e ++ t) := by
  intro before color after heq hcolor
  cases before with
  | nil =>
      obtain ⟨rfl, rfl⟩ := he.append_inj hcolor.isEscape heq
      exact hself hcolor
  | cons d before =>
      obtain ⟨tail, rfl, htail⟩ := he.exists_tail
      rw [List.cons_append, List.cons_append] at heq
      exact h.skip htail before color after (List.cons.inj heq).2 hcolor

end ColorsEnd

/-! ## Painted texts -/

theorem isEscape_reset : IsEscape resetSequence :=
  ⟨['0'], List.cons_ne_nil _ _, by simp [Number.isDigit], rfl⟩

/-- A coloured text and the text without the colours. If there is to be one line only, no colour
goes across the end of a line. -/
inductive Paints (oneLine : Prop) : List Char → List Char → Prop
  | nil : Paints oneLine [] []
  | plain {c : Char} {s t : List Char} : c ≠ '\x1b' → Paints oneLine s t →
      Paints oneLine (c :: s) (c :: t)
  | colored {color inside s t : List Char} : IsColor color → '\x1b' ∉ inside →
      (oneLine → '\n' ∉ inside) → Paints oneLine s t →
      Paints oneLine (color ++ (inside ++ (resetSequence ++ s))) (inside ++ t)

namespace Paints

theorem same (h : '\x1b' ∉ s) : Paints oneLine s s := by
  induction s with
  | nil => exact nil
  | cons c s ih =>
      exact plain (Ne.symm (List.ne_of_not_mem_cons h)) (ih (List.not_mem_of_not_mem_cons h))

/-- A coloured text of its own. -/
theorem around {color : List Char} (hcolor : IsColor color) (hs : '\x1b' ∉ s)
    (hline : oneLine → '\n' ∉ s) : Paints oneLine (color ++ (s ++ resetSequence)) s := by
  have h : Paints oneLine (color ++ (s ++ (resetSequence ++ []))) (s ++ []) :=
    colored hcolor hs hline nil
  rwa [List.append_nil, List.append_nil] at h

theorem append (h : Paints oneLine s t) (h' : Paints oneLine s' t') :
    Paints oneLine (s ++ s') (t ++ t') := by
  induction h with
  | nil => exact h'
  | plain hc _ ih => exact plain hc ih
  | colored hcolor hinside hline _ ih =>
      rw [List.append_assoc, List.append_assoc, List.append_assoc, List.append_assoc]
      exact colored hcolor hinside hline ih

theorem flatMap {α : Type} {f g : α → List Char} {items : List α}
    (h : ∀ item ∈ items, Paints oneLine (f item) (g item)) :
    Paints oneLine (items.flatMap f) (items.flatMap g) := by
  induction items with
  | nil => exact nil
  | cons item items ih =>
      obtain ⟨hitem, hitems⟩ := List.forall_mem_cons.1 h
      exact hitem.append (ih hitems)

theorem deleteEscapes_eq (h : Paints oneLine s t) : deleteEscapes s = t := by
  induction h with
  | nil => rw [deleteEscapes]
  | plain hc _ ih => rw [deleteEscapes_cons hc, ih]
  | colored hcolor hinside _ _ ih =>
      rw [deleteEscapes_append hcolor.isEscape, deleteEscapes_append_plain hinside,
        deleteEscapes_append isEscape_reset, ih]

theorem colorsEnd (h : Paints oneLine s t) : ColorsEnd oneLine s := by
  induction h with
  | nil => exact .nil
  | @plain c s t hc _ ih => exact ih.skip (s := [c]) (by simpa using Ne.symm hc)
  | @colored color inside s t hcolor hinside hline _ ih =>
      have hreset : ColorsEnd oneLine (resetSequence ++ s) :=
        ih.escape isEscape_reset fun hcolor => absurd rfl hcolor.ne_reset
      exact (hreset.skip hinside).escape hcolor.isEscape fun _ =>
        ⟨inside, s, rfl, hinside, hline⟩

end Paints

example : deleteEscapes "a\x1b[31mb\x1b[0mc\x1b[m".toList = "abc\x1b[m".toList := by cbv

end TemplateTrace
