import Mathlib.Data.List.TakeWhile
import TemplateTrace.Text.Blank

/-!
# Trimming

To trim a text is to find its core: the text is the core with blanks around it, and no blank
stands at either end of the core. Every text has one core, and that is what is left of it
(`trims_iff`).
-/

namespace TemplateTrace.Text

/-- A text is the core with blanks around it, all of its blanks at the ends. -/
structure Trims (s core : List Char) : Prop where
  blanks : ∃ before after, s = before ++ (core ++ after) ∧
    (∀ c ∈ before, isBlank c = true) ∧ ∀ c ∈ after, isBlank c = true
  starts : core.head?.any isBlank = false
  ends : core.getLast?.any isBlank = false

variable {s before after core : List Char}

theorem trimStart_append (h : ∀ c ∈ before, isBlank c = true) (s : List Char) :
    trimStart (before ++ s) = trimStart s := by
  rw [trimStart, List.dropWhile_append_of_pos h, trimStart]

theorem trimStart_of_head (h : s.head?.any isBlank = false) : trimStart s = s := by
  cases s with
  | nil => rfl
  | cons c rest =>
      have hc : isBlank c = false := h
      exact List.dropWhile_cons_of_neg (by rw [hc]; exact Bool.false_ne_true)

theorem trimStart_eq_nil_iff : trimStart s = [] ↔ ∀ c ∈ s, isBlank c = true := by
  rw [trimStart, List.dropWhile_eq_nil_iff]

theorem trimEnd_append (h : ∀ c ∈ after, isBlank c = true) (s : List Char) :
    trimEnd (s ++ after) = trimEnd s := by
  rw [trimEnd, List.reverse_append,
    List.dropWhile_append_of_pos fun c hc => h c (List.mem_reverse.1 hc), trimEnd]

theorem trimEnd_of_getLast (h : s.getLast?.any isBlank = false) : trimEnd s = s := by
  rw [trimEnd, ← trimStart, trimStart_of_head (by rwa [List.head?_reverse]), List.reverse_reverse]

theorem head?_trimStart (s : List Char) : (trimStart s).head?.any isBlank = false := by
  have hfirst := List.head?_dropWhile_not isBlank s
  rw [← trimStart] at hfirst
  cases hs : (trimStart s).head? with
  | none => rfl
  | some c => rw [hs] at hfirst; exact hfirst

theorem Trims.trim_eq (h : Trims s core) : trim s = core := by
  obtain ⟨before, after, rfl, hbefore, hafter⟩ := h.blanks
  rw [trim, trimStart_append hbefore]
  cases core with
  | nil => rw [List.nil_append, trimStart_eq_nil_iff.2 hafter]; rfl
  | cons c core =>
      have hstart : trimStart (c :: core ++ after) = c :: core ++ after :=
        trimStart_of_head h.starts
      rw [hstart, trimEnd_append hafter, trimEnd_of_getLast h.ends]

theorem trims_trim (s : List Char) : Trims s (trim s) := by
  have hstart : s = s.takeWhile isBlank ++ trimStart s :=
    List.takeWhile_append_dropWhile.symm
  have hend : trimStart s = trim s ++ ((trimStart s).reverse.takeWhile isBlank).reverse := by
    rw [trim, trimEnd, ← List.reverse_append, List.takeWhile_append_dropWhile,
      List.reverse_reverse]
  refine ⟨⟨_, _, hend ▸ hstart, fun _ hc => List.mem_takeWhile_imp hc,
    fun _ hc => List.mem_takeWhile_imp (List.mem_reverse.1 hc)⟩, ?_, ?_⟩
  · have hhead := head?_trimStart s
    cases hcore : trim s with
    | nil => rfl
    | cons c core => rwa [hend, hcore] at hhead
  · rw [trim, trimEnd, List.getLast?_reverse]
    exact head?_trimStart _

/-- What is left of a trimmed text is its core. -/
theorem trims_iff : Trims s core ↔ trim s = core :=
  ⟨Trims.trim_eq, fun h => h ▸ trims_trim s⟩

theorem trimmed_eq_iff {s core : String} : trimmed s = core ↔ Trims s.toList core.toList := by
  rw [trims_iff, trimmed, ← String.toList_inj, String.toList_ofList]

theorem isEmpty_trim (s : List Char) : (trim s).isEmpty = s.all isBlank := by
  rw [Bool.eq_iff_iff, List.isEmpty_iff, ← trims_iff, List.all_eq_true]
  refine ⟨fun h => ?_, fun h => ⟨⟨s, [], (List.append_nil s).symm, h, by simp⟩, rfl, rfl⟩⟩
  obtain ⟨before, after, rfl, hbefore, hafter⟩ := h.blanks
  exact List.forall_mem_append.2 ⟨hbefore, hafter⟩

end TemplateTrace.Text
