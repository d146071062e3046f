import TemplateTrace.Location
import TemplateTrace.Proofs.FirstFault

/-!
# How a location is written

The file name ends at the first bar of a text and the line at the second one. The column is the
rest, which can hold no bar, since neither can a number.
-/

namespace TemplateTrace

/-! ## Bars -/

/-- What stands between separators holds none. -/
theorem not_mem_of_mem_splitOn {α : Type} [DecidableEq α] {a : α} {s piece : List α}
    (h : piece ∈ s.splitOn a) : a ∉ piece := by
  induction s generalizing piece with
  | nil =>
      rw [List.splitOn_nil, List.mem_singleton] at h
      exact h ▸ List.not_mem_nil
  | cons c s ih =>
      obtain ⟨first, rest, hs⟩ := List.exists_cons_of_ne_nil (List.splitOn_ne_nil a s)
      rw [hs, List.forall_mem_cons] at ih
      rw [List.splitOn_cons_eq_if_modifyHead, hs] at h
      by_cases hc : c = a
      · rw [if_pos (beq_iff_eq.2 hc), List.mem_cons, List.mem_cons] at h
        rcases h with rfl | rfl | h
        · exact List.not_mem_nil
        · exact ih.1
        · exact ih.2 _ h
      · rw [if_neg (by simpa using hc), List.modifyHead_cons, List.mem_cons] at h
        rcases h with rfl | h
        · exact List.not_mem_cons_of_ne_of_not_mem (Ne.symm hc) ih.1
        · exact ih.2 _ h

namespace Number

variable {s : List Char}

theorem isDigit_of_natural? {n : Nat} (h : natural? s = some n) : ∀ c ∈ s, isDigit c = true := by
  rw [natural?] at h
  split at h
  · next hs => exact List.all_eq_true.1 (Bool.and_eq_true_iff.1 hs).2
  · cases h

/-- A number with a sign holds digits and signs only. -/
theorem isDigit_of_signed? {bound : Nat} {n : Int} (h : signed? bound s = some n) :
    ∀ c ∈ s, isDigit c = true ∨ c = '-' ∨ c = '+' := by
  have hdigits {digits : List Char} {fits : Nat → Bool} {m : Nat}
      (h : (natural? digits).filter fits = some m) :
      ∀ c ∈ digits, isDigit c = true ∨ c = '-' ∨ c = '+' :=
    fun c hc => .inl (isDigit_of_natural? (Option.filter_eq_some_iff.1 h).1 c hc)
  rw [signed?.eq_def] at h
  split at h <;> obtain ⟨m, hm, -⟩ := Option.map_eq_some_iff.1 h
  · obtain ⟨k, hk, -⟩ := Option.bind_eq_some_iff.1 hm
    exact List.forall_mem_cons.2 ⟨.inr (.inl rfl), hdigits hk⟩
  · exact List.forall_mem_cons.2 ⟨.inr (.inr rfl), hdigits hm⟩
  · exact hdigits hm

theorem bar_not_mem_of_int32? {n : Int32} (h : int32? s = some n) : '|' ∉ s := by
  obtain ⟨m, hm, -⟩ := Option.map_eq_some_iff.1 h
  intro hbar
  simpa [isDigit] using isDigit_of_signed? hm '|' hbar

end Number

/-! ## The three parts -/

namespace Location

/-- A text is a location written as `file|line|column`. -/
def Spells (text : String) (location : Location) : Prop :=
  ∃ line column : String, text = location.file ++ "|" ++ line ++ "|" ++ column ∧
    '|' ∉ location.file.toList ∧ Number.int32? line.toList = some location.line ∧
    Number.int32? column.toList = some location.column

variable {text : String} {location : Location}

theorem ofParts?_eq_some_iff {parts : List (List Char)} :
    ofParts? parts = some location ↔
      ∃ line column, parts = [location.file.toList, line, column] ∧
        Number.int32? line = some location.line ∧ Number.int32? column = some location.column := by
  constructor
  · intro h
    rw [ofParts?.eq_def] at h
    split at h
    · next file line column =>
        obtain ⟨l, hline, h⟩ := Option.bind_eq_some_iff.1 h
        obtain ⟨c, hcolumn, h⟩ := Option.bind_eq_some_iff.1 h
        cases h
        exact ⟨line, column, by rw [String.toList_ofList], hline, hcolumn⟩
    · cases h
  · rintro ⟨line, column, rfl, hline, hcolumn⟩
    simp [ofParts?, hline, hcolumn]

theorem spells_iff : Spells text location ↔ ofParts? (text.toList.splitOn '|') = some location := by
  rw [ofParts?_eq_some_iff]
  constructor
  · rintro ⟨line, column, rfl, hfile, hline, hcolumn⟩
    refine ⟨line.toList, column.toList, ?_, hline, hcolumn⟩
    have hjoin : (location.file ++ "|" ++ line ++ "|" ++ column).toList =
        ['|'].intercalate [location.file.toList, line.toList, column.toList] := by
      simp [List.intercalate]
    rw [hjoin, List.splitOn_intercalate '|' _ (List.cons_ne_nil _ _)]
    simp [hfile, Number.bar_not_mem_of_int32? hline, Number.bar_not_mem_of_int32? hcolumn]
  · rintro ⟨line, column, hparts, hline, hcolumn⟩
    have hfile : '|' ∉ location.file.toList :=
      not_mem_of_mem_splitOn (hparts ▸ List.mem_cons_self)
    have hjoin : text.toList = ['|'].intercalate [location.file.toList, line, column] := by
      rw [← hparts, List.intercalate_splitOn]
    refine ⟨String.ofList line, String.ofList column, ?_, hfile, ?_, ?_⟩
    · rw [← String.toList_inj, hjoin]
      simp [List.intercalate]
    · rwa [String.toList_ofList]
    · rwa [String.toList_ofList]

/-- A text is read as the location that it spells. -/
theorem decides_read (text : String) :
    Decides (read text) (Spells text)
      [fun cause => (∀ location, ¬ Spells text location) ∧ cause = .invalidLocation text] := by
  refine .ofOption (o := ofParts? (text.toList.splitOn '|')) (f := id)
    (fun _ h => by rw [read, h]; rfl) (fun h => by rw [read, h])
    (fun location => by simp [spells_iff]) fun cause => ?_
  simp [spells_iff, Option.eq_none_iff_forall_ne_some]

end Location

end TemplateTrace
