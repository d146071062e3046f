import Mathlib.Data.List.Forall2

/-!
# Judging part by part

Something that is read part by part is judged by a list of checks, each given by the errors that
it may raise. The first check that raises one decides, whatever those after it would say. `Decides`
says of a computation which values it has and which errors, and it is put together as the
computation is: a part that is read before others adds its check before theirs, `Decides.bind`, and
a list of things has one check for each of them, `Decides.mapM`.
-/

namespace TemplateTrace

variable {α β ε : Type}

/-- The first member of a list with a property. -/
def FirstIn (p : α → Prop) (items : List α) (a : α) : Prop :=
  ∃ before after, items = before ++ a :: after ∧ p a ∧ ∀ b ∈ before, ¬ p b

theorem not_firstIn_nil {p : α → Prop} {a : α} : ¬ FirstIn p [] a := by
  rintro ⟨before, after, h, -⟩
  cases before <;> cases h

theorem firstIn_cons {p : α → Prop} {b a : α} {items : List α} :
    FirstIn p (b :: items) a ↔ p b ∧ a = b ∨ ¬ p b ∧ FirstIn p items a := by
  constructor
  · rintro ⟨before, after, h, ha, hbefore⟩
    cases before with
    | nil =>
        cases h
        exact .inl ⟨ha, rfl⟩
    | cons c before =>
        cases h
        obtain ⟨hb, hbefore⟩ := List.forall_mem_cons.1 hbefore
        exact .inr ⟨hb, before, after, rfl, ha, hbefore⟩
  · rintro (⟨hb, rfl⟩ | ⟨hb, before, after, rfl, ha, hbefore⟩)
    · exact ⟨[], items, rfl, hb, fun _ h => absurd h List.not_mem_nil⟩
    · exact ⟨b :: before, after, rfl, ha, List.forall_mem_cons.2 ⟨hb, hbefore⟩⟩

theorem find?_eq_some_iff_firstIn {p : α → Bool} {items : List α} {a : α} :
    items.find? p = some a ↔ FirstIn (p · = true) items a := by
  rw [List.find?_eq_some_iff_append]
  constructor
  · rintro ⟨ha, before, after, rfl, hbefore⟩
    exact ⟨before, after, rfl, ha, fun b hb => by simpa using hbefore b hb⟩
  · rintro ⟨before, after, rfl, ha, hbefore⟩
    exact ⟨ha, before, after, rfl, fun b hb => by simpa using hbefore b hb⟩

/-- The error of the first of the checks that raise one. -/
def FirstFault (checks : List (ε → Prop)) (err : ε) : Prop :=
  ∃ check, FirstIn (fun check => ∃ other, check other) checks check ∧ check err

theorem not_firstFault_nil {err : ε} : ¬ FirstFault [] err := fun ⟨_, h, _⟩ => not_firstIn_nil h

theorem firstFault_cons {check : ε → Prop} {checks : List (ε → Prop)} {err : ε} :
    FirstFault (check :: checks) err ↔
      check err ∨ (∀ other, ¬ check other) ∧ FirstFault checks err := by
  simp only [FirstFault, firstIn_cons, not_exists]
  constructor
  · rintro ⟨c, ⟨-, rfl⟩ | ⟨hnone, hfirst⟩, hc⟩
    · exact .inl hc
    · exact .inr ⟨hnone, c, hfirst, hc⟩
  · rintro (h | ⟨hnone, c, hfirst, hc⟩)
    · exact ⟨check, .inl ⟨⟨err, h⟩, rfl⟩, h⟩
    · exact ⟨c, .inr ⟨hnone, hfirst⟩, hc⟩

theorem firstFault_singleton {check : ε → Prop} {err : ε} : FirstFault [check] err ↔ check err := by
  rw [firstFault_cons, or_iff_left fun h => not_firstFault_nil h.2]

theorem firstFault_append {checks later : List (ε → Prop)} {err : ε} :
    FirstFault (checks ++ later) err ↔
      FirstFault checks err ∨ (∀ other, ¬ FirstFault checks other) ∧ FirstFault later err := by
  induction checks with
  | nil => simp [not_firstFault_nil]
  | cons check checks ih =>
      simp only [List.cons_append, firstFault_cons, ih, not_or, forall_and]
      by_cases hnone : ∀ other, ¬ check other
      · simp [hnone]
      · simp only [hnone, false_and, or_false]

/-- A computation has the values that are right, and the error of the first check that raises
one. -/
structure Decides (r : Except ε α) (Right : α → Prop) (checks : List (ε → Prop)) : Prop where
  ok_iff : ∀ a, r = .ok a ↔ Right a
  error_iff : ∀ err, r = .error err ↔ FirstFault checks err

namespace Decides

variable {r : Except ε α} {Right : α → Prop} {checks later : List (ε → Prop)} {Wrong : ε → Prop}

/-- What is said of a value that is right is said of the only one. -/
theorem exists_iff (h : Decides r Right checks) {a : α} (ha : Right a) {p : α → Prop} :
    (∃ b, Right b ∧ p b) ↔ p a := by
  have hr : r = .ok a := (h.ok_iff a).2 ha
  simp [← h.ok_iff, hr]

theorem congr (h : Decides r Right checks) {Right' : α → Prop} (hright : ∀ a, Right' a ↔ Right a) :
    Decides r Right' checks :=
  ⟨fun a => (h.ok_iff a).trans (hright a).symm, h.error_iff⟩

/-- There is a value exactly if no check raises an error. -/
theorem exists_right_iff (h : Decides r Right checks) :
    (∃ a, Right a) ↔ ∀ err, ¬ FirstFault checks err := by
  simp only [← h.ok_iff, ← h.error_iff]
  cases r <;> simp

theorem ok (a : α) : Decides (.ok a : Except ε α) (a = ·) [] :=
  ⟨fun _ => by rw [Except.ok.injEq], fun _ => by simp [not_firstFault_nil]⟩

theorem error {x : ε} (h : ∀ a, ¬ Right a) : Decides (.error x) Right [(· = x)] where
  ok_iff a := by simp [h a]
  error_iff err := by rw [firstFault_singleton, Except.error.injEq, eq_comm]

/-- A part that may be missing. -/
theorem ofOption {o : Option β} {f : β → α} {x : ε} (hsome : ∀ b, o = some b → r = .ok (f b))
    (hnone : o = none → r = .error x) (hright : ∀ a, Right a ↔ ∃ b, o = some b ∧ f b = a)
    (hwrong : ∀ err, Wrong err ↔ o = none ∧ err = x) : Decides r Right [Wrong] where
  ok_iff a := by
    rw [hright]
    cases h : o with
    | none => simp [hnone h]
    | some b => simp [hsome b h]
  error_iff err := by
    rw [firstFault_singleton, hwrong]
    cases h : o with
    | none => simp [hnone h, eq_comm]
    | some b => simp [hsome b h]

/-- A part that is read first is checked first. -/
theorem bind {f : α → Except ε β} {Rest : α → β → Prop} (h : Decides r Right checks)
    (hf : ∀ a, Right a → Decides (f a) (Rest a) later) :
    Decides (r >>= f) (fun b => ∃ a, Right a ∧ Rest a b) (checks ++ later) where
  ok_iff b := by
    have hok : r >>= f = .ok b ↔ ∃ a, r = .ok a ∧ f a = .ok b := by
      cases r <;> simp [Bind.bind, Except.bind]
    rw [hok]
    exact exists_congr fun a =>
      (and_congr_left' (h.ok_iff a)).trans (and_congr_right fun ha => (hf a ha).ok_iff b)
  error_iff err := by
    have herror : r >>= f = .error err ↔ r = .error err ∨ ∃ a, r = .ok a ∧ f a = .error err := by
      cases r <;> simp [Bind.bind, Except.bind]
    have hlater : (∃ a, r = .ok a ∧ f a = .error err) ↔ (∃ a, Right a) ∧ FirstFault later err := by
      rw [← exists_and_right]
      exact exists_congr fun a =>
        (and_congr_left' (h.ok_iff a)).trans (and_congr_right fun ha => (hf a ha).error_iff err)
    rw [herror, hlater, h.error_iff, h.exists_right_iff, firstFault_append]

theorem map (h : Decides r Right checks) (f : α → β) :
    Decides (f <$> r) (fun b => ∃ a, Right a ∧ f a = b) checks where
  ok_iff b := by
    simp only [← h.ok_iff]
    cases r <;> simp [Functor.map, Except.map]
  error_iff err := by
    rw [← h.error_iff]
    cases r <;> simp [Functor.map, Except.map]

/-- An error that is reported as part of another. -/
theorem mapError {δ : Type} {f : ε → δ} {Reported : δ → Prop} (h : Decides r Right [Wrong])
    (hreported : ∀ err, Reported err ↔ ∃ cause, Wrong cause ∧ f cause = err) :
    Decides (r.mapError f) Right [Reported] where
  ok_iff a := by
    rw [← h.ok_iff]
    cases r <;> simp [Except.mapError]
  error_iff err := by
    have hwrong : ∀ cause, Wrong cause ↔ r = .error cause := fun cause =>
      firstFault_singleton.symm.trans (h.error_iff cause).symm
    rw [firstFault_singleton, hreported]
    simp only [hwrong]
    cases r <;> simp [Except.mapError]

/-- Things that are read one after the other are checked one after the other. -/
theorem mapM {f : α → Except ε β} {Right : α → β → Prop} {checks : α → List (ε → Prop)}
    (h : ∀ a, Decides (f a) (Right a) (checks a)) (items : List α) :
    Decides (items.mapM f) (List.Forall₂ Right items) (items.flatMap checks) := by
  induction items with
  | nil =>
      rw [List.mapM_nil]
      exact (ok []).congr fun bs => by simp [eq_comm]
  | cons a items ih =>
      rw [List.mapM_cons, List.flatMap_cons]
      simp only [bind_pure_comp]
      refine ((h a).bind fun b _ => ih.map (b :: ·)).congr fun bs => ?_
      rw [List.forall₂_cons_left_iff]
      simp only [← exists_and_left, eq_comm (b := bs)]

end Decides

end TemplateTrace
