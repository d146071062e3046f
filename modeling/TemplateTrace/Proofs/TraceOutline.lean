import TemplateTrace.Trace.Event

/-!
# The outline of a trace

Beginnings and ends of a trace nest like brackets, so every beginning lies inside some that
were begun before it and not ended yet. The outline of a trace keeps that and nothing else of
the ends: the beginnings in order, each with those that it lies inside, and those that are
still open when the events are over. An end with nothing open changes nothing.

What the nesting says about an outline is one sentence, `Outline.Nested`: the beginnings that
one lies inside are what is left, after some ends, of those that were open right after the
beginning before it. Two consequences carry the arguments about walks. `Nested.openAt_eq`: a
beginning that is open has the same beginnings below it on the stack as when it came.
`Nested.not_inside_later`: once a beginning is closed, nothing later lies inside it.
-/

namespace TemplateTrace

def Event.isBegin : Event → Bool
  | .begins _ => true
  | .ends _ _ _ => false

def beginCount (events : List Event) : Nat := events.countP Event.isBegin

def endCount (events : List Event) : Nat := events.countP (!·.isBegin)

@[simp] theorem beginCount_nil : beginCount [] = 0 := rfl

@[simp] theorem endCount_nil : endCount [] = 0 := rfl

@[simp] theorem beginCount_begins (i : Instantiation) (rest : List Event) :
    beginCount (.begins i :: rest) = beginCount rest + 1 :=
  List.countP_cons_of_pos rfl

@[simp] theorem endCount_begins (i : Instantiation) (rest : List Event) :
    endCount (.begins i :: rest) = endCount rest :=
  List.countP_cons_of_neg (by simp [Event.isBegin])

@[simp] theorem beginCount_ends (kind : Kind) (time : Number.Binary64) (memory : UInt64)
    (rest : List Event) : beginCount (.ends kind time memory :: rest) = beginCount rest :=
  List.countP_cons_of_neg (by simp [Event.isBegin])

@[simp] theorem endCount_ends (kind : Kind) (time : Number.Binary64) (memory : UInt64)
    (rest : List Event) : endCount (.ends kind time memory :: rest) = endCount rest + 1 :=
  List.countP_cons_of_pos rfl

/-- Every beginning is ended and every end has a beginning before it. -/
structure Balanced (events : List Event) : Prop where
  no_surplus : ∀ n ≤ events.length, endCount (events.take n) ≤ beginCount (events.take n)
  all_ended : beginCount events = endCount events

/-- A small trace: `a` is begun again inside itself, and `b` once more when it is over. -/
def entwined : List Event :=
  let begun context := Event.begins
    { kind := .templateInstantiation, context
      location := { file := "main.cpp", line := 1, column := 1 }, time := ⟨0⟩, memory := 0 }
  let done := Event.ends .templateInstantiation ⟨0⟩ 0
  [begun "a", begun "b", begun "a", done, done, done, begun "c", begun "b", done, done]

theorem balanced_entwined : Balanced entwined := ⟨by decide, by decide⟩

/-- Another one: `b`, with `c` inside it, is begun inside `a`, and once more beside it. -/
def revisited : List Event :=
  let begun context := Event.begins
    { kind := .templateInstantiation, context
      location := { file := "main.cpp", line := 1, column := 1 }, time := ⟨0⟩, memory := 0 }
  let done := Event.ends .templateInstantiation ⟨0⟩ 0
  [begun "a", begun "b", begun "c", done, done, done, begun "b", done]

theorem balanced_revisited : Balanced revisited := ⟨by decide, by decide⟩

/-- A beginning of a trace. -/
structure Opening where
  instantiation : Instantiation
  /-- The beginnings that are open when it comes, the innermost first, with their numbers. -/
  inside : List (Nat × Instantiation)

def Opening.context (p : Opening) : String := p.instantiation.context

/-- The beginnings of a trace and how they nest. -/
structure Outline where
  /-- The beginnings in order; their numbers are their places in this list. -/
  openings : List Opening := []
  /-- The beginnings that are still open, the innermost first, with their numbers. -/
  opened : List (Nat × Instantiation) := []

/-- The outline after one more event. -/
def Outline.after (o : Outline) : Event → Outline
  | .begins i =>
      { openings := o.openings ++ [{ instantiation := i, inside := o.opened }]
        opened := (o.openings.length, i) :: o.opened }
  | .ends _ _ _ => { o with opened := o.opened.tail }

def Outline.afterAll (o : Outline) (events : List Event) : Outline :=
  events.foldl Outline.after o

/-- The outline of a trace. -/
def outline (events : List Event) : Outline := Outline.afterAll {} events

/-- The events up to and with the beginning that is the `n`-th, counted from one. -/
def throughBegin : Nat → List Event → List Event
  | 0, _ => []
  | _ + 1, [] => []
  | n + 1, .begins i :: rest => .begins i :: throughBegin n rest
  | n + 1, .ends kind time memory :: rest =>
      .ends kind time memory :: throughBegin (n + 1) rest

/-- The beginnings that are open right after the `n`-th beginning, counted from one; none
before the first. -/
def openAt (openings : List Opening) : Nat → List (Nat × Instantiation)
  | 0 => []
  | n + 1 => match openings[n]? with
    | some p => (n, p.instantiation) :: p.inside
    | none => []

theorem openAt_succ {openings : List Opening} {n : Nat} {p : Opening}
    (h : openings[n]? = some p) :
    openAt openings (n + 1) = (n, p.instantiation) :: p.inside := by
  rw [openAt, h]

theorem openAt_append {openings more : List Opening} {n : Nat} (h : n ≤ openings.length) :
    openAt (openings ++ more) n = openAt openings n := by
  cases n with
  | zero => rfl
  | succ n => rw [openAt, openAt, List.getElem?_append_left h]

namespace Outline

structure Nested (o : Outline) : Prop where
  inside : ∀ {n p}, o.openings[n]? = some p → p.inside <:+ openAt o.openings n
  opened : o.opened <:+ openAt o.openings o.openings.length

variable {o : Outline} {n k : Nat} {p : Opening}

theorem Nested.after (h : o.Nested) (event : Event) : (o.after event).Nested := by
  cases event with
  | begins i =>
      constructor
      · intro n p hp
        rw [Outline.after] at hp ⊢
        rcases Nat.lt_trichotomy n o.openings.length with hn | hn | hn
        · rw [List.getElem?_append_left hn] at hp
          rw [openAt_append (Nat.le_of_lt hn)]
          exact h.inside hp
        · subst hn
          rw [List.getElem?_concat_length] at hp
          cases hp
          rw [openAt_append (Nat.le_refl _)]
          exact h.opened
        · rw [List.getElem?_eq_none (by simpa using Nat.succ_le_of_lt hn)] at hp
          cases hp
      · rw [Outline.after]
        simp [openAt]
  | ends kind time memory =>
      exact ⟨h.inside, (List.tail_suffix _).trans h.opened⟩

theorem Nested.afterAll (h : o.Nested) (events : List Event) : (o.afterAll events).Nested := by
  induction events generalizing o with
  | nil => exact h
  | cons event rest ih => exact ih (h.after event)

theorem nested_empty : Nested {} :=
  ⟨fun h => by simp at h, List.suffix_refl _⟩

theorem nested_outline (events : List Event) : (outline events).Nested :=
  nested_empty.afterAll events

/-- A beginning that is open at some time has the same ones below it on the stack as when it
came, and came before that time. -/
theorem Nested.openAt_eq (h : o.Nested) {i : Instantiation} {below : List (Nat × Instantiation)}
    (hs : (n, i) :: below <:+ openAt o.openings k) :
    openAt o.openings (n + 1) = (n, i) :: below ∧ n < k := by
  induction k with
  | zero => simp [openAt] at hs
  | succ k ih =>
      cases hp : o.openings[k]? with
      | none => simp [openAt, hp] at hs
      | some p =>
          rw [openAt_succ hp] at hs
          rcases List.suffix_cons_iff.1 hs with heq | hin
          · injection heq with hhead hbelow
            injection hhead with hn hi
            subst hn
            rw [openAt_succ hp, hi, hbelow]
            exact ⟨rfl, Nat.lt_succ_self _⟩
          · obtain ⟨heq, hlt⟩ := ih (hin.trans (h.inside hp))
            exact ⟨heq, Nat.lt_succ_of_lt hlt⟩

theorem Nested.openAt_of_mem (h : o.Nested) {q : Nat × Instantiation}
    (hq : q ∈ openAt o.openings k) :
    q.1 < k ∧ ∃ below, openAt o.openings (q.1 + 1) = q :: below := by
  obtain ⟨above, below, hsplit⟩ := List.append_of_mem hq
  obtain ⟨heq, hlt⟩ := h.openAt_eq (i := q.2) ⟨above, hsplit.symm⟩
  exact ⟨hlt, below, heq⟩

theorem Nested.mem_openings (h : o.Nested) {q : Nat × Instantiation}
    (hq : q ∈ openAt o.openings k) :
    ∃ p, o.openings[q.1]? = some p ∧ p.instantiation = q.2 := by
  obtain ⟨-, below, heq⟩ := h.openAt_of_mem hq
  cases hp : o.openings[q.1]? with
  | none => simp [openAt, hp] at heq
  | some p =>
      rw [openAt_succ hp] at heq
      injection heq with hhead
      exact ⟨p, rfl, congrArg Prod.snd hhead⟩

/-- Once a beginning is closed, nothing that comes later lies inside it. -/
theorem Nested.not_inside_later (h : o.Nested) {m : Nat} (hnk : n < k)
    (hclosed : ∀ q ∈ openAt o.openings k, q.1 ≠ n) (hkm : k ≤ m) :
    ∀ q ∈ openAt o.openings m, q.1 ≠ n := by
  induction hkm with
  | refl => exact hclosed
  | @step m hkm ih =>
      intro q hq
      cases hp : o.openings[m]? with
      | none => simp [openAt, hp] at hq
      | some p =>
          rw [openAt_succ hp] at hq
          rcases List.mem_cons.1 hq with rfl | hin
          · exact Nat.ne_of_gt (Nat.lt_of_lt_of_le hnk hkm)
          · exact ih q ((h.inside hp).subset hin)

/-! ## Outlines of more and more events -/

theorem openings_afterAll (o : Outline) (events : List Event) :
    o.openings <+: (o.afterAll events).openings := by
  induction events generalizing o with
  | nil => exact List.prefix_refl _
  | cons event rest ih =>
      refine List.IsPrefix.trans ?_ (ih (o.after event))
      cases event with
      | begins i => exact List.prefix_append _ _
      | ends kind time memory => exact List.prefix_refl _

theorem length_openings_begins (o : Outline) (i : Instantiation) :
    (o.after (.begins i)).openings.length = o.openings.length + 1 := by
  rw [Outline.after, List.length_append, List.length_singleton]

theorem length_openings_afterAll (o : Outline) (events : List Event) :
    (o.afterAll events).openings.length = o.openings.length + beginCount events := by
  induction events generalizing o with
  | nil => rfl
  | cons event rest ih =>
      have hrest := ih (o.after event)
      cases event with
      | begins i =>
          rw [length_openings_begins, Nat.add_assoc, Nat.add_comm 1] at hrest
          rw [beginCount_begins]
          exact hrest
      | ends kind time memory =>
          rw [beginCount_ends]
          exact hrest

theorem opened_throughBegin (o : Outline) (events : List Event)
    (hn : n < beginCount events) :
    (o.afterAll (throughBegin (n + 1) events)).opened =
      openAt (o.afterAll events).openings (o.openings.length + n + 1) := by
  induction events generalizing o n with
  | nil => exact absurd hn (Nat.not_lt_zero _)
  | cons event rest ih =>
      cases event with
      | begins i =>
          rw [beginCount_begins] at hn
          cases n with
          | zero =>
              have hpre := openings_afterAll (o.after (.begins i)) rest
              obtain ⟨more, hmore⟩ := hpre
              have hget : (o.afterAll (.begins i :: rest)).openings[o.openings.length]? =
                  some { instantiation := i, inside := o.opened } := by
                show ((o.after (.begins i)).afterAll rest).openings[_]? = _
                rw [← hmore, Outline.after]
                simp
              rw [Nat.add_zero, openAt_succ hget, throughBegin, throughBegin]
              rfl
          | succ n =>
              have hrest := ih (o.after (.begins i)) (n := n) (by omega)
              rw [length_openings_begins, Nat.add_assoc o.openings.length 1 n,
                Nat.add_comm 1 n] at hrest
              exact hrest
      | ends kind time memory =>
          rw [beginCount_ends] at hn
          exact ih (o.after (.ends kind time memory)) hn

end Outline

theorem length_openings_outline (events : List Event) :
    (outline events).openings.length = beginCount events := by
  rw [outline, Outline.length_openings_afterAll]
  simp

/-- The outline of a trace up to its `n`-th beginning has those open that the outline of the
whole trace says. -/
theorem opened_outline_throughBegin {events : List Event} {n : Nat}
    (hn : n ≤ beginCount events) :
    (outline (throughBegin n events)).opened = openAt (outline events).openings n := by
  cases n with
  | zero =>
      rw [throughBegin]
      rfl
  | succ n =>
      have h := Outline.opened_throughBegin {} events (n := n) hn
      rw [show Outline.openings {} = [] from rfl, List.length_nil, Nat.zero_add] at h
      exact h

end TemplateTrace
