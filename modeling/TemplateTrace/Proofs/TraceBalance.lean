import Mathlib.Data.List.Infix
import TemplateTrace.Proofs.BuilderGraph

/-!
# What the balance of a trace decides

Whether a metaprogram comes out of a trace, and which error if none does, hangs on two numbers
and on nothing else that the events hold: how many of the events so far are beginnings, and how
many are ends. An end too many is found where it comes, so a prefix with a surplus of ends wins
over everything that follows it, beginnings without an end included. That is `ofEvents_outcome`.

The same counts say which beginning an event lies directly inside. `Encloses` is that relation
between places in a trace: what stands between the two balances. It knows no stack, and
`Encloses.opened_eq` and `exists_encloses` tie it to the stack of the outline, the first because
balanced events leave a stack as it was (`Outline.opened_afterAll`), the second because what
came after a beginning that is still open has no surplus of ends (`Outline.exists_begin`).
-/

namespace TemplateTrace

variable {events more pre : List Event}

theorem beginCount_append (events more : List Event) :
    beginCount (events ++ more) = beginCount events + beginCount more :=
  List.countP_append

theorem endCount_append (events more : List Event) :
    endCount (events ++ more) = endCount events + endCount more :=
  List.countP_append

/-- Some prefix has more ends than beginnings. -/
def Surplus (events : List Event) : Prop :=
  ∃ pre, pre <+: events ∧ beginCount pre < endCount pre

theorem endCount_le_of_not_surplus (h : ¬ Surplus events) (hpre : pre <+: events) :
    endCount pre ≤ beginCount pre :=
  Nat.le_of_not_lt fun hlt => h ⟨pre, hpre, hlt⟩

theorem balanced_iff :
    Balanced events ↔ ¬ Surplus events ∧ beginCount events = endCount events := by
  constructor
  · rintro ⟨hnone, hall⟩
    refine ⟨fun ⟨pre, hpre, hlt⟩ => ?_, hall⟩
    have hle := hnone pre.length hpre.length_le
    rw [← List.prefix_iff_eq_take.1 hpre] at hle
    exact absurd hlt (Nat.not_lt.2 hle)
  · rintro ⟨hnone, hall⟩
    exact ⟨fun n _ => endCount_le_of_not_surplus hnone (List.take_prefix n events), hall⟩

/-! ## The outcome of building -/

namespace Builder

variable {b : Builder}

/-- A replay stops at the first end that is one too many. -/
theorem replay_eq_mismatched (hpre : pre <+: events)
    (h : b.opened.length + beginCount pre < endCount pre) :
    ∃ b', b.replay events = (b', some .mismatched) := by
  induction events generalizing b pre with
  | nil =>
      rw [List.prefix_nil.1 hpre] at h
      simp at h
  | cons event rest ih =>
      rcases List.prefix_cons_iff.1 hpre with rfl | ⟨pre, rfl, hrest⟩
      · simp at h
      · cases event with
        | begins i =>
            rw [beginCount_begins, endCount_begins] at h
            rw [Builder.replay, Builder.handle]
            refine ih hrest ?_
            rw [opened_length_begin]
            omega
        | ends kind time memory =>
            rw [beginCount_ends, endCount_ends] at h
            rw [Builder.replay, Builder.handle]
            cases hop : b.opened with
            | nil =>
                rw [close_of_nil kind hop]
                exact ⟨b, rfl⟩
            | cons top below =>
                obtain ⟨closed, hclose, hbelow⟩ := close_of_cons kind hop
                rw [hop, List.length_cons] at h
                rw [hclose]
                refine ih hrest ?_
                rw [hbelow]
                omega

end Builder

namespace Metaprogram

variable {mode : Mode} {rootName result : String}

theorem ofEvents_of_surplus (h : Surplus events) :
    ofEvents events mode rootName result = .error .mismatched := by
  obtain ⟨pre, hpre, hlt⟩ := h
  obtain ⟨b, hb⟩ := Builder.replay_eq_mismatched (b := Builder.new mode rootName result) hpre
    (by rw [show (Builder.new mode rootName result).opened = [] from rfl]; simpa using hlt)
  rw [ofEvents, build, hb]

theorem ofEvents_of_unended (h : ¬ Surplus events) (hmore : endCount events < beginCount events) :
    ofEvents events mode rootName result = .error .unterminated := by
  obtain ⟨b, hb, hopen⟩ := Builder.replay_eq_ok (b := Builder.new mode rootName result)
    fun n _ => Nat.le_trans (endCount_le_of_not_surplus h (List.take_prefix n events))
      (Nat.le_add_left _ _)
  have hleft : b.opened ≠ [] := by
    intro hnil
    rw [hnil, show (Builder.new mode rootName result).opened = [] from rfl] at hopen
    simp only [List.length_nil, Nat.zero_add] at hopen
    omega
  rw [ofEvents, build, hb]
  simp [Builder.finish, hleft]

/-- A trace is refused as mismatched if some prefix has a surplus of ends, else as unterminated
if beginnings are left over, and else it has a metaprogram. Kinds, contexts and the other things
that events hold have no part in it. -/
theorem ofEvents_outcome (events : List Event) (mode : Mode) (rootName result : String) :
    (ofEvents events mode rootName result = .error .mismatched ↔ Surplus events) ∧
      (ofEvents events mode rootName result = .error .unterminated ↔
        ¬ Surplus events ∧ endCount events < beginCount events) ∧
      ((∃ g, ofEvents events mode rootName result = .ok g) ↔
        ¬ Surplus events ∧ beginCount events ≤ endCount events) := by
  by_cases hsurplus : Surplus events
  · rw [ofEvents_of_surplus hsurplus]
    simp [hsurplus]
  · rcases Nat.lt_or_ge (endCount events) (beginCount events) with hmore | hle
    · rw [ofEvents_of_unended hsurplus hmore]
      simp [hsurplus, hmore]
    · have hall := Nat.le_antisymm hle
        (endCount_le_of_not_surplus hsurplus (List.prefix_refl events))
      rw [ofEvents_of_balanced (balanced_iff.2 ⟨hsurplus, hall⟩)]
      simp [hsurplus, hle]

end Metaprogram

/-! ## The beginning that an event lies directly inside -/

/-- The beginning at place `m` is the innermost one still open when the event at place `n`
comes: what was begun between them is ended, and nothing else is. -/
structure Encloses (events : List Event) (m n : Nat) : Prop where
  lt : m < n
  begins : ∃ i, events[m]? = some (.begins i)
  balanced : Balanced ((events.take n).drop (m + 1))

theorem not_surplus_nil : ¬ Surplus [] := by
  rintro ⟨pre, hpre, hlt⟩
  rw [List.prefix_nil.1 hpre] at hlt
  exact absurd hlt (Nat.lt_irrefl 0)

theorem not_surplus_concat {event : Event} (h : ¬ Surplus events)
    (hle : endCount (events ++ [event]) ≤ beginCount (events ++ [event])) :
    ¬ Surplus (events ++ [event]) := by
  rintro ⟨pre, hpre, hlt⟩
  rcases List.prefix_concat_iff.1 hpre with rfl | hpre
  · exact absurd hle (Nat.not_le.2 hlt)
  · exact h ⟨pre, hpre, hlt⟩

namespace Outline

variable {o : Outline} {above below : List (Nat × Instantiation)} {q : Nat × Instantiation}

theorem afterAll_append (o : Outline) (events more : List Event) :
    o.afterAll (events ++ more) = (o.afterAll events).afterAll more :=
  List.foldl_append

/-- Events of which no prefix ends more than it begins and `above` holds leave alone what lies
below. -/
theorem opened_afterAll (hopened : o.opened = above ++ below)
    (h : ∀ pre, pre <+: events → endCount pre ≤ above.length + beginCount pre) :
    ∃ left, (o.afterAll events).opened = left ++ below ∧
      left.length + endCount events = above.length + beginCount events := by
  induction events generalizing o above with
  | nil => exact ⟨above, hopened, rfl⟩
  | cons event rest ih =>
      have hlater : ∀ pre, pre <+: rest →
          endCount (event :: pre) ≤ above.length + beginCount (event :: pre) :=
        fun pre hpre => h _ (List.cons_prefix_cons.2 ⟨rfl, hpre⟩)
      cases event with
      | begins i =>
          simp only [beginCount_begins, endCount_begins] at hlater ⊢
          have hpushed : (o.after (.begins i)).opened =
              ((o.openings.length, i) :: above) ++ below := by
            rw [Outline.after, hopened]
            rfl
          obtain ⟨left, hleft, hlen⟩ := ih hpushed fun pre hpre => by
            have := hlater pre hpre
            rw [List.length_cons]
            omega
          rw [List.length_cons] at hlen
          exact ⟨left, hleft, by omega⟩
      | ends kind time memory =>
          simp only [beginCount_ends, endCount_ends] at hlater ⊢
          cases above with
          | nil => simpa using hlater [] List.nil_prefix
          | cons top above =>
              rw [List.length_cons] at hlater ⊢
              have hpopped : (o.after (.ends kind time memory)).opened = above ++ below := by
                rw [Outline.after, hopened]
                rfl
              obtain ⟨left, hleft, hlen⟩ := ih hpopped fun pre hpre => by
                have := hlater pre hpre
                omega
              exact ⟨left, hleft, by omega⟩

theorem opened_afterAll_of_balanced (o : Outline) (h : Balanced events) :
    (o.afterAll events).opened = o.opened := by
  obtain ⟨hnone, hall⟩ := balanced_iff.1 h
  obtain ⟨left, hleft, hlen⟩ := opened_afterAll (List.nil_append o.opened).symm
    fun pre hpre => Nat.le_trans (endCount_le_of_not_surplus hnone hpre) (Nat.le_add_left _ _)
  rw [hall, List.length_nil] at hlen
  rw [hleft, List.length_eq_zero_iff.1 (Nat.add_right_cancel hlen), List.nil_append]

/-- A beginning on the stack has come at some place, and what came after it has no surplus of
ends and leaves open what lies above it. -/
theorem exists_begin (h : (outline events).opened = above ++ q :: below) :
    ∃ before after, events = before ++ .begins q.2 :: after ∧ ¬ Surplus after ∧
      endCount after + above.length = beginCount after := by
  induction events using List.reverseRecOn generalizing above with
  | nil => simp [outline, Outline.afterAll] at h
  | append_singleton events event ih =>
      rw [outline, afterAll_append, ← outline] at h
      -- the last event puts a beginning on the stack or takes one off
      cases event with
      | begins i =>
          change ((outline events).openings.length, i) :: (outline events).opened = _ at h
          cases above with
          | nil =>
              injection h with hq _
              exact ⟨events, [], by rw [← hq], not_surplus_nil, rfl⟩
          | cons top above =>
              injection h with _ hbelow
              obtain ⟨before, after, hsplit, hnone, hcount⟩ := ih hbelow
              have hcount' : endCount (after ++ [.begins i]) + (top :: above).length =
                  beginCount (after ++ [.begins i]) := by
                simp [beginCount_append, endCount_append, ← hcount, Nat.add_assoc]
              exact ⟨before, after ++ [.begins i], by simp [hsplit],
                not_surplus_concat hnone (by omega), hcount'⟩
      | ends kind time memory =>
          change (outline events).opened.tail = _ at h
          cases hop : (outline events).opened with
          | nil => simp [hop] at h
          | cons top opened =>
              rw [hop, List.tail_cons] at h
              have hopened : (outline events).opened = (top :: above) ++ q :: below := by
                rw [hop, h]
                rfl
              obtain ⟨before, after, hsplit, hnone, hcount⟩ := ih hopened
              have hcount' : endCount (after ++ [.ends kind time memory]) + above.length =
                  beginCount (after ++ [.ends kind time memory]) := by
                simp [beginCount_append, endCount_append, ← hcount]
                omega
              exact ⟨before, after ++ [.ends kind time memory], by simp [hsplit],
                not_surplus_concat hnone (by omega), hcount'⟩

end Outline

variable {m n : Nat} {i : Instantiation}

theorem take_eq_of_begins (hm : events[m]? = some (.begins i)) (hmn : m < n) :
    events.take n = events.take m ++ .begins i :: (events.take n).drop (m + 1) := by
  obtain ⟨hlt, hget⟩ := List.getElem?_eq_some_iff.1 hm
  have hlt' : m < (events.take n).length := by
    rw [List.length_take]
    omega
  calc events.take n = (events.take n).take m ++ (events.take n).drop m :=
        (List.take_append_drop m _).symm
    _ = events.take m ++ .begins i :: (events.take n).drop (m + 1) := by
        rw [List.take_take, Nat.min_eq_left (Nat.le_of_lt hmn), List.drop_eq_getElem_cons hlt',
          List.getElem_take, hget]

/-- What encloses an event is on top of the stack when the event comes, on what was below it
when it came itself. -/
theorem Encloses.opened_eq (h : Encloses events m n) (hm : events[m]? = some (.begins i)) :
    (outline (events.take n)).opened =
      (beginCount (events.take m), i) :: (outline (events.take m)).opened := by
  rw [take_eq_of_begins hm h.lt, outline, Outline.afterAll_append, ← outline]
  change (((outline (events.take m)).after (.begins i)).afterAll _).opened = _
  rw [Outline.opened_afterAll_of_balanced _ h.balanced, Outline.after,
    length_openings_outline]

theorem exists_encloses {q : Nat × Instantiation} {below : List (Nat × Instantiation)}
    (h : (outline (events.take n)).opened = q :: below) : ∃ m, Encloses events m n := by
  obtain ⟨before, after, hsplit, hnone, hcount⟩ :=
    Outline.exists_begin (h.trans (List.nil_append _).symm)
  have hlt : before.length < n := by
    have hlen := congrArg List.length hsplit
    rw [List.length_take, List.length_append, List.length_cons] at hlen
    omega
  refine ⟨before.length, hlt, ⟨q.2, ?_⟩, ?_⟩
  · rw [← List.getElem?_take_of_lt hlt, hsplit]
    simp
  · rw [hsplit, List.drop_length_add_append, List.drop_succ_cons, List.drop_zero]
    exact balanced_iff.2 ⟨hnone, hcount.symm⟩

end TemplateTrace
