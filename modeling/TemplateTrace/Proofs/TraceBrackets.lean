import Mathlib.Tactic.MkIffOfInductiveProp
import TemplateTrace.Proofs.TraceBalance

/-!
# Which end closes which beginning

Ends carry no name, so which beginning one of them closes is a matter of balance alone: it is the
beginning that the end lies directly inside (`Closes`). An end closes at most one beginning,
`Encloses.unique`, and one that closes none comes when everything begun before it is closed
(`Idle`). What comes later in the trace has no say in either.

The stack of the outline answers the same two questions. A beginning leaves it only when it is on
top and an end comes, and `Encloses.opened_eq` says which beginning is on top, so as long as
nothing closes a beginning it stays there (`mem_opened`). The other way around, what encloses a
place is closed at none before it, for else the events between the two would have an end too many
(`Encloses.not_closes`). Together: the stack is empty exactly where an end would be idle,
`opened_eq_nil_iff`.
-/

namespace TemplateTrace

/-- The end at place `n` closes the beginning at place `m`. -/
@[mk_iff]
structure Closes (events : List Event) (m n : Nat) : Prop where
  encloses : Encloses events m n
  ends : ∃ kind time memory, events[n]? = some (.ends kind time memory)

/-- Every beginning before place `n` is closed before it. -/
def AllClosed (events : List Event) (n : Nat) : Prop :=
  ∀ m < n, (∃ i, events[m]? = some (.begins i)) → ∃ k < n, Closes events m k

/-- The event at place `n` is an end, and every beginning before it is closed already. -/
@[mk_iff]
structure Idle (events : List Event) (n : Nat) : Prop where
  ends : ∃ kind time memory, events[n]? = some (.ends kind time memory)
  all_closed : AllClosed events n

variable {events more : List Event} {m n k : Nat} {i : Instantiation} {event : Event}

/-! ## Deciding -/

theorem exists_begins_iff :
    (∃ i, events[n]? = some (.begins i)) ↔ events[n]?.any Event.isBegin = true := by
  rcases events[n]? with _ | _ | _ <;> simp [Event.isBegin]

theorem exists_ends_iff :
    (∃ kind time memory, events[n]? = some (.ends kind time memory)) ↔
      events[n]?.any (!·.isBegin) = true := by
  rcases events[n]? with _ | _ | _ <;> simp [Event.isBegin]

instance : Decidable (∃ i, events[n]? = some (.begins i)) :=
  decidable_of_iff _ exists_begins_iff.symm

instance : Decidable (∃ kind time memory, events[n]? = some (.ends kind time memory)) :=
  decidable_of_iff _ exists_ends_iff.symm

instance : Decidable (Surplus events) :=
  decidable_of_iff (∃ pre ∈ events.inits, beginCount pre < endCount pre) (by simp [Surplus])

instance : Decidable (Balanced events) :=
  decidable_of_iff
    ((∀ n ≤ events.length, endCount (events.take n) ≤ beginCount (events.take n)) ∧
      beginCount events = endCount events)
    ⟨fun ⟨hnone, hall⟩ => ⟨hnone, hall⟩, fun ⟨hnone, hall⟩ => ⟨hnone, hall⟩⟩

instance : Decidable (Encloses events m n) :=
  decidable_of_iff
    (m < n ∧ (∃ i, events[m]? = some (.begins i)) ∧ Balanced ((events.take n).drop (m + 1)))
    ⟨fun ⟨hlt, hbegins, hbalanced⟩ => ⟨hlt, hbegins, hbalanced⟩,
      fun ⟨hlt, hbegins, hbalanced⟩ => ⟨hlt, hbegins, hbalanced⟩⟩

instance : Decidable (Closes events m n) := decidable_of_iff' _ (closes_iff events m n)

instance : Decidable (AllClosed events n) := inferInstanceAs (Decidable (∀ m < n, _ → _))

instance : Decidable (Idle events n) := decidable_of_iff' _ (idle_iff events n)

/-! ## Places of a longer trace -/

theorem encloses_append (hn : n ≤ events.length) :
    Encloses (events ++ more) m n ↔ Encloses events m n := by
  have htake : (events ++ more).take n = events.take n := List.take_append_of_le_length hn
  constructor
  · rintro ⟨hlt, hbegins, hbalanced⟩
    rw [List.getElem?_append_left (by omega)] at hbegins
    rw [htake] at hbalanced
    exact ⟨hlt, hbegins, hbalanced⟩
  · rintro ⟨hlt, hbegins, hbalanced⟩
    refine ⟨hlt, ?_, ?_⟩
    · rwa [List.getElem?_append_left (by omega)]
    · rwa [htake]

theorem closes_append (hn : n < events.length) :
    Closes (events ++ more) m n ↔ Closes events m n := by
  have hget : (events ++ more)[n]? = events[n]? := List.getElem?_append_left hn
  constructor
  · rintro ⟨henc, hends⟩
    exact ⟨(encloses_append (Nat.le_of_lt hn)).1 henc, hget ▸ hends⟩
  · rintro ⟨henc, hends⟩
    exact ⟨(encloses_append (Nat.le_of_lt hn)).2 henc, hget ▸ hends⟩

theorem allClosed_append (hn : n ≤ events.length) :
    AllClosed (events ++ more) n ↔ AllClosed events n := by
  refine forall₂_congr fun m hm => ?_
  rw [List.getElem?_append_left (by omega)]
  refine imp_congr_right fun _ => exists_congr fun k => and_congr_right fun hk => ?_
  exact closes_append (by omega)

theorem idle_append (hn : n < events.length) : Idle (events ++ more) n ↔ Idle events n := by
  have hget : (events ++ more)[n]? = events[n]? := List.getElem?_append_left hn
  have hclosed : AllClosed (events ++ more) n ↔ AllClosed events n :=
    allClosed_append (Nat.le_of_lt hn)
  constructor
  · rintro ⟨hends, hall⟩
    exact ⟨hget ▸ hends, hclosed.1 hall⟩
  · rintro ⟨hends, hall⟩
    exact ⟨hget ▸ hends, hclosed.2 hall⟩

/-! ## One beginning for each end -/

theorem beginCount_take_lt (hm : events[m]? = some (.begins i)) (hmn : m < n) :
    beginCount (events.take m) < beginCount (events.take n) := by
  rw [take_eq_of_begins hm hmn, beginCount_append, beginCount_begins]
  omega

theorem beginCount_take_inj {j : Instantiation} (hm : events[m]? = some (.begins i))
    (hn : events[n]? = some (.begins j))
    (h : beginCount (events.take m) = beginCount (events.take n)) : m = n := by
  rcases Nat.lt_trichotomy m n with hlt | heq | hlt
  · have := beginCount_take_lt hm hlt
    omega
  · exact heq
  · have := beginCount_take_lt hn hlt
    omega

/-- What is on top of the stack is the beginning that encloses the next event. -/
theorem exists_encloses_top {q : Nat × Instantiation} {below : List (Nat × Instantiation)}
    (h : (outline (events.take n)).opened = q :: below) :
    ∃ m, Encloses events m n ∧ events[m]? = some (.begins q.2) ∧
      beginCount (events.take m) = q.1 := by
  obtain ⟨m, henc⟩ := exists_encloses h
  obtain ⟨i, hi⟩ := henc.begins
  have htop := h.symm.trans (henc.opened_eq hi)
  injection htop with hhead _
  subst hhead
  exact ⟨m, henc, hi, rfl⟩

theorem Encloses.unique (h : Encloses events m n) (h' : Encloses events k n) : m = k := by
  obtain ⟨i, hi⟩ := h.begins
  obtain ⟨j, hj⟩ := h'.begins
  have htop := (h.opened_eq hi).symm.trans (h'.opened_eq hj)
  injection htop with hhead _
  injection hhead with hcount _
  exact beginCount_take_inj hi hj hcount

/-- What encloses a place is not closed before it. -/
theorem Encloses.not_closes (h : Encloses events m n) (hk : k < n) : ¬ Closes events m k := by
  intro hcloses
  obtain ⟨kind, time, memory, hget⟩ := hcloses.ends
  have hmk := hcloses.encloses.lt
  have hinside := hcloses.encloses.balanced
  -- the events inside, and the end after them, are the beginning of what `n` has before it
  have hsplit : ((events.take n).drop (m + 1)).take (k - m) =
      (events.take k).drop (m + 1) ++ [.ends kind time memory] := by
    have hlast : (events.drop (m + 1))[k - (m + 1)]? = some (.ends kind time memory) := by
      rw [List.getElem?_drop, Nat.add_sub_cancel' hmk, hget]
    rw [List.drop_take, List.drop_take, List.take_take, Nat.min_eq_left (by omega),
      show k - m = k - (m + 1) + 1 by omega, List.take_add_one, hlast]
    rfl
  have hlen : k - m ≤ ((events.take n).drop (m + 1)).length := by
    have hlt := (List.getElem?_eq_some_iff.1 hget).1
    rw [List.length_drop, List.length_take]
    omega
  have hle := h.balanced.no_surplus (k - m) hlen
  rw [hsplit, beginCount_append, endCount_append, hinside.all_ended] at hle
  simp only [beginCount_ends, endCount_ends, beginCount_nil, endCount_nil] at hle
  omega

/-! ## The stack of the outline -/

theorem outline_concat (events : List Event) (event : Event) :
    outline (events ++ [event]) = (outline events).after event := by
  rw [outline, Outline.afterAll_append, ← outline]
  rfl

theorem outline_take_succ (h : events[n]? = some event) :
    outline (events.take (n + 1)) = (outline (events.take n)).after event := by
  rw [List.take_add_one, h, Option.toList_some, outline_concat]

/-- A beginning that nothing closes stays open. -/
theorem mem_opened (hm : events[m]? = some (.begins i)) (hmn : m < n)
    (hopen : ∀ k < n, ¬ Closes events m k) :
    (beginCount (events.take m), i) ∈ (outline (events.take n)).opened := by
  induction n, Nat.succ_le_of_lt hmn using Nat.le_induction with
  | base =>
      rw [outline_take_succ hm, Outline.after, length_openings_outline]
      exact List.mem_cons_self
  | succ n hle ih =>
      have hmem := ih hle fun k hk => hopen k (Nat.lt_succ_of_lt hk)
      cases hget : events[n]? with
      | none =>
          rw [List.take_add_one, hget, Option.toList_none, List.append_nil]
          exact hmem
      | some event =>
          rw [outline_take_succ hget]
          cases event with
          | begins j => exact List.mem_cons_of_mem _ hmem
          | ends kind time memory =>
              show _ ∈ (outline (events.take n)).opened.tail
              cases hop : (outline (events.take n)).opened with
              | nil => simp [hop] at hmem
              | cons top below =>
                  rw [hop] at hmem
                  rcases List.mem_cons.1 hmem with rfl | hbelow
                  · -- on top is what the end closes
                    obtain ⟨m', henc, hm', hcount⟩ := exists_encloses_top hop
                    obtain rfl := beginCount_take_inj hm' hm hcount
                    exact absurd ⟨henc, kind, time, memory, hget⟩
                      (hopen n (Nat.lt_succ_self n))
                  · exact hbelow

theorem opened_eq_nil_iff : (outline (events.take n)).opened = [] ↔ AllClosed events n := by
  constructor
  · rintro hnil m hmn ⟨i, hm⟩
    by_contra hnone
    have hmem := mem_opened hm hmn fun k hk hcloses => hnone ⟨k, hk, hcloses⟩
    rw [hnil] at hmem
    exact List.not_mem_nil hmem
  · intro hall
    cases hop : (outline (events.take n)).opened with
    | nil => rfl
    | cons top below =>
        obtain ⟨m, henc⟩ := exists_encloses hop
        obtain ⟨k, hk, hcloses⟩ := hall m henc.lt henc.begins
        exact absurd hcloses (henc.not_closes hk)

end TemplateTrace
