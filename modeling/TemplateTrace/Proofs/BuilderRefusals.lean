import TemplateTrace.Proofs.BuilderInvariant
import TemplateTrace.Proofs.TraceBrackets

/-!
# Going on after an event that is refused

Which events a builder refuses depends on what it refused before, since its stack does. The trace
alone decides it all the same: along any run the builder holds the stack of the outline
(`Follows.afterAll`), refusals or not, and that stack is empty exactly where everything begun is
closed. So an event is refused if and only if it is an idle end, and then the builder is what it
was.

Leaving the idle ends out can therefore change nothing. `replay_withoutIdle` goes through the
trace from its beginning, one event more at a time: an idle end adds nothing to either side, any
other event is taken by both, and a run over what is left meets no error at all.
-/

namespace TemplateTrace

/-- The events other than the ends that close nothing. -/
def withoutIdle (events : List Event) : List Event :=
  (events.zipIdx.filter fun p => ¬ Idle events p.2).map Prod.fst

variable {events before : List Event} {event : Event}

theorem withoutIdle_concat (events : List Event) (event : Event) :
    withoutIdle (events ++ [event]) =
      withoutIdle events ++ if Idle (events ++ [event]) events.length then [] else [event] := by
  have hearlier : (events.zipIdx.filter fun p => ¬ Idle (events ++ [event]) p.2) =
      events.zipIdx.filter fun p => ¬ Idle events p.2 := by
    refine List.filter_congr fun p hp => ?_
    have hlt := List.snd_lt_of_mem_zipIdx hp
    simp only [idle_append (by simpa using hlt)]
  rw [withoutIdle, List.zipIdx_append, List.filter_append, List.map_append, hearlier,
    ← withoutIdle]
  congr 1
  by_cases hidle : Idle (events ++ [event]) events.length
  · simp [hidle]
  · simp [hidle]

/-- A trace with an end too many in its middle. -/
def overclosed : List Event :=
  let begun context := Event.begins
    { kind := .templateInstantiation, context
      location := { file := "main.cpp", line := 1, column := 1 }, time := ⟨0⟩, memory := 0 }
  let done := Event.ends .templateInstantiation ⟨0⟩ 0
  [begun "a", begun "b", done, done, done, begun "b"]

example : withoutIdle overclosed = overclosed.eraseIdx 4 := by decide

namespace Builder

variable {b b' : Builder} {mode : Mode} {rootName result : String}

theorem handle_of_opened (h : b.opened ≠ []) (event : Event) :
    ∃ next, b.handle event = .ok next := by
  cases event with
  | begins i => exact ⟨_, rfl⟩
  | ends kind time memory =>
      obtain ⟨top, below, hop⟩ := List.exists_cons_of_ne_nil h
      obtain ⟨closed, hclose, -⟩ := close_of_cons kind hop
      exact ⟨closed, hclose⟩

theorem next_of_ok (h : b.handle event = .ok b') : b.next event = b' := by
  rw [next, h]

theorem next_of_error {error : TraceError} (h : b.handle event = .error error) :
    b.next event = b := by
  rw [next, h]

theorem afterAll_concat (b : Builder) (events : List Event) (event : Event) :
    b.afterAll (events ++ [event]) = (b.afterAll events).next event := by
  simp [afterAll]

/-- A run goes on with later events unless it has met an error. -/
theorem replay_append (b : Builder) (events more : List Event) :
    b.replay (events ++ more) =
      match b.replay events with
      | (b', none) => b'.replay more
      | (b', some error) => (b', some error) := by
  induction events generalizing b with
  | nil => rfl
  | cons event rest ih =>
      rw [List.cons_append, replay, replay]
      cases b.handle event with
      | ok next => exact ih next
      | error error => rfl

/-- A run that meets no error takes every event. -/
theorem afterAll_of_replay (h : b.replay events = (b', none)) : b.afterAll events = b' := by
  induction events generalizing b with
  | nil =>
      cases h
      rfl
  | cons event rest ih =>
      rw [replay] at h
      split at h
      · next next hnext =>
          have hrest := ih h
          rw [afterAll, List.foldl_cons, next_of_ok hnext]
          exact hrest
      · cases h

theorem afterAll_opened_eq_nil_iff {n : Nat} :
    ((new mode rootName result).afterAll (events.take n)).opened = [] ↔ AllClosed events n := by
  have hfollows := (follows_new mode rootName result).afterAll Outline.nested_empty (events.take n)
  rw [hfollows.opened, List.map_eq_nil_iff, ← opened_eq_nil_iff]
  rfl

/-- What a builder does with the next event: it refuses an idle end and takes all else. -/
theorem handle_afterAll (mode : Mode) (rootName result : String) {n : Nat}
    (h : events[n]? = some event) :
    if Idle events n
    then ((new mode rootName result).afterAll (events.take n)).handle event = .error .mismatched
    else ∃ next, ((new mode rootName result).afterAll (events.take n)).handle event = .ok next := by
  split
  · next hidle =>
      obtain ⟨kind, time, memory, hget⟩ := hidle.ends
      cases h.symm.trans hget
      exact close_of_nil kind (afterAll_opened_eq_nil_iff.2 hidle.all_closed)
  · next hidle =>
      cases event with
      | begins i => exact ⟨_, rfl⟩
      | ends kind time memory =>
          refine handle_of_opened (fun hnil => hidle ?_) _
          exact ⟨⟨kind, time, memory, h⟩, afterAll_opened_eq_nil_iff.1 hnil⟩

theorem replay_withoutIdle (events : List Event) (mode : Mode) (rootName result : String) :
    (new mode rootName result).replay (withoutIdle events) =
      ((new mode rootName result).afterAll events, none) := by
  induction events using List.reverseRecOn with
  | nil => rfl
  | append_singleton events event ih =>
      have hhandle := handle_afterAll mode rootName result
        (List.getElem?_concat_length (l := events) (a := event))
      rw [List.take_left] at hhandle
      rw [withoutIdle_concat, afterAll_concat]
      by_cases hidle : Idle (events ++ [event]) events.length
      · rw [if_pos hidle] at hhandle
        rw [if_pos hidle, List.append_nil, next_of_error hhandle, ih]
      · rw [if_neg hidle] at hhandle
        obtain ⟨next, hnext⟩ := hhandle
        rw [if_neg hidle, replay_append, ih, next_of_ok hnext]
        simp only [replay, hnext]

/-- Handed a trace event by event, a builder refuses the ends that come when everything begun is
closed, and no other event. A refusal leaves it as it was, and in the end it is the builder that
takes the trace without those ends and meets no error, so the two finish with the same result. -/
theorem refusals_leave_no_trace (events : List Event) (mode : Mode) (rootName result : String) :
    (∀ n event, events[n]? = some event →
      let b := (new mode rootName result).afterAll (events.take n)
      ((∃ error, b.handle event = .error error) ↔ Idle events n) ∧
        (Idle events n → b.replay [event] = (b, some .mismatched))) ∧
      (new mode rootName result).replay (withoutIdle events) =
        ((new mode rootName result).afterAll events, none) ∧
      ((new mode rootName result).afterAll events).finish =
        ((new mode rootName result).afterAll (withoutIdle events)).finish := by
  have hreplay := replay_withoutIdle events mode rootName result
  refine ⟨fun n event hevent => ?_, hreplay, by rw [afterAll_of_replay hreplay]⟩
  have hhandle := handle_afterAll mode rootName result hevent
  by_cases hidle : Idle events n
  · rw [if_pos hidle] at hhandle
    refine ⟨⟨fun _ => hidle, fun _ => ⟨_, hhandle⟩⟩, fun _ => ?_⟩
    rw [replay, hhandle]
  · rw [if_neg hidle] at hhandle
    obtain ⟨next, hnext⟩ := hhandle
    refine ⟨⟨?_, fun h => absurd h hidle⟩, fun h => absurd h hidle⟩
    rintro ⟨error, herror⟩
    rw [hnext] at herror
    cases herror

theorem refusals_leave_no_trace_overclosed :
    let b := (new .full "r" "t").afterAll (overclosed.take 4)
    overclosed[4]? = some (.ends .templateInstantiation ⟨0⟩ 0) ∧ Idle overclosed 4 ∧
      b.replay [.ends .templateInstantiation ⟨0⟩ 0] = (b, some .mismatched) := by
  have hidle : Idle overclosed 4 := by decide
  exact ⟨rfl, hidle, ((refusals_leave_no_trace overclosed .full "r" "t").1 4 _ rfl).2 hidle⟩

end Builder

end TemplateTrace
