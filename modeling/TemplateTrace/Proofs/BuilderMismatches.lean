import Mathlib.Data.List.Sort
import TemplateTrace.Proofs.BuilderRefusals

/-!
# What ends have a say in

An end closes what is innermost, whatever it says of itself. Two things come from that.

The graph does not depend on what ends hold, nor on the mode. Two builders that are handed traces
with the same beginnings and ends in the same places stay `Alike`: they have the same vertices,
edges, stack and contexts, and refuse the same events. The notes about mismatches, the mode and
the result are all that `Alike` leaves out, and no step looks at any of them.

The notes are about ends, one for each end that closes a beginning of another kind. The kind to
compare with is that of the beginning which the end closes, and not of the vertex, which others
may share, so `Mismatch` says it by the balance of the events between the two. `mismatch_iff` reads
the same note off the top of the outline's stack, where the builder takes it from; an end closes
one beginning only (`Encloses.unique`), so there is no second note about it. `replay_mismatches` goes through a run with it: an event that comes after an end too many is heard
by nobody, any other adds its note at the end.
-/

namespace TemplateTrace

/-- What an event begins; of an end, nothing. -/
def Event.begun? : Event → Option Instantiation
  | .begins i => some i
  | .ends _ _ _ => none

/-- The event at place `n` is an end and closes a beginning of another kind. -/
inductive Mismatch (events : List Event) (n : Nat) : KindMismatch → Prop
  | of_closes {m i kind time memory} (closes : Closes events m n)
      (begins : events[m]? = some (.begins i)) (ends : events[n]? = some (.ends kind time memory))
      (differ : i.kind ≠ kind) :
      Mismatch events n { closedAs := kind, context := i.context, openedAs := i.kind }

variable {events events' : List Event} {event event' : Event} {n : Nat} {note : KindMismatch}
  {mode : Mode} {rootName result : String}

/-! ## Builders that differ in notes, mode and result only -/

namespace Builder

structure Alike (b b' : Builder) : Prop where
  vertices : b.program.vertices = b'.program.vertices
  edges : b.program.edges = b'.program.edges
  opened : b.opened = b'.opened
  contexts : b.contexts = b'.contexts

variable {b b' : Builder}

theorem alike_new (mode mode' : Mode) (rootName result : String) :
    (new mode rootName result).Alike (new mode' rootName result) :=
  ⟨rfl, rfl, rfl, rfl⟩

theorem Alike.begin (h : b.Alike b') (i : Instantiation) : (b.begin i).Alike (b'.begin i) := by
  obtain ⟨⟨vertices, edges, mode, result⟩, opened, contexts, mismatches⟩ := b
  obtain ⟨⟨vertices', edges', mode', result'⟩, opened', contexts', mismatches'⟩ := b'
  obtain ⟨hvertices, hedges, hopened, hcontexts⟩ := h
  simp only at hvertices hedges hopened hcontexts
  subst hvertices hedges hopened hcontexts
  simp only [Builder.begin, withVertex]
  -- whether the context is known is the same question on both sides
  cases contexts[i.context]? with
  | some v => exact ⟨rfl, rfl, rfl, rfl⟩
  | none => exact ⟨rfl, rfl, rfl, rfl⟩

theorem Alike.close (h : b.Alike b') (kind kind' : Kind) :
    (b.close kind = .error .mismatched ∧ b'.close kind' = .error .mismatched) ∨
      ∃ next next', b.close kind = .ok next ∧ b'.close kind' = .ok next' ∧ next.Alike next' := by
  have hopened := h.opened
  cases hop : b.opened with
  | nil =>
      rw [hop] at hopened
      exact .inl ⟨close_of_nil kind hop, close_of_nil kind' hopened.symm⟩
  | cons top below =>
      rw [hop] at hopened
      refine .inr ⟨_, _, by rw [Builder.close, hop], by rw [Builder.close, ← hopened], ?_⟩
      exact ⟨h.vertices, h.edges, rfl, h.contexts⟩

theorem Alike.handle (h : b.Alike b') (hevent : event.begun? = event'.begun?) :
    (b.handle event = .error .mismatched ∧ b'.handle event' = .error .mismatched) ∨
      ∃ next next', b.handle event = .ok next ∧ b'.handle event' = .ok next' ∧
        next.Alike next' := by
  cases event with
  | begins i =>
      cases event' with
      | begins i' =>
          cases hevent
          exact .inr ⟨_, _, rfl, rfl, h.begin i⟩
      | ends kind' time' memory' => cases hevent
  | ends kind time memory =>
      cases event' with
      | begins i' => cases hevent
      | ends kind' time' memory' => exact h.close kind kind'

theorem Alike.replay (h : b.Alike b')
    (hevents : events.map Event.begun? = events'.map Event.begun?) :
    (b.replay events).2 = (b'.replay events').2 ∧
      (b.replay events).1.Alike (b'.replay events').1 := by
  induction events generalizing events' b b' with
  | nil =>
      obtain rfl := List.map_eq_nil_iff.1 hevents.symm
      exact ⟨rfl, h⟩
  | cons event rest ih =>
      obtain ⟨event', rest', rfl, hevent, hrest⟩ := List.map_eq_cons_iff.1 hevents.symm
      rw [Builder.replay, Builder.replay]
      rcases h.handle hevent.symm with ⟨herror, herror'⟩ | ⟨next, next', hok, hok', hnext⟩
      · rw [herror, herror']
        exact ⟨rfl, h⟩
      · rw [hok, hok']
        exact ih hnext hrest.symm

theorem Alike.finish (h : b.Alike b') :
    b.finish.map (fun g => (g.vertices, g.edges)) =
      b'.finish.map fun g => (g.vertices, g.edges) := by
  rw [Builder.finish, Builder.finish, h.opened]
  split
  · simp [Except.map, h.vertices, h.edges]
  · rfl

end Builder

namespace Metaprogram

theorem ofEvents_eq (events : List Event) (mode : Mode) (rootName result : String) :
    ofEvents events mode rootName result =
      match ((Builder.new mode rootName result).replay events).2 with
      | some error => .error error
      | none => ((Builder.new mode rootName result).replay events).1.finish := by
  rw [ofEvents, build]
  rcases (Builder.new mode rootName result).replay events with ⟨b, _ | error⟩
  · cases hfinish : b.finish <;> simp [hfinish]
  · rfl

/-- The vertices and edges that come out of a trace, or the error, are decided by its beginnings
and the places of its ends. -/
theorem ofEvents_congr (hevents : events.map Event.begun? = events'.map Event.begun?)
    (mode mode' : Mode) (rootName result : String) :
    (ofEvents events mode rootName result).map (fun g => (g.vertices, g.edges)) =
      (ofEvents events' mode' rootName result).map fun g => (g.vertices, g.edges) := by
  obtain ⟨herror, halike⟩ := (Builder.alike_new mode mode' rootName result).replay hevents
  rw [ofEvents_eq, ofEvents_eq, herror]
  split
  · rfl
  · exact halike.finish

end Metaprogram

/-! ## What there is to note -/

theorem Mismatch.lt (h : Mismatch events n note) : n < events.length := by
  obtain ⟨-, -, hends, -⟩ := h
  exact (List.getElem?_eq_some_iff.1 hends).1

/-- What an outline says is to be noted when an event comes. -/
def Outline.note? (o : Outline) : Event → Option KindMismatch
  | .begins _ => none
  | .ends kind _ _ =>
      match o.opened with
      | [] => none
      | (_, i) :: _ =>
          if i.kind = kind then none
          else some { closedAs := kind, context := i.context, openedAs := i.kind }

/-- What is to be noted is decided by the beginning on top of the stack. -/
theorem mismatch_iff (hevent : events[n]? = some event) :
    Mismatch events n note ↔ (outline (events.take n)).note? event = some note := by
  constructor
  · rintro ⟨hcloses, hbegins, hends, hdiffer⟩
    cases hevent.symm.trans hends
    rw [Outline.note?, hcloses.encloses.opened_eq hbegins]
    simp [hdiffer]
  · intro hnote
    cases event with
    | begins i => cases hnote
    | ends kind time memory =>
        rw [Outline.note?] at hnote
        split at hnote
        · cases hnote
        · next q i below hopened =>
            obtain ⟨m, henc, hbegins, -⟩ := exists_encloses_top hopened
            split at hnote
            · cases hnote
            · next hdiffer =>
                cases hnote
                exact .of_closes ⟨henc, kind, time, memory, hevent⟩ hbegins hevent hdiffer

/-- The notes that a run over some events makes, each with the place of its end. -/
def notesOf (events : List Event) : List (Nat × KindMismatch) :=
  (List.range events.length).filterMap fun n =>
    if Surplus (events.take n) then none
    else (events[n]?.bind (outline (events.take n)).note?).map (n, ·)

theorem notesOf_concat (events : List Event) (event : Event) :
    notesOf (events ++ [event]) = notesOf events ++
      if Surplus events then []
      else ((outline events).note? event).toList.map (events.length, ·) := by
  rw [notesOf, List.length_append, List.length_singleton, List.range_succ,
    List.filterMap_append]
  congr 1
  · refine List.filterMap_congr fun n hn => ?_
    have hlt := List.mem_range.1 hn
    rw [List.take_append_of_le_length (Nat.le_of_lt hlt), List.getElem?_append_left hlt]
  · rw [List.filterMap_cons, List.filterMap_nil, List.take_left, List.getElem?_concat_length,
      Option.bind_some]
    by_cases hsurplus : Surplus events
    · simp [hsurplus]
    · cases (outline events).note? event <;> simp [hsurplus]

theorem mem_notesOf : (n, note) ∈ notesOf events ↔
    Mismatch events n note ∧ ¬ Surplus (events.take n) := by
  rw [notesOf, List.mem_filterMap]
  constructor
  · rintro ⟨n', -, hnote⟩
    split at hnote
    · cases hnote
    · next hnone =>
        simp only [Option.map_eq_some_iff, Option.bind_eq_some_iff, Prod.mk.injEq] at hnote
        obtain ⟨note', ⟨event, hevent, hnote'⟩, rfl, rfl⟩ := hnote
        exact ⟨(mismatch_iff hevent).2 hnote', hnone⟩
  · rintro ⟨hmismatch, hnone⟩
    have hevent := List.getElem?_eq_getElem hmismatch.lt
    refine ⟨n, List.mem_range.2 hmismatch.lt, ?_⟩
    rw [if_neg hnone, hevent, Option.bind_some, (mismatch_iff hevent).1 hmismatch]
    rfl

theorem notesOf_sorted (events : List Event) : (notesOf events).Pairwise (·.1 < ·.1) := by
  refine List.Pairwise.filterMap _ ?_ List.pairwise_lt_range
  intro n n' hlt p hp p' hp'
  split at hp
  · cases hp
  · split at hp'
    · cases hp'
    · obtain ⟨note, -, rfl⟩ := Option.map_eq_some_iff.1 hp
      obtain ⟨note', -, rfl⟩ := Option.map_eq_some_iff.1 hp'
      exact hlt

/-- There is one list of notes about the ends of a trace in their order. -/
theorem eq_notesOf {notes : List (Nat × KindMismatch)} (hsorted : notes.Pairwise (·.1 < ·.1))
    (hnotes : ∀ n note, (n, note) ∈ notes ↔
      Mismatch events n note ∧ ¬ Surplus (events.take n)) : notes = notesOf events := by
  have : Std.Irrefl fun p q : Nat × KindMismatch => p.1 < q.1 := ⟨fun p => Nat.lt_irrefl p.1⟩
  have : Std.Antisymm fun p q : Nat × KindMismatch => p.1 < q.1 :=
    ⟨fun _ _ h h' => absurd h' (Nat.lt_asymm h)⟩
  refine hsorted.eq_of_mem_iff (notesOf_sorted events) fun p => ?_
  rw [hnotes, mem_notesOf]

/-- The trace `revisited`, with ends that hold other things. -/
def relabeled : List Event :=
  revisited.map fun
    | .begins i => .begins i
    | .ends _ _ _ => .ends .memoization ⟨1⟩ 2

/-! ## What a builder notes -/

namespace Builder

variable {b b' : Builder} {o : Outline}

theorem mismatches_begin (b : Builder) (i : Instantiation) :
    (b.begin i).mismatches = b.mismatches := by
  simp only [Builder.begin, withVertex]
  split <;> rfl

theorem Follows.mismatches_next (h : b.Follows o mode rootName result) (hn : o.Nested)
    (event : Event) :
    (b.next event).mismatches.reverse = b.mismatches.reverse ++ (o.note? event).toList := by
  cases event with
  | begins i =>
      rw [next_of_ok rfl, mismatches_begin]
      simp [Outline.note?]
  | ends kind time memory =>
      have hopened := h.opened
      cases hop : o.opened with
      | nil =>
          rw [hop] at hopened
          have hrefused : b.handle (.ends kind time memory) = .error .mismatched :=
            close_of_nil kind hopened
          rw [next_of_error hrefused]
          simp [Outline.note?, hop]
      | cons q below =>
          rw [hop] at hopened
          have hname : b.program.name (vertexOf (contextsOf o.openings) q.2.context) =
              q.2.context := by
            rw [h.program]
            exact Metaprogram.name_draw (hn.opened_mem (by simp [hop]))
          simp only [Builder.next, Builder.handle, Builder.close, hopened, List.map_cons, hname,
            Outline.note?, hop]
          split
          · simp
          · simp

theorem replay_eq_none_iff (events : List Event) (mode : Mode) (rootName result : String) :
    ((new mode rootName result).replay events).2 = none ↔ ¬ Surplus events := by
  constructor
  · rintro hnone ⟨pre, hpre, hlt⟩
    obtain ⟨b, hb⟩ := replay_eq_mismatched (b := new mode rootName result) hpre
      (by rw [show (new mode rootName result).opened = [] from rfl]; simpa using hlt)
    rw [hb] at hnone
    cases hnone
  · intro hsurplus
    obtain ⟨b, hb, -⟩ := replay_eq_ok (b := new mode rootName result) fun n _ =>
      Nat.le_trans (endCount_le_of_not_surplus hsurplus (List.take_prefix n events))
        (Nat.le_add_left _ _)
    rw [hb]

theorem fst_replay_singleton (b : Builder) (event : Event) :
    (b.replay [event]).1 = b.next event := by
  rw [replay, next]
  cases b.handle event <;> rfl

theorem replay_mismatches (events : List Event) (mode : Mode) (rootName result : String) :
    ((new mode rootName result).replay events).1.mismatches.reverse =
      (notesOf events).map Prod.snd := by
  induction events using List.reverseRecOn with
  | nil => rfl
  | append_singleton events event ih =>
      have hgoes := replay_eq_none_iff events mode rootName result
      rw [notesOf_concat, List.map_append, ← ih]
      cases hreplay : (new mode rootName result).replay events with
      | mk b error =>
          rw [hreplay] at hgoes
          cases error with
          | some error =>
              -- the run is over before the event comes
              have hover : Surplus events := by simpa using hgoes
              rw [replay_append, hreplay, if_pos hover, List.map_nil, List.append_nil]
          | none =>
              have hnone : ¬ Surplus events := hgoes.1 rfl
              have hfollows := (follows_new mode rootName result).replay Outline.nested_empty
                hreplay
              rw [replay_append, hreplay, fst_replay_singleton,
                hfollows.mismatches_next (Outline.nested_outline events), if_neg hnone,
                List.map_map]
              exact congrArg (b.mismatches.reverse ++ ·) (List.map_id _).symm

end Builder

namespace Metaprogram

/-- Of what is logged while a trace is built, the warnings are the notes about mismatches. -/
theorem warnings_build (events : List Event) (mode : Mode) (rootName result : String) :
    (build events mode rootName result).2.filter (·.level = .warn) =
      (notesOf events).map fun p => p.2.record := by
  have hlog : ((Builder.new mode rootName result).replay events).1.mismatchLog =
      (notesOf events).map fun p => p.2.record := by
    rw [Builder.mismatchLog, Builder.replay_mismatches, List.map_map]
    rfl
  have hwarn : ∀ notes : List (Nat × KindMismatch),
      (notes.map fun p => p.2.record).filter (·.level = .warn) =
        notes.map fun p => p.2.record := by
    intro notes
    refine List.filter_eq_self.2 fun record hrecord => ?_
    obtain ⟨p, -, rfl⟩ := List.mem_map.1 hrecord
    rfl
  rw [build]
  rcases hreplay : (Builder.new mode rootName result).replay events with ⟨b, _ | error⟩
  · rw [hreplay] at hlog
    cases hfinish : b.finish with
    | ok g => simp [hfinish, hlog, hwarn, builtRecord]
    | error error => simp [hfinish, hlog, hwarn]
  · rw [hreplay] at hlog
    simp [hlog, hwarn]

/-- What ends say of their kind, time and memory changes nothing of the graph, nor does the mode.
An end closes one beginning at most. The warnings are about the ends that close a beginning of
another kind and come before any end too many, one for each and in their order. -/
theorem build_ends (events : List Event) (mode : Mode) (rootName result : String) :
    (∀ events' mode', events'.map Event.begun? = events.map Event.begun? →
      (ofEvents events' mode' rootName result).map (fun g => (g.vertices, g.edges)) =
        (ofEvents events mode rootName result).map fun g => (g.vertices, g.edges)) ∧
      (∀ m m' n, Closes events m n → Closes events m' n → m = m') ∧
      ∃ notes : List (Nat × KindMismatch), notes.Pairwise (·.1 < ·.1) ∧
        (∀ n note, (n, note) ∈ notes ↔
          Mismatch events n note ∧ ¬ Surplus (events.take n)) ∧
        (build events mode rootName result).2.filter (·.level = .warn) =
          notes.map fun (_, note) =>
            { level := .warn, origin := .builder,
              message := "TemplateEnd (" ++ note.closedAs.name ++ ") closes " ++ note.context ++
                " opened as " ++ note.openedAs.name } := by
  refine ⟨fun events' mode' hevents => ?_, fun m m' n h h' => ?_, ?_⟩
  · exact ofEvents_congr hevents mode' mode rootName result
  · exact h.encloses.unique h'.encloses
  · exact ⟨notesOf events, notesOf_sorted events, fun _ _ => mem_notesOf,
      warnings_build events mode rootName result⟩

/-- Each end closes the beginning next to it that is not closed yet, under another kind. -/
theorem build_ends_relabeled :
    relabeled.map Event.begun? = revisited.map Event.begun? ∧
      (ofEvents relabeled .full "r" "t").map (fun g => (g.vertices, g.edges)) =
        (ofEvents revisited .normal "r" "t").map (fun g => (g.vertices, g.edges)) ∧
      ∃ notes : List (Nat × KindMismatch), notes.map Prod.fst = [3, 4, 5, 7] ∧
        (∀ n note, (n, note) ∈ notes → Mismatch relabeled n note) ∧
        (build relabeled .full "r" "t").2.filter (·.level = .warn) =
          ["c", "b", "a", "b"].map fun context =>
            { level := .warn, origin := .builder,
              message := "TemplateEnd (Memoization) closes " ++ context ++
                " opened as TemplateInstantiation" } := by
  obtain ⟨-, -, notes, hsorted, hnotes, hwarnings⟩ := build_ends relabeled .full "r" "t"
  have heq : notes = notesOf relabeled := eq_notesOf hsorted hnotes
  refine ⟨rfl, (build_ends revisited .normal "r" "t").1 relabeled .full rfl, notes, ?_,
    fun n note hnote => ((hnotes n note).1 hnote).1, ?_⟩
  · rw [heq]
    decide
  · rw [hwarnings, heq]
    decide

end Metaprogram

end TemplateTrace
