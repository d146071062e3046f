import Mathlib.Tactic.Ring
import TemplateTrace.Proofs.LocationReading
import TemplateTrace.Proofs.WrittenNumbers

/-!
# The grammar of locations

A text is read as a location exactly if it holds two bars and numbers follow them, and then the
location is what stands in the text; every other text is refused and named in full. The numbers
are given by a grammar of their own, `Denotes`: an optional sign and digits, of which each counts
by its place. That the value fits into 32 bits is not part of it, but of the location that is
written, since its line and column are numbers of that size.

A location that is written without a plus sign and without zeros in front is one of these texts, so
writing and reading it gives it back.
-/

namespace TemplateTrace

namespace Number

/-! ## Numbers with a sign -/

/-- The value of digits by their places: the last one counts as it is, and each one before it ten
times as much as the next. -/
def placeValue : List Char → Nat
  | [] => 0
  | c :: rest => digitValue c * 10 ^ rest.length + placeValue rest

/-- Some digits, with zeros in front or not, and their value. -/
structure IsNatural (s : List Char) (n : Nat) : Prop where
  nonempty : s ≠ []
  digits : ∀ c ∈ s, '0' ≤ c ∧ c ≤ '9'
  value : placeValue s = n

/-- The integers that texts stand for. -/
inductive Denotes : List Char → Int → Prop
  | bare {s : List Char} {n : Nat} : IsNatural s n → Denotes s n
  | plus {s : List Char} {n : Nat} : IsNatural s n → Denotes ('+' :: s) n
  | minus {s : List Char} {n : Nat} : IsNatural s n → Denotes ('-' :: s) (-n)

variable {s : List Char}

/-- Reading digits from the left gives each the weight of its place. -/
theorem foldl_digits_eq (s : List Char) (n : Nat) :
    s.foldl (fun n c => 10 * n + digitValue c) n = n * 10 ^ s.length + placeValue s := by
  induction s generalizing n with
  | nil => simp [placeValue]
  | cons c s ih =>
      rw [List.foldl_cons, ih, placeValue, List.length_cons]
      ring

theorem isNatural_iff {n : Nat} : IsNatural s n ↔ natural? s = some n := by
  have hvalue : digitsValue s = placeValue s := by
    rw [digitsValue, foldl_digits_eq, Nat.zero_mul, Nat.zero_add]
  have hdigits : (s.all isDigit = true) ↔ ∀ c ∈ s, '0' ≤ c ∧ c ≤ '9' := by simp [isDigit]
  rw [natural?, hvalue]
  constructor
  · rintro ⟨hne, hall, rfl⟩
    rw [if_pos]
    simpa [hne] using hdigits.2 hall
  · intro h
    split at h
    · next hs =>
        rw [Bool.and_eq_true] at hs
        exact ⟨by simpa using hs.1, hdigits.1 hs.2, Option.some.inj h⟩
    · cases h

theorem natural?_filter_iff {m : Nat} {p : Nat → Prop} [DecidablePred p] :
    (natural? s).filter (p ·) = some m ↔ IsNatural s m ∧ p m := by
  rw [Option.filter_eq_some_iff, isNatural_iff, decide_eq_true_iff]

/-- A digit is no sign. -/
theorem IsNatural.ne_cons {n : Nat} {c : Char} (h : IsNatural s n) (hc : isDigit c = false)
    (rest : List Char) : s ≠ c :: rest := by
  rintro rfl
  have hdigit : isDigit c = true := by simpa [isDigit] using h.digits c List.mem_cons_self
  rw [hc] at hdigit
  cases hdigit

/-- An integer is read if it is written and in the range. -/
theorem signed?_eq_some_iff {bound : Nat} (hbound : 0 < bound) {n : Int} :
    signed? bound s = some n ↔ Denotes s n ∧ -(bound : Int) ≤ n ∧ n < bound := by
  constructor
  · intro h
    rw [signed?.eq_def] at h
    split at h
    · obtain ⟨_, hcast, rfl⟩ := Option.map_eq_some_iff.1 h
      obtain ⟨m, hm, ⟨⟩⟩ := Option.bind_eq_some_iff.1 hcast
      obtain ⟨hnat, hfits⟩ := natural?_filter_iff.1 hm
      exact ⟨.minus hnat, by omega, by omega⟩
    · obtain ⟨m, hm, rfl⟩ := Option.map_eq_some_iff.1 h
      obtain ⟨hnat, hfits⟩ := natural?_filter_iff.1 hm
      exact ⟨.plus hnat, by simp only [Int.ofNat_eq_natCast]; omega, by simpa using hfits⟩
    · obtain ⟨m, hm, rfl⟩ := Option.map_eq_some_iff.1 h
      obtain ⟨hnat, hfits⟩ := natural?_filter_iff.1 hm
      exact ⟨.bare hnat, by simp only [Int.ofNat_eq_natCast]; omega, by simpa using hfits⟩
  · rintro ⟨hwritten, hlow, hhigh⟩
    cases hwritten with
    | bare hnat =>
        rw [signed?.eq_3 _ _ (hnat.ne_cons rfl) (hnat.ne_cons rfl),
          natural?_filter_iff.2 ⟨hnat, by omega⟩]
        rfl
    | plus hnat =>
        rw [signed?, natural?_filter_iff.2 ⟨hnat, by omega⟩]
        rfl
    | minus hnat =>
        rw [signed?, natural?_filter_iff.2 ⟨hnat, by omega⟩]
        rfl

theorem int32?_eq_some_iff {n : Int32} : int32? s = some n ↔ Denotes s n.toInt := by
  have hbound : (int32Bound : Int) = 2 ^ 31 := rfl
  rw [int32?, Option.map_eq_some_iff]
  simp only [signed?_eq_some_iff (show 0 < int32Bound by decide)]
  constructor
  · rintro ⟨m, ⟨hwritten, hlow, hhigh⟩, rfl⟩
    rwa [Int32.toInt_ofInt_of_le (by omega) (by omega)]
  · intro h
    have hlow := n.le_toInt
    have hhigh := n.toInt_lt
    exact ⟨n.toInt, ⟨h, by omega, by omega⟩, Int32.ofInt_toInt n⟩

theorem int32?_signedText (n : Int32) : int32? (signedText n.toInt).toList = some n := by
  have hread : signed? int32Bound (signedDigits n.toInt) = some n.toInt :=
    signed?_signedDigits n.le_toInt n.toInt_lt
  rw [signedText, String.toList_ofList, int32?, hread, Option.map_some, Int32.ofInt_toInt]

end Number

namespace Location

/-! ## Texts with two bars -/

/-- The text writes the location: two bars, and around them the file name as it stands and the
numbers of the line and the column. -/
structure Written (text : String) (location : Location) : Prop where
  bars : text.toList.count '|' = 2
  parts : ∃ line column : String, text = location.file ++ "|" ++ line ++ "|" ++ column ∧
    Number.Denotes line.toList location.line.toInt ∧
    Number.Denotes column.toList location.column.toInt

variable {text : String} {location : Location}

/-- Two bars are all, so none is left for the parts. -/
theorem written_iff_spells : Written text location ↔ Spells text location := by
  simp only [Spells, Number.int32?_eq_some_iff]
  constructor
  · rintro ⟨hbars, line, column, rfl, hline, hcolumn⟩
    refine ⟨line, column, rfl, ?_, hline, hcolumn⟩
    simp only [String.toList_append, List.count_append,
      show "|".toList.count '|' = 1 by decide] at hbars
    exact List.count_eq_zero.1 (by omega)
  · rintro ⟨line, column, rfl, hfile, hline, hcolumn⟩
    refine ⟨?_, line, column, rfl, hline, hcolumn⟩
    have hbar := Number.bar_not_mem_of_int32? (Number.int32?_eq_some_iff.2 hline)
    have hbar' := Number.bar_not_mem_of_int32? (Number.int32?_eq_some_iff.2 hcolumn)
    simp [List.count_eq_zero.2, hfile, hbar, hbar']

/-- A text is read as a location if it writes it, and refused as a whole if it writes none. In
particular every location whose file name holds no bar is read from the text that its parts make
with bars between them. -/
theorem read_grammar :
    (∀ text, (∀ location, read text = .ok location ↔ Written text location) ∧
      ∀ cause, read text = .error cause ↔
        (∀ location, ¬ Written text location) ∧ cause = .invalidLocation text) ∧
    ∀ (file : String) (line column : Int32), '|' ∉ file.toList →
      read (file ++ "|" ++ Number.signedText line.toInt ++ "|" ++
        Number.signedText column.toInt) = .ok { file, line, column } := by
  refine ⟨fun text => ?_, fun file line column hfile => ?_⟩
  · have hdecides := decides_read text
    simp only [written_iff_spells]
    exact ⟨hdecides.ok_iff, fun cause => (hdecides.error_iff cause).trans firstFault_singleton⟩
  · refine ((decides_read _).ok_iff _).2 ⟨_, _, rfl, hfile, ?_, ?_⟩
    · exact Number.int32?_signedText line
    · exact Number.int32?_signedText column

/-- A file name with blanks, and both ends of the range. -/
theorem read_grammar_extremes :
    '|' ∉ "my file.hpp".toList ∧
      read "my file.hpp|-2147483648|2147483647" =
        .ok { file := "my file.hpp", line := -2147483648, column := 2147483647 } := by
  have hfile : '|' ∉ "my file.hpp".toList := by decide
  exact ⟨hfile, read_grammar.2 "my file.hpp" (-2147483648) 2147483647 hfile⟩

example : read "a|+007|-0" = .ok { file := "a", line := 7, column := 0 } ∧
    read "a|2147483648|0" = .error (.invalidLocation "a|2147483648|0") := by decide +kernel

end Location

end TemplateTrace
