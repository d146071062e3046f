import TemplateTrace.Json.Reader
import TemplateTrace.Json.Writer
import TemplateTrace.Proofs.WrittenNumbers

/-!
# Reading JSON that was written

The reader gives back every value that the writer wrote. The induction over the value is carried
by `Reads`: with two calls for each character of its text, a value is read off it and what follows
is left, unless it is a number that goes on in what follows. No text that is written holds a
control character, so every value takes one line.
-/

namespace TemplateTrace.Json

/-! ## Strings -/

theorem hexValue?_hexDigit (n : Nat) : hexValue? (hexDigit n) = some (n % 16) := by
  have hall : ∀ d < 16, hexValue? (Nat.digitChar d) = some d := by decide
  exact hall (n % 16) (Nat.mod_lt n (by decide))

/-- The three ways to write a character in a string. -/
inductive Escapes (c : Char) : List Char → Prop
  | short {e : Char} : shortEscape? e = some c → e ≠ 'u' → Escapes c ['\\', e]
  | code : c.toNat < 0x20 →
      Escapes c ['\\', 'u', '0', '0', hexDigit (c.toNat / 16), hexDigit c.toNat]
  | plain : c ≠ '"' → c ≠ '\\' → 0x20 ≤ c.toNat → Escapes c [c]

theorem escapes_escapeChar (c : Char) : Escapes c (escapeChar c) := by
  rw [escapeChar]
  split
  · next h => subst h; exact .short rfl (by decide)
  split
  · next h => subst h; exact .short rfl (by decide)
  split
  · next h => subst h; exact .short rfl (by decide)
  split
  · next h => subst h; exact .short rfl (by decide)
  split
  · next h => subst h; exact .short rfl (by decide)
  split
  · next h => subst h; exact .short rfl (by decide)
  split
  · next h => subst h; exact .short rfl (by decide)
  split
  · next h => exact .code h
  · next hquote hslash _ _ _ _ _ h => exact .plain hquote hslash (Nat.le_of_not_lt h)

/-- What a written character is read as. -/
def Stands (c : Char) : Symbol → Prop
  | .char d => d = c
  | .unit code => code = c.toNat ∧ code < 0x20

/-- A written character is read as something that stands for it. -/
theorem Escapes.symbols? {c : Char} {escaped s rest : List Char} {symbols : List Symbol}
    (h : Escapes c escaped) (hs : Json.symbols? s = some (symbols, rest)) :
    ∃ symbol, Stands c symbol ∧ Json.symbols? (escaped ++ s) = some (symbol :: symbols, rest) := by
  cases h with
  | short hshort hne =>
      refine ⟨.char c, rfl, ?_⟩
      rw [List.cons_append, List.singleton_append,
        Json.symbols?.eq_4 _ _ fun _ _ _ _ _ hu => absurd hu hne, hshort, hs]
      rfl
  | code hlt =>
      refine ⟨.unit c.toNat, ⟨rfl, hlt⟩, ?_⟩
      have hvalue : ((0 * 16 + 0) * 16 + c.toNat / 16 % 16) * 16 + c.toNat % 16 = c.toNat := by
        omega
      simp only [List.cons_append, List.nil_append, Json.symbols?.eq_3, hexValue?_hexDigit, hs,
        show hexValue? '0' = some 0 from rfl, Option.bind_eq_bind, Option.bind_some, hvalue]
      rfl
  | plain hquote hslash hle =>
      refine ⟨.char c, rfl, ?_⟩
      rw [List.singleton_append, Json.symbols?.eq_5 c s (absurd · hquote)
        (fun _ _ _ _ _ h => absurd h hslash) (fun _ _ h => absurd h hslash), hs]
      simp [hslash, hle]

theorem symbols?_escaped (text rest : List Char) :
    ∃ symbols, List.Forall₂ Stands text symbols ∧
      symbols? (text.flatMap escapeChar ++ '"' :: rest) = some (symbols, rest) := by
  induction text with
  | nil => exact ⟨[], .nil, rfl⟩
  | cons c text ih =>
      obtain ⟨symbols, hstand, hread⟩ := ih
      obtain ⟨symbol, hfirst, hall⟩ := (escapes_escapeChar c).symbols? hread
      refine ⟨symbol :: symbols, .cons hfirst hstand, ?_⟩
      rw [List.flatMap_cons, List.append_assoc, hall]

/-- A number that is no half of a surrogate pair needs no neighbour. -/
theorem spell?_unit {code : Nat} (h : code < 0x20) (symbols : List Symbol) :
    spell? (.unit code :: symbols) = (spell? symbols).map (Char.ofNat code :: ·) := by
  have hhigh : isHighSurrogate code = false := by
    rw [isHighSurrogate, Bool.and_eq_false_iff, decide_eq_false_iff_not]
    omega
  have hlow : isLowSurrogate code = false := by
    rw [isLowSurrogate, Bool.and_eq_false_iff, decide_eq_false_iff_not]
    omega
  cases symbols with
  | nil => simp [spell?, hhigh, hlow]
  | cons symbol symbols =>
      cases symbol with
      | char c => simp [spell?, hhigh, hlow]
      | unit low => simp [spell?.eq_3, hhigh, hlow]

theorem spell?_of_stands {text : List Char} {symbols : List Symbol}
    (h : List.Forall₂ Stands text symbols) : spell? symbols = some text := by
  induction h with
  | nil => rfl
  | @cons c symbol text symbols hfirst _ ih =>
      cases symbol with
      | char d =>
          cases hfirst
          rw [spell?, ih]
          rfl
      | unit code =>
          obtain ⟨rfl, hlt⟩ := hfirst
          rw [spell?_unit hlt, ih, Char.ofNat_toNat]
          rfl

/-- A string token is an opening quote and a tail that is read as the text. -/
theorem exists_stringTail (text : Option String) :
    ∃ tail, writeString text = '"' :: tail ∧
      ∀ rest, stringTail? (tail ++ rest) = some (text, rest) := by
  cases text with
  | none => exact ⟨_, rfl, fun rest => rfl⟩
  | some text =>
      refine ⟨_, rfl, fun rest => ?_⟩
      obtain ⟨symbols, hstand, hread⟩ := symbols?_escaped text.toList rest
      rw [List.append_assoc, List.singleton_append, stringTail?, hread, Option.map_some]
      dsimp only
      rw [spell?_of_stands hstand, Option.map_some, String.ofList_toList]

/-! ## Numbers -/

/-- A number that stands before this text does not go on in it. -/
def EndsNumber (rest : List Char) : Prop :=
  ∀ c ∈ rest.head?, Number.isDigit c = false ∧ c ≠ '.' ∧ c ≠ 'e' ∧ c ≠ 'E'

theorem splitDigits_append {digits rest : List Char}
    (hdigits : ∀ c ∈ digits, Number.isDigit c = true)
    (hrest : ∀ c ∈ rest.head?, Number.isDigit c = false) :
    splitDigits (digits ++ rest) = (digits, rest) := by
  rw [splitDigits, List.takeWhile_append_of_pos hdigits, List.dropWhile_append_of_pos hdigits]
  cases rest with
  | nil => rw [List.takeWhile_nil, List.dropWhile_nil, List.append_nil]
  | cons c rest =>
      have hc : ¬ Number.isDigit c = true := by rw [hrest c rfl]; exact Bool.false_ne_true
      rw [List.takeWhile_cons_of_neg hc, List.dropWhile_cons_of_neg hc, List.append_nil]

theorem splitDigits_digits (n : Nat) {rest : List Char}
    (hrest : ∀ c ∈ rest.head?, Number.isDigit c = false) :
    splitDigits (Number.digits n ++ rest) = (Number.digits n, rest) :=
  splitDigits_append (fun _ => Number.isDigit_of_mem_digits) hrest

/-- Digits do not begin with what is no digit. -/
theorem digits_append_ne {c : Char} (h : Number.isDigit c = false) (n : Nat) (rest s : List Char) :
    Number.digits n ++ rest ≠ c :: s := by
  intro heq
  obtain ⟨d, ds, hd⟩ := List.exists_cons_of_ne_nil (Number.digits_ne_nil n)
  rw [hd, List.cons_append] at heq
  have hdigit : Number.isDigit d = true :=
    Number.isDigit_of_mem_digits (n := n) (hd ▸ List.mem_cons_self)
  rw [(List.cons.inj heq).1, h] at hdigit
  cases hdigit

theorem exponentTail?_signedDigits (n : Int) {rest : List Char}
    (hrest : ∀ c ∈ rest.head?, Number.isDigit c = false) :
    exponentTail? (Number.signedDigits n ++ rest) = some (n, rest) := by
  have hsplit := splitDigits_digits n.natAbs hrest
  have hvalue := Number.digitsValue_digits n.natAbs
  obtain ⟨d, ds, hd⟩ := List.exists_cons_of_ne_nil (Number.digits_ne_nil n.natAbs)
  rw [Number.signedDigits]
  split
  · next hneg =>
      rw [List.cons_append, exponentTail?.eq_1, hsplit, hd]
      rw [hd] at hvalue
      simp only [hvalue, if_true]
      congr
      omega
  · next hpos =>
      rw [exponentTail?.eq_3 _ (fun s => digits_append_ne rfl _ _ s)
        (fun s => digits_append_ne rfl _ _ s), hsplit, hd]
      rw [hd] at hvalue
      simp only [hvalue, Bool.false_eq_true, if_false]
      congr
      omega

theorem fraction?_writeFraction (fraction : List (Fin 10)) {rest : List Char}
    (hrest : ∀ c ∈ rest.head?, Number.isDigit c = false ∧ c ≠ '.') :
    fraction? (writeFraction fraction ++ rest) = some (fraction, rest) := by
  rw [writeFraction]
  cases fraction with
  | nil =>
      refine fraction?.eq_2 _ fun s hs => (hrest '.' ?_).2 rfl
      rw [show rest = '.' :: s from hs]
      rfl
  | cons d ds =>
      have hdigits : ∀ c ∈ (d :: ds).map fun (digit : Fin 10) => Nat.digitChar digit.val,
          Number.isDigit c = true := by
        intro c hc
        obtain ⟨digit, -, rfl⟩ := List.mem_map.1 hc
        exact Number.isDigit_digitChar digit
      have hsplit := splitDigits_append hdigits fun c hc => (hrest c hc).1
      rw [List.isEmpty_cons, if_neg Bool.false_ne_true, List.cons_append, fraction?, hsplit,
        List.map_cons]
      dsimp only
      rw [← List.map_cons (f := fun (digit : Fin 10) => Nat.digitChar digit.val), List.map_map]
      have hread : (Number.digit ∘ fun (digit : Fin 10) => Nat.digitChar digit.val) = id :=
        funext Number.digit_digitChar
      rw [hread, List.map_id]

theorem unsignedNumeral?_digits (negative : Bool) (n : Nat) {rest : List Char}
    (hrest : ∀ c ∈ rest.head?, Number.isDigit c = false) :
    unsignedNumeral? negative (Number.digits n ++ rest) = (do
      let (fraction, rest) ← fraction? rest
      let (exponent, rest) ← exponent? rest
      if fraction.isEmpty && exponent.isNone then return (.integer negative n, rest)
      else return (.scaled negative n fraction (exponent.getD 0), rest)) := by
  rcases Nat.eq_zero_or_pos n with rfl | hpos
  · rfl
  · obtain ⟨d, ds, hd⟩ := List.exists_cons_of_ne_nil (Number.digits_ne_nil n)
    have hvalue := Number.digitsValue_digits n
    have hzero : ∀ s, Number.digits n ++ rest ≠ '0' :: s := by
      intro s heq
      rw [hd, List.cons_append] at heq
      rw [(List.cons.inj heq).1] at hd
      exact Number.digits_ne_zero_cons hpos ds hd
    rw [unsignedNumeral?.eq_2 _ _ hzero, splitDigits_digits n hrest, hd]
    rw [hd] at hvalue
    simp only [hvalue, Option.bind_eq_bind, Option.bind_some]

theorem numeral?_sign (negative : Bool) (n : Nat) (rest : List Char) :
    numeral? ((if negative then ['-'] else []) ++ (Number.digits n ++ rest)) =
      unsignedNumeral? negative (Number.digits n ++ rest) := by
  cases negative with
  | true => rfl
  | false => exact numeral?.eq_2 _ fun s => digits_append_ne rfl n rest s

theorem numeral?_writeNumeral (numeral : Numeral) {rest : List Char} (hrest : EndsNumber rest) :
    numeral? (writeNumeral numeral ++ rest) = some (numeral, rest) := by
  cases numeral with
  | integer negative n =>
      have hfraction : fraction? rest = some ([], rest) :=
        fraction?.eq_2 _ fun s hs => (hrest '.' (by rw [hs]; rfl)).2.1 rfl
      have hexponent : exponent? rest = some (none, rest) :=
        exponent?.eq_3 _ (fun s hs => (hrest 'e' (by rw [hs]; rfl)).2.2.1 rfl)
          fun s hs => (hrest 'E' (by rw [hs]; rfl)).2.2.2 rfl
      rw [writeNumeral, List.append_assoc, numeral?_sign,
        unsignedNumeral?_digits _ _ fun c hc => (hrest c hc).1, hfraction]
      simp only [Option.bind_eq_bind, Option.bind_some, hexponent]
      rfl
  | scaled negative n fraction exponent =>
      have hexponent := exponentTail?_signedDigits exponent fun c hc => (hrest c hc).1
      have hmark : ∀ c ∈ ('e' :: (Number.signedDigits exponent ++ rest)).head?,
          Number.isDigit c = false ∧ c ≠ '.' := by
        intro c hc
        cases hc
        decide
      have hfraction := fraction?_writeFraction fraction hmark
      have hhead : ∀ c ∈ (writeFraction fraction ++
          'e' :: (Number.signedDigits exponent ++ rest)).head?, Number.isDigit c = false := by
        intro c hc
        cases fraction with
        | nil => exact (hmark c hc).1
        | cons d ds =>
            cases hc
            rfl
      rw [writeNumeral, List.append_assoc, List.append_assoc, List.append_assoc, numeral?_sign,
        List.cons_append, unsignedNumeral?_digits _ _ hhead, hfraction]
      simp only [Option.bind_eq_bind, Option.bind_some, exponent?, hexponent, Option.map_some,
        Option.isNone_some, Bool.and_false, Bool.false_eq_true, if_false]
      rfl

/-! ## Values -/

/-- A property of all values that passes from the items of an array to the array, and from the
members of an object to the object. -/
theorem inductionOn {motive : Json → Prop} (null : motive .null)
    (bool : ∀ value, motive (.bool value)) (number : ∀ numeral, motive (.number numeral))
    (string : ∀ text, motive (.string text))
    (array : ∀ items, (∀ item ∈ items, motive item) → motive (.array items))
    (object : ∀ members, (∀ member ∈ members, motive member.2) → motive (.object members)) :
    ∀ json, motive json
  | .null => null
  | .bool value => bool value
  | .number numeral => number numeral
  | .string text => string text
  | .array items => array items fun item _ =>
      inductionOn null bool number string array object item
  | .object members => object members fun member _ =>
      inductionOn null bool number string array object member.2
termination_by json => sizeOf json
decreasing_by
  · have hlt := List.sizeOf_lt_of_mem ‹item ∈ items›
    rw [Json.array.sizeOf_spec]
    omega
  · have hlt := List.sizeOf_lt_of_mem ‹member ∈ members›
    have hsize : sizeOf member = 1 + sizeOf member.1 + sizeOf member.2 :=
      Prod.mk.sizeOf_spec member.1 member.2
    rw [Json.object.sizeOf_spec]
    omega

theorem skipSpace_cons {c : Char} (h : isSpace c = false) (s : List Char) :
    skipSpace (c :: s) = c :: s :=
  List.dropWhile_cons_of_neg (by rw [h]; exact Bool.false_ne_true)

/-- What a number begins with. -/
def BeginsNumber (c : Char) : Prop := Number.isDigit c = true ∨ c = '-'

theorem BeginsNumber.ne {c d : Char} (hc : BeginsNumber c) (hdigit : Number.isDigit d = false)
    (hminus : d ≠ '-') : c ≠ d := by
  rintro rfl
  cases hc with
  | inl hc =>
      rw [hdigit] at hc
      cases hc
  | inr hc => exact hminus hc

theorem BeginsNumber.not_isSpace {c : Char} (hc : BeginsNumber c) : isSpace c = false := by
  rw [isSpace]
  simp only [Bool.or_eq_false_iff, decide_eq_false_iff_not]
  exact ⟨⟨⟨hc.ne rfl (by decide), hc.ne rfl (by decide)⟩, hc.ne rfl (by decide)⟩,
    hc.ne rfl (by decide)⟩

theorem exists_numeral_head (numeral : Numeral) :
    ∃ c s, writeNumeral numeral = c :: s ∧ BeginsNumber c := by
  have hdigits : ∀ (negative : Bool) (n : Nat) (rest : List Char), ∃ c s,
      (if negative then ['-'] else []) ++ (Number.digits n ++ rest) = c :: s ∧
        BeginsNumber c := by
    intro negative n rest
    cases negative with
    | true => exact ⟨_, _, rfl, .inr rfl⟩
    | false =>
        obtain ⟨d, ds, hd⟩ := List.exists_cons_of_ne_nil (Number.digits_ne_nil n)
        refine ⟨d, ds ++ rest, by rw [hd]; rfl, .inl ?_⟩
        exact Number.isDigit_of_mem_digits (n := n) (hd ▸ List.mem_cons_self)
  cases numeral with
  | integer negative n =>
      rw [writeNumeral, ← List.append_nil (Number.digits n)]
      exact hdigits negative n []
  | scaled negative n fraction exponent =>
      rw [writeNumeral, List.append_assoc, List.append_assoc]
      exact hdigits negative n _

/-- The first character of a value is no blank and no closing bracket. -/
theorem exists_head (json : Json) :
    ∃ c s, json.write = c :: s ∧ isSpace c = false ∧ c ≠ ']' ∧ c ≠ '\x7d' := by
  cases json with
  | null => exact ⟨_, _, rfl, by decide⟩
  | bool value =>
      cases value with
      | true => exact ⟨_, _, rfl, by decide⟩
      | false => exact ⟨_, _, rfl, by decide⟩
  | number numeral =>
      obtain ⟨c, s, hs, hc⟩ := exists_numeral_head numeral
      exact ⟨c, s, by rw [write, hs], hc.not_isSpace, hc.ne rfl (by decide),
        hc.ne rfl (by decide)⟩
  | string text =>
      obtain ⟨tail, htail, -⟩ := exists_stringTail text
      exact ⟨_, tail, by rw [write, htail], by decide⟩
  | array items =>
      cases items with
      | nil => exact ⟨_, _, rfl, by decide⟩
      | cons item items => exact ⟨_, _, rfl, by decide⟩
  | object members =>
      cases members with
      | nil => exact ⟨_, _, rfl, by decide⟩
      | cons member members => exact ⟨_, _, rfl, by decide⟩

theorem value?_of_numeral {c : Char} (hc : BeginsNumber c) (bound : Nat) (s : List Char) :
    value? (bound + 1) (c :: s) =
      (numeral? (c :: s)).map fun (numeral, rest) => (.number numeral, rest) := by
  rw [value?.eq_2, skipSpace_cons (hc.not_isSpace)]
  split
  · next heq => exact absurd (List.cons.inj heq).1 (hc.ne rfl (by decide))
  · next heq => exact absurd (List.cons.inj heq).1 (hc.ne rfl (by decide))
  · next heq => exact absurd (List.cons.inj heq).1 (hc.ne rfl (by decide))
  · next heq => exact absurd (List.cons.inj heq).1 (hc.ne rfl (by decide))
  · next heq => exact absurd (List.cons.inj heq).1 (hc.ne rfl (by decide))
  · next heq => exact absurd (List.cons.inj heq).1 (hc.ne rfl (by decide))
  · rfl

theorem value?_string (bound : Nat) (s : List Char) :
    value? (bound + 1) ('"' :: s) =
      (stringTail? s).map fun (text, rest) => (.string text, rest) := rfl

theorem value?_array {c : Char} (hspace : isSpace c = false) (hne : c ≠ ']') (bound : Nat)
    (s : List Char) :
    value? (bound + 1) ('[' :: c :: s) =
      (items? bound (c :: s)).map fun (items, rest) => (.array items, rest) := by
  rw [value?.eq_2, skipSpace_cons (by decide)]
  simp only [skipSpace_cons hspace]
  split
  · next heq => exact absurd (List.cons.inj heq).1 hne
  · rfl

theorem value?_object {c : Char} (hspace : isSpace c = false) (hne : c ≠ '\x7d') (bound : Nat)
    (s : List Char) :
    value? (bound + 1) ('\x7b' :: c :: s) =
      (members? bound (c :: s)).map fun (members, rest) => (.object members, rest) := by
  rw [value?.eq_2, skipSpace_cons (by decide)]
  simp only [skipSpace_cons hspace]
  split
  · next heq => exact absurd (List.cons.inj heq).1 hne
  · rfl

theorem key?_writeString (key : Option String) (rest : List Char) :
    key? (writeString key ++ ':' :: rest) = some (key, rest) := by
  obtain ⟨tail, htail, hread⟩ := exists_stringTail key
  rw [htail, List.cons_append, key?, skipSpace_cons (by decide)]
  simp only [hread, Option.bind_eq_bind, Option.bind_some, skipSpace_cons (c := ':') (by decide)]
  rfl

/-- A value is read from its text, whatever follows. -/
def Reads (json : Json) : Prop :=
  ∀ bound rest, 2 * json.write.length ≤ bound → EndsNumber rest →
    value? bound (json.write ++ rest) = some (json, rest)

theorem endsNumber_writeItems (items : List Json) (rest : List Char) :
    EndsNumber (writeItems items ++ rest) := by
  cases items with
  | nil => intro c hc; cases hc; decide
  | cons item items => intro c hc; cases hc; decide

theorem endsNumber_writeMembers (members : List (Option String × Json)) (rest : List Char) :
    EndsNumber (writeMembers members ++ rest) := by
  cases members with
  | nil => intro c hc; cases hc; decide
  | cons member members => intro c hc; cases hc; decide

theorem items?_write {item : Json} {items : List Json} (h : ∀ json ∈ item :: items, Reads json)
    (bound : Nat) (hbound : 2 * (item.write.length + (writeItems items).length) ≤ bound)
    (rest : List Char) :
    items? (bound + 1) (item.write ++ (writeItems items ++ rest)) = some (item :: items, rest) := by
  induction items generalizing item bound with
  | nil =>
      rw [items?.eq_2, h item List.mem_cons_self bound _ (by omega) (endsNumber_writeItems _ _)]
      rfl
  | cons next items ih =>
      obtain ⟨hitem, hitems⟩ := List.forall_mem_cons.1 h
      rw [items?.eq_2, hitem bound _ (by omega) (endsNumber_writeItems _ _)]
      rw [writeItems, List.length_cons, List.length_append] at hbound
      obtain ⟨bound, rfl⟩ : ∃ n, bound = n + 1 := ⟨bound - 1, by omega⟩
      have hrest := ih hitems bound (by omega)
      rw [writeItems, List.cons_append, List.append_assoc]
      change (items? (bound + 1) (next.write ++ (writeItems items ++ rest))).map
        (fun (items, rest) => (item :: items, rest)) = _
      rw [hrest]
      rfl

theorem members?_write {key : Option String} {value : Json}
    {members : List (Option String × Json)}
    (h : ∀ member ∈ (key, value) :: members, Reads member.2) (bound : Nat)
    (hbound : 2 * (value.write.length + (writeMembers members).length) ≤ bound)
    (rest : List Char) :
    members? (bound + 1)
        (writeString key ++ ':' :: (value.write ++ (writeMembers members ++ rest))) =
      some ((key, value) :: members, rest) := by
  induction members generalizing key value bound with
  | nil =>
      rw [members?.eq_2, key?_writeString]
      dsimp only
      rw [h (key, value) List.mem_cons_self bound _ (show 2 * value.write.length ≤ bound by omega)
        (endsNumber_writeMembers _ _)]
      rfl
  | cons next members ih =>
      obtain ⟨hvalue, hmembers⟩ := List.forall_mem_cons.1 h
      rw [show (key, value).2 = value from rfl] at hvalue
      obtain ⟨nextKey, next⟩ := next
      rw [members?.eq_2, key?_writeString]
      dsimp only
      rw [hvalue bound _ (by omega) (endsNumber_writeMembers _ _)]
      rw [writeMembers, List.length_cons, List.length_append, List.length_cons,
        List.length_append] at hbound
      obtain ⟨bound, rfl⟩ : ∃ n, bound = n + 1 := ⟨bound - 1, by omega⟩
      have hrest := ih hmembers bound (by omega)
      rw [writeMembers, List.cons_append, List.append_assoc, List.cons_append, List.append_assoc]
      change (members? (bound + 1)
        (writeString nextKey ++ ':' :: (next.write ++ (writeMembers members ++ rest)))).map
        (fun (members, rest) => ((key, value) :: members, rest)) = _
      rw [hrest]
      rfl

theorem exists_bound_of_write (json : Json) {bound : Nat} (h : 2 * json.write.length ≤ bound) :
    ∃ n, bound = n + 2 := by
  obtain ⟨c, s, hs, -⟩ := exists_head json
  rw [hs, List.length_cons] at h
  exact ⟨bound - 2, by omega⟩

theorem reads (json : Json) : Reads json := by
  induction json using inductionOn with
  | null =>
      intro bound rest hbound _
      obtain ⟨bound, rfl⟩ := exists_bound_of_write _ hbound
      rfl
  | bool value =>
      intro bound rest hbound _
      obtain ⟨bound, rfl⟩ := exists_bound_of_write _ hbound
      cases value with
      | true => rfl
      | false => rfl
  | number numeral =>
      intro bound rest hbound hrest
      obtain ⟨bound, rfl⟩ := exists_bound_of_write _ hbound
      obtain ⟨c, s, hs, hc⟩ := exists_numeral_head numeral
      rw [write, hs, List.cons_append, value?_of_numeral hc, ← List.cons_append, ← hs,
        numeral?_writeNumeral numeral hrest]
      rfl
  | string text =>
      intro bound rest hbound _
      obtain ⟨bound, rfl⟩ := exists_bound_of_write _ hbound
      obtain ⟨tail, htail, hread⟩ := exists_stringTail text
      rw [write, htail, List.cons_append, value?_string, hread]
      rfl
  | array items hreads =>
      intro bound rest hbound _
      obtain ⟨bound, rfl⟩ := exists_bound_of_write _ hbound
      cases items with
      | nil => rfl
      | cons item items =>
          rw [write, List.length_cons, List.length_append] at hbound
          have hitems := items?_write hreads bound (by omega) rest
          obtain ⟨c, s, hs, hspace, hne, -⟩ := exists_head item
          rw [hs, List.cons_append] at hitems
          rw [write, List.cons_append, List.append_assoc, hs, List.cons_append,
            value?_array hspace hne, hitems]
          rfl
  | object members hreads =>
      intro bound rest hbound _
      obtain ⟨bound, rfl⟩ := exists_bound_of_write _ hbound
      cases members with
      | nil => rfl
      | cons member members =>
          obtain ⟨key, value⟩ := member
          rw [write, List.length_cons, List.length_append, List.length_cons,
            List.length_append] at hbound
          have hmembers := members?_write hreads bound (by omega) rest
          obtain ⟨tail, htail, -⟩ := exists_stringTail key
          rw [htail, List.cons_append] at hmembers
          rw [write, List.cons_append, List.append_assoc, htail, List.cons_append,
            List.cons_append, List.append_assoc, value?_object (by decide) (by decide), hmembers]
          rfl

/-- Every value is read from its text. -/
theorem read?_render (json : Json) : read? json.render = some json := by
  have hread := reads json (2 * json.write.length + 2) [] (by omega) (fun c hc => by cases hc)
  rw [List.append_nil] at hread
  rw [read?, render, String.toList_ofList]
  simp only [hread, Option.bind_eq_bind, Option.bind_some]
  rfl

/-! ## One line -/

/-- No character below the blank, as all that end a line are. -/
def OneLine (s : List Char) : Prop := ∀ c ∈ s, 0x20 ≤ c.toNat

theorem oneLine_nil : OneLine [] := fun _ hc => nomatch hc

theorem oneLine_of_all {s : List Char} (h : s.all (0x20 ≤ ·.toNat) = true) : OneLine s :=
  fun c hc => of_decide_eq_true (List.all_eq_true.1 h c hc)

theorem oneLine_cons {c : Char} {s : List Char} :
    OneLine (c :: s) ↔ 0x20 ≤ c.toNat ∧ OneLine s := List.forall_mem_cons

theorem oneLine_append {s t : List Char} : OneLine (s ++ t) ↔ OneLine s ∧ OneLine t :=
  List.forall_mem_append

theorem le_toNat_hexDigit (n : Nat) : 0x20 ≤ (hexDigit n).toNat := by
  have hall : ∀ d < 16, 0x20 ≤ (Nat.digitChar d).toNat := by decide
  exact hall (n % 16) (Nat.mod_lt n (by decide))

theorem oneLine_of_isDigit {s : List Char} (h : ∀ c ∈ s, Number.isDigit c = true) : OneLine s := by
  intro c hc
  have hdigit := h c hc
  rw [Number.isDigit, Bool.and_eq_true, decide_eq_true_iff] at hdigit
  exact Nat.le_trans (by decide) hdigit.1

theorem le_toNat_of_shortEscape {c e : Char} (h : shortEscape? e = some c) : 0x20 ≤ e.toNat := by
  rw [shortEscape?.eq_def] at h
  split at h
  all_goals first | decide | cases h

theorem Escapes.oneLine {c : Char} {escaped : List Char} (h : Escapes c escaped) :
    OneLine escaped := by
  cases h with
  | short hshort _ =>
      rw [oneLine_cons, oneLine_cons]
      exact ⟨by decide, le_toNat_of_shortEscape hshort, oneLine_nil⟩
  | code =>
      simp only [oneLine_cons, le_toNat_hexDigit]
      exact ⟨by decide, by decide, by decide, by decide, trivial, trivial, oneLine_nil⟩
  | plain _ _ hle => exact oneLine_cons.2 ⟨hle, oneLine_nil⟩

theorem oneLine_writeString (text : Option String) : OneLine (writeString text) := by
  cases text with
  | none => exact oneLine_of_all (by decide)
  | some text =>
      refine oneLine_cons.2 ⟨by decide, oneLine_append.2 ⟨?_, oneLine_of_all (by decide)⟩⟩
      intro c hc
      obtain ⟨d, -, hc⟩ := List.mem_flatMap.1 hc
      exact (escapes_escapeChar d).oneLine c hc

theorem oneLine_writeNumeral (numeral : Numeral) : OneLine (writeNumeral numeral) := by
  have hdigits : ∀ n, OneLine (Number.digits n) := fun n =>
    oneLine_of_isDigit fun _ => Number.isDigit_of_mem_digits
  have hsign : ∀ negative, OneLine (if negative = true then ['-'] else []) := by
    intro negative
    cases negative with
    | true => exact oneLine_of_all (by decide)
    | false => exact oneLine_of_all (by decide)
  cases numeral with
  | integer negative n => exact oneLine_append.2 ⟨hsign negative, hdigits n⟩
  | scaled negative n fraction exponent =>
      have hfraction : OneLine (writeFraction fraction) := by
        rw [writeFraction]
        split
        · exact oneLine_of_all (by decide)
        · refine oneLine_cons.2 ⟨by decide, oneLine_of_isDigit fun c hc => ?_⟩
          obtain ⟨digit, -, rfl⟩ := List.mem_map.1 hc
          exact Number.isDigit_digitChar digit
      have hexponent : OneLine (Number.signedDigits exponent) := by
        rw [Number.signedDigits]
        split
        · exact oneLine_cons.2 ⟨by decide, hdigits _⟩
        · exact hdigits _
      rw [writeNumeral, oneLine_append, oneLine_append, oneLine_append, oneLine_cons]
      exact ⟨⟨⟨hsign negative, hdigits n⟩, hfraction⟩, by decide, hexponent⟩

theorem oneLine_writeItems {items : List Json} (h : ∀ item ∈ items, OneLine item.write) :
    OneLine (writeItems items) := by
  induction items with
  | nil => exact oneLine_of_all (by decide)
  | cons item items ih =>
      obtain ⟨hitem, hitems⟩ := List.forall_mem_cons.1 h
      rw [writeItems, oneLine_cons, oneLine_append]
      exact ⟨by decide, hitem, ih hitems⟩

theorem oneLine_writeMembers {members : List (Option String × Json)}
    (h : ∀ member ∈ members, OneLine member.2.write) : OneLine (writeMembers members) := by
  induction members with
  | nil => exact oneLine_of_all (by decide)
  | cons member members ih =>
      obtain ⟨hvalue, hmembers⟩ := List.forall_mem_cons.1 h
      rw [writeMembers, oneLine_cons, oneLine_append, oneLine_cons, oneLine_append]
      exact ⟨by decide, oneLine_writeString _, by decide, hvalue, ih hmembers⟩

/-- The text of a value is one line. -/
theorem oneLine_write (json : Json) : OneLine json.write := by
  induction json using inductionOn with
  | null => exact oneLine_of_all (by decide)
  | bool value =>
      cases value with
      | true => exact oneLine_of_all (by decide)
      | false => exact oneLine_of_all (by decide)
  | number numeral => exact oneLine_writeNumeral numeral
  | string text => exact oneLine_writeString text
  | array items hitems =>
      cases items with
      | nil => exact oneLine_of_all (by decide)
      | cons item items =>
          obtain ⟨hitem, hitems⟩ := List.forall_mem_cons.1 hitems
          rw [write, oneLine_cons, oneLine_append]
          exact ⟨by decide, hitem, oneLine_writeItems hitems⟩
  | object members hmembers =>
      cases members with
      | nil => exact oneLine_of_all (by decide)
      | cons member members =>
          obtain ⟨hvalue, hmembers⟩ := List.forall_mem_cons.1 hmembers
          rw [write, oneLine_cons, oneLine_append, oneLine_cons, oneLine_append]
          exact ⟨by decide, oneLine_writeString _, by decide, hvalue,
            oneLine_writeMembers hmembers⟩

end TemplateTrace.Json
