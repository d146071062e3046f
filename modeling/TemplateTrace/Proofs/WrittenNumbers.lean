import Mathlib.Algebra.Order.Ring.Nat
import Mathlib.Data.List.Basic
import TemplateTrace.Json.Range

/-!
# Numbers that are written and read

What is written for a natural number is a run of digits that reads as the number, and no such run
begins with a zero but that of zero itself. A count is in the range of the numbers of JSON.
-/

namespace TemplateTrace

namespace Number

theorem isDigit_of_mem_digits {n : Nat} {c : Char} (h : c ∈ digits n) : isDigit c = true :=
  Nat.isDigit_of_mem_toDigits (by decide) (by decide) h

theorem digits_ne_nil (n : Nat) : digits n ≠ [] := Nat.toDigits_ne_nil

theorem toList_text (n : Nat) : (text n).toList = digits n := String.toList_ofList

@[simp] theorem digitsValue_digits (n : Nat) : digitsValue (digits n) = n :=
  Nat.ofDigitChars_toDigits (by decide) (by decide)

/-- Only zero is written with a zero in front. -/
theorem digits_ne_zero_cons {n : Nat} (h : 0 < n) (rest : List Char) : digits n ≠ '0' :: rest := by
  induction n using Nat.strongRecOn generalizing rest with
  | ind n ih =>
      by_cases hlt : n < 10
      · rw [digits, Nat.toDigits_of_lt_base hlt]
        intro heq
        have hzero : Nat.digitChar n = '0' := (List.cons.inj heq).1
        have hval := Nat.toNat_digitChar_of_lt_ten hlt
        rw [hzero] at hval
        have : '0'.toNat = 48 := rfl
        omega
      · rw [digits, Nat.toDigits_of_base_le (by decide) (by omega)]
        intro heq
        have hpos : 0 < n / 10 := by omega
        cases hfront : digits (n / 10) with
        | nil => exact digits_ne_nil _ hfront
        | cons c front =>
            rw [digits] at hfront
            rw [hfront, List.cons_append] at heq
            obtain ⟨rfl, -⟩ := List.cons.inj heq
            exact ih (n / 10) (by omega) hpos front hfront

theorem natural?_digits (n : Nat) : natural? (digits n) = some n := by
  have hall : (digits n).all isDigit = true :=
    List.all_eq_true.2 fun _ => isDigit_of_mem_digits
  have hne : (digits n).isEmpty = false := by simpa using digits_ne_nil n
  rw [natural?, hall, hne, digitsValue_digits]
  rfl

theorem digits_ne_cons {c : Char} (h : isDigit c = false) (n : Nat) (rest : List Char) :
    digits n ≠ c :: rest := by
  intro heq
  have hdigit : isDigit c = true := isDigit_of_mem_digits (heq ▸ List.mem_cons_self)
  rw [h] at hdigit
  cases hdigit

theorem signedDigits_ne_nil (n : Int) : signedDigits n ≠ [] := by
  rw [signedDigits]
  split
  · exact List.cons_ne_nil _ _
  · exact digits_ne_nil _

theorem signedDigits_ne_cons {c : Char} (hminus : c ≠ '-') (h : isDigit c = false) (n : Int)
    (rest : List Char) : signedDigits n ≠ c :: rest := by
  rw [signedDigits]
  split
  · intro heq
    exact hminus (List.cons.inj heq).1.symm
  · exact digits_ne_cons h _ _

/-- A count needs no sign to be read. -/
theorem count?_digits {n : Nat} (h : n < countBound) : count? (digits n) = some n := by
  rw [count?, unsigned?.eq_2 _ _ (digits_ne_cons rfl _), natural?_digits, Option.filter_some,
    decide_eq_true h]
  rfl

/-- An integer is read as it was written, if it is in the range. -/
theorem signed?_signedDigits {bound : Nat} {n : Int} (hlow : -(bound : Int) ≤ n)
    (hhigh : n < bound) : signed? bound (signedDigits n) = some n := by
  rw [signedDigits]
  split
  · next hneg =>
      have hle : n.natAbs ≤ bound := by omega
      have hvalue : -(n.natAbs : Int) = n := by omega
      rw [signed?, natural?_digits, Option.filter_some, decide_eq_true hle]
      exact congrArg some hvalue
  · next hpos =>
      have hlt : n.natAbs < bound := by omega
      have hvalue : (n.natAbs : Int) = n := by omega
      rw [signed?.eq_3 _ _ (digits_ne_cons rfl _) (digits_ne_cons rfl _), natural?_digits,
        Option.filter_some, decide_eq_true hlt]
      exact congrArg some hvalue

theorem int64?_signedDigits (n : Int64) : int64? (signedDigits n.toInt) = some n.toInt :=
  signed?_signedDigits n.le_toInt n.toInt_lt

theorem digit_val {c : Char} (h : isDigit c = true) : (digit c).val = digitValue c := by
  rw [isDigit, Bool.and_eq_true, decide_eq_true_iff, decide_eq_true_iff] at h
  have hnine : c.toNat ≤ '9'.toNat := h.2
  refine Nat.mod_eq_of_lt ?_
  rw [digitValue, show '0'.toNat = 48 from rfl]
  rw [show '9'.toNat = 57 from rfl] at hnine
  omega

/-- A digit is written as it was read. -/
theorem digit_digitChar (d : Fin 10) : digit (Nat.digitChar d.val) = d := by
  revert d
  decide

theorem isDigit_digitChar (d : Fin 10) : isDigit (Nat.digitChar d.val) = true := by
  revert d
  decide

/-! ## The range of counts

Below 2^64 all digits of a number fit, and what the format makes of the number has 65 bits. So its
exponent field is far from the one that is infinity. -/

theorem roundHalfEven_le (num den : Nat) : roundHalfEven num den ≤ num / den + 1 := by
  rw [roundHalfEven]
  split
  · omega
  split
  · omega
  split
  · omega
  · omega

namespace Binary64

theorem nearestNat_lt {n : Nat} (h : n < countBound) : nearestNat n < 2 ^ 65 := by
  rcases Nat.eq_zero_or_pos n with rfl | hpos
  · decide
  have hlog : n.log2 < 64 := (Nat.log2_lt (by omega)).2 h
  have hunit : n.log2 - 52 ≤ 11 := by omega
  rw [nearestNat, Nat.one_shiftLeft, Nat.shiftLeft_eq]
  generalize n.log2 - 52 = unit at hunit
  have hround := roundHalfEven_le n (2 ^ unit)
  have hpow : 2 ^ unit ≤ 2 ^ 11 := Nat.pow_le_pow_right (by decide) hunit
  calc roundHalfEven n (2 ^ unit) * 2 ^ unit
      ≤ (n / 2 ^ unit + 1) * 2 ^ unit := Nat.mul_le_mul_right _ hround
    _ = n / 2 ^ unit * 2 ^ unit + 2 ^ unit := by rw [Nat.add_mul, Nat.one_mul]
    _ ≤ n + 2 ^ 11 := Nat.add_le_add (Nat.div_mul_le_self _ _) hpow
    _ < 2 ^ 65 := by rw [countBound] at h; omega

/-- The exponent of a natural number. -/
theorem binaryExponent_one {n : Nat} (h : n ≠ 0) : binaryExponent n 1 = n.log2 := by
  have hone : Nat.log2 1 = 0 := by decide
  have hle : 1 <<< n.log2 ≤ n := by
    rw [Nat.one_shiftLeft]
    exact Nat.log2_self_le h
  simp [binaryExponent, hone, hle]

/-- Rounding to units that leave 53 bits can at most carry over into one more. -/
theorem roundHalfEven_unit_le (n : Nat) :
    roundHalfEven n (1 <<< (n.log2 - 52)) ≤ 2 ^ 53 := by
  have hlt : n < 2 ^ (n.log2 - 52) * 2 ^ 53 := by
    rw [← Nat.pow_add]
    exact Nat.lt_of_lt_of_le Nat.lt_log2_self (Nat.pow_le_pow_right (by decide) (by omega))
  have hround := roundHalfEven_le n (1 <<< (n.log2 - 52))
  rw [Nat.one_shiftLeft] at hround ⊢
  have hdiv := Nat.div_lt_of_lt_mul hlt
  omega

theorem roundHalfEven_shifted_le {n : Nat} (h : n.log2 < 52) :
    roundHalfEven (n <<< (52 - n.log2)) 1 ≤ 2 ^ 53 := by
  have hlt : n * 2 ^ (52 - n.log2) < 2 ^ 53 := by
    calc n * 2 ^ (52 - n.log2)
        < 2 ^ (n.log2 + 1) * 2 ^ (52 - n.log2) :=
          Nat.mul_lt_mul_of_pos_right Nat.lt_log2_self (Nat.two_pow_pos _)
      _ = 2 ^ 53 := by rw [← Nat.pow_add]; congr 1; omega
  have hround := roundHalfEven_le (n <<< (52 - n.log2)) 1
  rw [Nat.shiftLeft_eq] at hround ⊢
  omega

/-- A number of 65 bits has a significand of 53 bits, rounded, and a small exponent. -/
theorem magnitudeBits_lt {n : Nat} (h : n < 2 ^ 65) : magnitudeBits n 1 < infinityBits := by
  rcases Nat.eq_zero_or_pos n with rfl | hpos
  · decide
  have hlog : n.log2 < 65 := (Nat.log2_lt (by omega)).2 h
  have hunit : max ((n.log2 : Int) - 52) (-1074) = n.log2 - 52 := by omega
  have hexponent : ((n.log2 : Int) - 52 + 1074).toNat = n.log2 + 1022 := by omega
  rw [magnitudeBits, binaryExponent_one (by omega), hunit]
  rw [hexponent, Nat.shiftLeft_eq (n.log2 + 1022), show infinityBits = 2047 * 2 ^ 52 by decide]
  refine Nat.lt_of_le_of_lt (Nat.min_le_right _ _) ?_
  split
  · next hle =>
      have hsignificand := roundHalfEven_unit_le n
      rw [show ((n.log2 : Int) - 52).toNat = n.log2 - 52 by omega]
      omega
  · next hneg =>
      have hsignificand := roundHalfEven_shifted_le (n := n) (by omega)
      rw [show (-((n.log2 : Int) - 52)).toNat = 52 - n.log2 by omega]
      omega

end Binary64

end Number

namespace Numeral

theorem le_foldl_digits (digits : List (Fin 10)) (n : Nat) :
    n ≤ digits.foldl (fun n digit => 10 * n + digit.val) n := by
  induction digits generalizing n with
  | nil => exact Nat.le_refl n
  | cons digit digits ih => exact Nat.le_trans (by omega) (ih (10 * n + digit.val))

/-- All digits fit if their number does. -/
theorem appendFitting_eq {digits : List (Fin 10)} {n : Nat}
    (h : digits.foldl (fun n digit => 10 * n + digit.val) n < Number.countBound) :
    appendFitting n digits = (digits.foldl (fun n digit => 10 * n + digit.val) n, []) := by
  induction digits generalizing n with
  | nil => rfl
  | cons digit digits ih =>
      have hlonger := Nat.lt_of_le_of_lt (le_foldl_digits digits (10 * n + digit.val)) h
      rw [appendFitting, if_pos hlonger, ih h]
      rfl

theorem foldl_digits (n : Nat) :
    ((Number.digits n).map Number.digit).foldl (fun n digit => 10 * n + digit.val) 0 = n := by
  rw [List.foldl_map]
  refine Eq.trans (List.foldl_ext _ _ 0 fun value c hc => ?_) (Number.digitsValue_digits n)
  rw [Number.digit_val (Number.isDigit_of_mem_digits hc)]

theorem reaches_zero {n : Nat} (h : n < Number.countBound) : reaches n 0 = true := by
  have hone : Number.Binary64.nearestNat (Nat.pow 10 (0 : Int).toNat) = 1 := by decide
  rw [reaches, hone, Nat.mul_one]
  have hlt := Number.Binary64.magnitudeBits_lt (Number.Binary64.nearestNat_lt h)
  simp [hlt, greatestPower]

/-- Counts are in the range. -/
theorem isInRange_of_lt {negative : Bool} {n : Nat} (h : n < Number.countBound) :
    (integer negative n).isInRange = true := by
  have hfit := appendFitting_eq (n := 0) (by rwa [foldl_digits] : _ < Number.countBound)
  rw [foldl_digits] at hfit
  rw [isInRange, partsReach, hfit]
  exact reaches_zero h

end Numeral

end TemplateTrace
