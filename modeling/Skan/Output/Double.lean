import Mathlib.Data.Int.Log
import Mathlib.Data.List.DropRight
import Mathlib.Data.NNRat.Floor
import Skan.Core.Types
import Skan.Library.Json

/-!
# Floating-point numbers in reports

A `double` of a report is a signed magnitude, an infinity or a NaN. Reports compare such numbers and
print them, and `number` is how: with `std::setprecision(15)`, that is `%.15g`. The magnitude is any
rational number, of which the ones with 53 bits are some.

What is printed is a number of the JSON grammar when the number is finite (`isNumber_number`), and
a word otherwise.
-/

namespace Skan.Output

open Skan.Core Json

variable {n : ℕ}

inductive Double where
  | finite (negative : Bool) (magnitude : ℚ≥0)
  | infinite (negative : Bool)
  | nan (negative : Bool)
  deriving DecidableEq

namespace Double

/-- A count as a `double`, as far as it has no more than 53 bits. -/
def ofNat (n : ℕ) : Double := .finite false n

/-- `std::isfinite`. -/
def isFinite : Double → Bool
  | .finite _ _ => true
  | _ => false

/-- `<=`, which is false of a NaN. -/
def le : Double → Double → Bool
  | .nan _, _ | _, .nan _ => false
  | .infinite true, _ | _, .infinite false => true
  | .infinite false, _ | _, .infinite true => false
  | .finite negative m, .finite negative' m' =>
    (if negative then -(m : ℚ) else m) ≤ if negative' then -(m' : ℚ) else m'

/-- `<`. -/
def lt (x y : Double) : Bool := x.le y && !y.le x

/-- `==`; the zeros are equal. -/
def eq (x y : Double) : Bool := x.le y && y.le x

end Double

/-! ### Digits -/

/-- The nearest integer; the even one of two that are equally near. -/
def roundHalfEven (q : ℚ≥0) : ℕ :=
  let below := ⌊q⌋₊
  let rest := q - below
  if rest < 1 / 2 then below
  else if 1 / 2 < rest then below + 1
  else if below % 2 = 0 then below else below + 1

/-- The precision of `number`. -/
def precision : ℕ := 15

/-- The digits of `%.14e` and its exponent: rounding can carry over all digits. -/
def significand (m : ℚ≥0) : ℕ × ℤ :=
  let exponent := Int.log 10 m
  let n := roundHalfEven (m / 10 ^ (exponent - (precision - 1 : ℕ)))
  if 10 ^ precision ≤ n then (10 ^ (precision - 1), exponent + 1) else (n, exponent)

/-- `%g` leaves out the zeros at the end of the fraction. -/
def dropTrailingZeros (digits : List Char) : List Char := digits.rdropWhile (· = '0')

/-- The fraction with its point, where there is one. -/
def fractionText (digits : List Char) : List Char :=
  match dropTrailingZeros digits with
  | [] => []
  | d :: ds => '.' :: d :: ds

/-- The exponent with its sign and at least two digits. -/
def exponentText (exponent : ℤ) : List Char :=
  let digits := Nat.toDigits 10 exponent.natAbs
  'e' :: (if exponent < 0 then '-' else '+') ::
    (if digits.length < 2 then '0' :: digits else digits)

/-- `%.15g` of a magnitude. -/
def magnitudeText (m : ℚ≥0) : List Char :=
  if m = 0 then ['0']
  else
    let (n, exponent) := significand m
    let digits := Nat.toDigits 10 n
    if exponent < -4 ∨ precision ≤ exponent then
      digits.take 1 ++ fractionText (digits.drop 1) ++ exponentText exponent
    else if exponent < 0 then
      '0' :: fractionText (List.replicate (exponent.natAbs - 1) '0' ++ digits)
    else digits.take (exponent.natAbs + 1) ++ fractionText (digits.drop (exponent.natAbs + 1))

def numberText : Double → List Char
  | .finite negative m => (if negative then ['-'] else []) ++ magnitudeText m
  | .infinite negative => (if negative then ['-'] else []) ++ "inf".toList
  | .nan negative => (if negative then ['-'] else []) ++ "nan".toList

/-- `number`. -/
def number (value : Double) : Text := Utf8.encode (numberText value)

/-- The decimal digits that a stream writes for a count. -/
def decimal (n : ℕ) : Text := Utf8.encode (Nat.toDigits 10 n)

/-! ### What is printed -/

theorem isDigit_of_mem_toDigits : ∀ c ∈ Nat.toDigits 10 n, IsDigit c := by
  intro c hc
  have h := Nat.isDigit_of_mem_toDigits (by decide) le_rfl hc
  simp only [Char.isDigit, Bool.and_eq_true, decide_eq_true_eq] at h
  exact h

/-- The digits of a positive number do not begin with a zero. -/
theorem toDigits_eq_cons (h : 0 < n) : ∃ d ds, Nat.toDigits 10 n = d :: ds ∧ d ≠ '0' := by
  induction n using Nat.strong_induction_on with
  | h n ih =>
    by_cases hsmall : n < 10
    · refine ⟨n.digitChar, [], Nat.toDigits_of_lt_base hsmall, ?_⟩
      interval_cases n <;> decide
    · obtain ⟨d, ds, hds, hd⟩ := ih (n / 10) (by omega) (by omega)
      exact ⟨d, ds ++ [(n % 10).digitChar], by
        rw [Nat.toDigits_of_base_le (by decide) (by omega), hds, List.cons_append], hd⟩

theorem isInt_toDigits (n : ℕ) : IsInt (Nat.toDigits 10 n) := by
  rcases Nat.eq_zero_or_pos n with rfl | h
  · exact .inl (Nat.toDigits_zero 10)
  · obtain ⟨d, ds, hds, hd⟩ := toDigits_eq_cons h
    have hdigits := isDigit_of_mem_toDigits (n := n)
    rw [hds] at hdigits ⊢
    exact .inr ⟨d, ds, rfl, hdigits d List.mem_cons_self, hd,
      fun c hc ↦ hdigits c (List.mem_cons_of_mem d hc)⟩

theorem isFrac_fractionText {digits : List Char} (h : ∀ c ∈ digits, IsDigit c) :
    IsFrac (fractionText digits) := by
  have hsub : ∀ c ∈ dropTrailingZeros digits, IsDigit c :=
    fun c hc ↦ h c ((List.rdropWhile_prefix _ _).subset hc)
  rw [fractionText]
  split
  · exact .inl rfl
  · rename_i d ds heq
    exact .inr ⟨d :: ds, rfl, List.cons_ne_nil d ds, heq ▸ hsub⟩

theorem isExp_exponentText (exponent : ℤ) : IsExp (exponentText exponent) := by
  have hdigits := isDigit_of_mem_toDigits (n := exponent.natAbs)
  refine .inr ⟨'e', [if exponent < 0 then '-' else '+'],
    if (Nat.toDigits 10 exponent.natAbs).length < 2 then '0' :: Nat.toDigits 10 exponent.natAbs
      else Nat.toDigits 10 exponent.natAbs, rfl, .inl rfl, ?_, ?_, ?_⟩
  · split_ifs
    · exact .inr (.inr rfl)
    · exact .inr (.inl rfl)
  · split_ifs
    · exact List.cons_ne_nil _ _
    · exact Nat.toDigits_ne_nil
  · split_ifs
    · intro c hc
      rcases List.mem_cons.mp hc with rfl | hc
      · exact ⟨le_rfl, by decide⟩
      · exact hdigits c hc
    · exact hdigits

/-- The first digits of a number that is not zero are those of an integer. -/
theorem isInt_take {k : ℕ} (h : 0 < n) : IsInt ((Nat.toDigits 10 n).take (k + 1)) := by
  obtain ⟨d, ds, hds, hd⟩ := toDigits_eq_cons h
  have hdigits := isDigit_of_mem_toDigits (n := n)
  rw [hds] at hdigits ⊢
  exact .inr ⟨d, ds.take k, List.take_succ_cons, hdigits d List.mem_cons_self, hd,
    fun c hc ↦ hdigits c (List.mem_cons_of_mem d (List.mem_of_mem_take hc))⟩

theorem le_roundHalfEven (q : ℚ≥0) : ⌊q⌋₊ ≤ roundHalfEven q := by
  rw [roundHalfEven]
  split_ifs
  · exact le_rfl
  · exact Nat.le_succ _
  · exact le_rfl
  · exact Nat.le_succ _

/-- A magnitude has a first digit: scaled by its exponent it is at least one. -/
theorem significand_pos {m : ℚ≥0} (h : m ≠ 0) : 0 < (significand m).1 := by
  have hlow : (10 : ℚ≥0) ^ Int.log 10 m ≤ m := by
    exact_mod_cast Int.zpow_log_le_self (by decide : 1 < 10) (pos_iff_ne_zero.mpr h)
  have hscaled : (1 : ℚ≥0) ≤ m / 10 ^ (Int.log 10 m - (precision - 1 : ℕ)) := by
    rw [one_le_div (zpow_pos (by norm_num) _)]
    refine (zpow_le_zpow_right₀ (by norm_num) ?_).trans hlow
    exact sub_le_self _ (Int.natCast_nonneg _)
  have hpos : 0 < roundHalfEven (m / 10 ^ (Int.log 10 m - (precision - 1 : ℕ))) :=
    (Nat.floor_pos.mpr hscaled).trans_le (le_roundHalfEven _)
  rw [significand]
  split_ifs
  · exact Nat.pow_pos (by decide)
  · exact hpos

theorem isInt_zero : IsInt ['0'] := .inl rfl

/-- What is printed for a magnitude is an integer, a fraction and an exponent. -/
theorem magnitudeText_eq (m : ℚ≥0) :
    ∃ int frac exp, magnitudeText m = int ++ frac ++ exp ∧ IsInt int ∧ IsFrac frac ∧ IsExp exp := by
  rw [magnitudeText]
  split_ifs with hzero
  · exact ⟨['0'], [], [], rfl, isInt_zero, .inl rfl, .inl rfl⟩
  have hpos := significand_pos hzero
  have hdigits := isDigit_of_mem_toDigits (n := (significand m).1)
  dsimp only
  split_ifs
  · exact ⟨_, _, _, rfl, isInt_take hpos, isFrac_fractionText fun c hc ↦
      hdigits c (List.mem_of_mem_drop hc), isExp_exponentText _⟩
  · refine ⟨['0'], _, [], (List.append_nil _).symm, isInt_zero,
      isFrac_fractionText fun c hc ↦ ?_, .inl rfl⟩
    rcases List.mem_append.mp hc with hc | hc
    · rw [List.eq_of_mem_replicate hc]
      exact ⟨le_rfl, by decide⟩
    · exact hdigits c hc
  · exact ⟨_, _, [], (List.append_nil _).symm, isInt_take hpos, isFrac_fractionText fun c hc ↦
      hdigits c (List.mem_of_mem_drop hc), .inl rfl⟩

/-- **A finite number is printed as a number.** -/
theorem isNumber_numberText {value : Double} (h : value.isFinite = true) :
    IsNumber (numberText value) := by
  rcases value with ⟨negative, m⟩ | negative | negative
  · obtain ⟨int, frac, exp, heq, hint, hfrac, hexp⟩ := magnitudeText_eq m
    refine ⟨if negative then ['-'] else [], int, frac, exp, ?_, ?_, hint, hfrac, hexp⟩
    · rw [numberText, heq]
      simp only [List.append_assoc]
    · split_ifs
      · exact .inr rfl
      · exact .inl rfl
  · exact absurd h Bool.false_ne_true
  · exact absurd h Bool.false_ne_true

/-- What is printed for the others counts less than nothing. -/
theorem weighs_number {value : Double} (h : value.isFinite = false) :
    ∃ w < 0, Weighs (number value) w := by
  rcases value with ⟨negative, m⟩ | negative | negative
  · exact absurd h.symm Bool.false_ne_true
  · exact ⟨-2, by decide, by rcases negative <;> decide, by rcases negative <;> decide⟩
  · exact ⟨-5, by decide, by rcases negative <;> decide, by rcases negative <;> decide⟩

end Skan.Output
