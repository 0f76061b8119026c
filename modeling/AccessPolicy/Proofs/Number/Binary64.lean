import AccessPolicy.Number.Binary64
import Mathlib.Algebra.Order.Ring.Nat
import Mathlib.Tactic.SplitIfs

/-!
# Integers as doubles

An integer below `2 ^ 53` in size has a double of its own: its binary digits fit the significand,
so nothing is rounded (`Binary64.ofInt_eq_finite`) and its integer part is the integer itself
(`Binary64.toInt64_ofInt`).
-/

namespace AccessPolicy.Binary64

variable {num : Nat} {value : Int}

@[simp]
theorem roundDiv_one (num : Nat) : roundDiv num 1 = num := by
  simp [roundDiv, Nat.mod_one]

/-- Shifting the leading digit of a number to the front of a significand keeps it in the range of
significands. -/
theorem shifted_bounds (hpos : num ≠ 0) (hlt : num < 2 ^ 53) :
    2 ^ 52 ≤ num * 2 ^ (52 - num.log2) ∧ num * 2 ^ (52 - num.log2) < 2 ^ 53 := by
  have hlog : num.log2 < 53 := (Nat.log2_lt hpos).2 hlt
  constructor
  · calc 2 ^ 52 = 2 ^ num.log2 * 2 ^ (52 - num.log2) := by
          rw [← Nat.pow_add, Nat.add_sub_cancel' (Nat.le_of_lt_succ hlog)]
      _ ≤ num * 2 ^ (52 - num.log2) := Nat.mul_le_mul_right _ (Nat.log2_self_le hpos)
  · calc num * 2 ^ (52 - num.log2)
        < 2 ^ (num.log2 + 1) * 2 ^ (52 - num.log2) :=
          Nat.mul_lt_mul_of_pos_right Nat.lt_log2_self (Nat.two_pow_pos _)
      _ = 2 ^ 53 := by
          rw [← Nat.pow_add]
          congr 1
          omega

/-- The leading digit of a number that fits the significand stands for `2 ^ 52` at most, so its
distance to that is a power of two to multiply by. -/
theorem toNat_leading (hpos : num ≠ 0) (hlt : num < 2 ^ 53) :
    ((num.log2 : Int) - 52).toNat = 0 ∧ (-((num.log2 : Int) - 52)).toNat = 52 - num.log2 := by
  have hlog : num.log2 < 53 := (Nat.log2_lt hpos).2 hlt
  omega

/-- A whole number that fits the significand is scaled by the power of two that its leading digit
asks for. -/
theorem exponentOf_one (hpos : num ≠ 0) (hlt : num < 2 ^ 53) :
    exponentOf num 1 = (num.log2 : Int) - 52 := by
  obtain ⟨hup, hdown⟩ := toNat_leading hpos hlt
  have hscaled : ¬num * 2 ^ (52 - num.log2) < 2 ^ 52 := not_lt.2 (shifted_bounds hpos hlt).1
  have hguess : (num.log2 : Int) - (Nat.log2 1 : Int) - 52 = (num.log2 : Int) - 52 := by
    have hden : Nat.log2 1 = 0 := rfl
    omega
  simp only [exponentOf, hguess, scaleDown, hup, hdown, Nat.pow_eq, Nat.pow_zero, Nat.mul_one,
    Nat.div_one, hscaled, if_false, leastExponent]
  omega

/-- An integer other than zero that fits the significand is not rounded. -/
theorem ofInt_eq_finite (hzero : value ≠ 0) (hlt : value.natAbs < 2 ^ 53) :
    ofInt value = .finite (value < 0) (value.natAbs * 2 ^ (52 - value.natAbs.log2))
      ((value.natAbs.log2 : Int) - 52) := by
  have hpos : value.natAbs ≠ 0 := Int.natAbs_ne_zero.2 hzero
  obtain ⟨hup, hdown⟩ := toNat_leading hpos hlt
  have hcarried : value.natAbs * 2 ^ (52 - value.natAbs.log2) ≠ 2 ^ 53 :=
    (shifted_bounds hpos hlt).2.ne
  have hfits : ¬greatestExponent < (value.natAbs.log2 : Int) - 52 := by
    unfold greatestExponent
    omega
  simp only [ofInt, ofRatio, hpos, exponentOf_one hpos hlt, scaleDown, hup, hdown, Nat.pow_eq,
    Nat.pow_zero, Nat.mul_one, roundDiv_one, hcarried, hfits, if_false]

theorem toInt64_finite_zero (negative : Bool) (exponent : Int) :
    (finite negative 0 exponent).toInt64 = 0 := by
  rw [toInt64, truncate?, Nat.zero_mul, Nat.zero_div]
  cases negative <;> rfl

/-- The integer part of the double nearest to an integer that fits the significand is that
integer. -/
theorem toInt64_ofInt (hlt : value.natAbs < 2 ^ 53) : (ofInt value).toInt64 = value := by
  rcases eq_or_ne value 0 with rfl | hzero
  · have hdouble : ofInt 0 = zero false := by simp [ofInt, ofRatio]
    rw [hdouble, zero, toInt64_finite_zero]
  · have hpos : value.natAbs ≠ 0 := Int.natAbs_ne_zero.2 hzero
    obtain ⟨hup, hdown⟩ := toNat_leading hpos hlt
    -- Dividing by the power of two takes back what the leading digit was shifted by.
    have hsize : value.natAbs * 2 ^ (52 - value.natAbs.log2) / 2 ^ (52 - value.natAbs.log2) =
        value.natAbs := Nat.mul_div_cancel _ (Nat.two_pow_pos _)
    have htruncate : (ofInt value).truncate? = some value := by
      rw [ofInt_eq_finite hzero hlt]
      simp only [truncate?, hup, hdown, Nat.pow_eq, Nat.pow_zero, Nat.mul_one, hsize,
        decide_eq_true_eq, Option.some.injEq]
      split <;> omega
    have hclamp : clampInt64 value = value := by
      unfold clampInt64
      have : Int.pow 2 63 = 9223372036854775808 := by decide
      omega
    rw [ofInt_eq_finite hzero hlt] at htruncate ⊢
    rw [toInt64, htruncate, Option.getD_some, hclamp]

end AccessPolicy.Binary64
