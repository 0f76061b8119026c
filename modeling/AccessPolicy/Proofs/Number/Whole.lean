import AccessPolicy.Number.Whole
import Mathlib.Algebra.Order.Ring.Nat

/-!
# Decimal digits

The digits of a number, with or without zeros in front, denote the number
(`digitsValue_padded`), and a number that is small enough has exactly as many digits as it is filled
up to (`length_padded`). What is written for a number of 64 bits is read as the number
(`readWord?_integerText`).
-/

namespace AccessPolicy

variable {width n : Nat}

theorem isDigit_of_mem_padded {c : Char} (h : c ∈ padded width n) : c.isDigit = true := by
  rw [padded, List.mem_append] at h
  rcases h with hzero | hdigit
  · rw [List.eq_of_mem_replicate hzero]
    rfl
  · exact Nat.isDigit_of_mem_toDigits (by decide) (by decide) hdigit

/-- Zeros in front of digits add nothing. -/
@[simp]
theorem digitsValue_padded (width n : Nat) : digitsValue (padded width n) = n := by
  rw [digitsValue, padded, Nat.ofDigitChars_append, Nat.ofDigitChars_replicate_zero, Nat.mul_zero,
    Nat.ofDigitChars_ten_toDigits]

theorem padded_ne_nil (width n : Nat) : padded width n ≠ [] := by
  rw [padded]
  exact List.append_ne_nil_of_right_ne_nil _ Nat.toDigits_ne_nil

/-- A number that fits a width takes exactly that width. -/
theorem length_padded (hpos : 0 < width) (h : n < 10 ^ width) :
    (padded width n).length = width := by
  have hle : (Nat.toDigits 10 n).length ≤ width := (Nat.length_toDigits_le_iff (by decide) hpos).2 h
  rw [padded, List.length_append, List.length_replicate]
  omega

/-- The digits of a number that fits 64 bits are read as the number. -/
theorem readWord?_integerText (h : n < Nat.pow 2 64) : readWord? (integerText n) = some n := by
  have htext : (integerText n).toList = padded 1 n := by simp [integerText]
  have hread : readDigits? (padded 1 n) = some n := by
    have hall : (padded 1 n).all Char.isDigit = true :=
      List.all_eq_true.2 fun c hc => isDigit_of_mem_padded hc
    simp [readDigits?, padded_ne_nil, hall]
  rw [readWord?, htext]
  split
  next rest hplus =>
    -- A digit is no sign.
    have hmem : '+' ∈ padded 1 n := by simp [hplus]
    exact absurd (isDigit_of_mem_padded hmem) (by decide)
  next => simp [hread, h]

end AccessPolicy
