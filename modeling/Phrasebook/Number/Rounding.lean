/-!
# Rounded quotients

The quotient of two natural numbers rounded to the nearest integer, a half going to the even
neighbour.
-/

namespace Phrasebook.Number

/-- The quotient rounded to the nearest integer, a half to the even neighbour. -/
def roundDiv (num den : Nat) : Nat :=
  let quotient := num / den
  let rest := num % den
  if 2 * rest < den then quotient
  else if den < 2 * rest then quotient + 1
  else if quotient % 2 = 0 then quotient else quotient + 1

/-- An exact quotient is not changed. -/
theorem roundDiv_mul_self (q den : Nat) (h : 0 < den) : roundDiv (q * den) den = q := by
  simp [roundDiv, Nat.mul_div_cancel _ h, Nat.mul_mod_left, h]

/-- A rounded quotient is the quotient or the integer above it. -/
theorem roundDiv_eq_or (num den : Nat) :
    roundDiv num den = num / den ∨ roundDiv num den = num / den + 1 := by
  unfold roundDiv
  grind

end Phrasebook.Number
