/-!
# Decimal expansions

Exact integer arithmetic behind decimal texts of positive rationals: the position of the leading
digit, and the quotient of two natural numbers rounded to the nearest integer, ties to even.
-/

namespace NonlinearProgram.Decimal

/-- Number of decimal digits after the first one: the integer logarithm to base ten, or zero. -/
def log (n : Nat) : Nat := if n < 10 then 0 else log (n / 10) + 1
termination_by n

/-- The exponent `k` with `10 ^ k ≤ numerator / denominator < 10 ^ (k + 1)`, for positive
arguments. -/
def leadingExponent (numerator denominator : Nat) : Int :=
  if denominator ≤ numerator then log (numerator / denominator)
  else -(log ((denominator - 1) / numerator) + 1 : Nat)

/-- The integer nearest `numerator / denominator`, ties to even. -/
def roundQuotient (numerator denominator : Nat) : Nat :=
  let quotient := numerator / denominator
  let double := 2 * (numerator % denominator)
  if denominator < double || (double == denominator && quotient % 2 == 1) then quotient + 1
  else quotient

/-- `value · base ^ exponent` as a fraction. -/
def scale (value base : Nat) (exponent : Int) : Nat × Nat :=
  (value * base.pow exponent.toNat, base.pow (-exponent).toNat)

def digits (n : Nat) : List Char := Nat.toDigits 10 n

/-- The text preceded by blanks, so that it is at least `width` long. -/
def alignRight (width : Nat) (text : String) : String :=
  String.ofList (List.replicate (width - text.length) ' ' ++ text.toList)

example : leadingExponent 999 1 = 2 ∧ leadingExponent 1000 1 = 3 ∧ leadingExponent 1 1000 = -3 ∧
    leadingExponent 999 100000 = -3 ∧ leadingExponent 3 20 = -1 := by decide +kernel

example : roundQuotient 5 2 = 2 ∧ roundQuotient 7 2 = 4 ∧ roundQuotient 8 3 = 3 := by decide

end NonlinearProgram.Decimal
