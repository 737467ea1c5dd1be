import NonlinearProgram.Arith.Magnitude
import NonlinearProgram.Decimal.Basic

/-!
# Scientific notation

`Decimal.scientific places value` writes a double with one digit before the point and `places`
digits after it, an `e`, and the exponent with neither plus sign nor padding. The digits are those
of the exact value, rounded to nearest with ties to even.
-/

namespace NonlinearProgram.Decimal

/-- Rounded digits of a positive fraction as an integer of `places + 1` digits, and the exponent of
the first of them. -/
def significant (places : Nat) (numerator denominator : Nat) : Nat × Int :=
  let exponent := leadingExponent numerator denominator
  let (up, down) := scale 1 10 (places - exponent)
  let rounded := roundQuotient (numerator * up) (denominator * down)
  -- Rounding up may carry into one more digit.
  if rounded = Nat.pow 10 (places + 1) then (Nat.pow 10 places, exponent + 1)
  else (rounded, exponent)

/-- Digits of a number with a point after the first one; a single digit has none. -/
def pointed (count : Nat) : String :=
  String.ofList <| match digits count with
    | first :: second :: rest => first :: '.' :: second :: rest
    | single => single

/-- A finite magnitude in scientific notation; zero has the exponent zero. -/
def unsignedScientific (places : Nat) (magnitude : Magnitude) : String :=
  if magnitude.mantissa = 0 then
    let zeros := if places = 0 then "" else "." ++ String.ofList (List.replicate places '0')
    "0" ++ zeros ++ "e0"
  else
    let (numerator, denominator) := scale magnitude.mantissa 2 magnitude.exponent
    let (rounded, exponent) := significant places numerator denominator
    pointed rounded ++ "e" ++ toString exponent

/-- A text of a magnitude made a text of a double: values that are not finite have names, and a
negative sign, also that of a zero, stands in front. -/
def signed (text : Magnitude → String) (value : Float) : String :=
  if value.isNaN then "NaN"
  else
    let magnitude := if value.isInf then "inf" else text (.ofFloat value)
    if value.toBits >>> 63 == 1 then "-" ++ magnitude else magnitude

/-- A double in scientific notation with `places` digits after the point. -/
def scientific (places : Nat) (value : Float) : String := signed (unsignedScientific places) value

end NonlinearProgram.Decimal
