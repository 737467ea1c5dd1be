import NonlinearProgram.Decimal.Scientific

/-!
# Shortest decimal text

The fewest digits that read back as the same double, and the nearest such number if there are
several; of two equally near ones the larger. The text is positional throughout, and an integer has
no point.

A number reads back as a double when it lies in the interval of reals that round to it. The ends of
the interval belong to it exactly when the mantissa is even, since ties go to even.
-/

namespace NonlinearProgram.Decimal

/-- Lower end, value and upper end of the reals that round to a magnitude, as numerators over one
denominator. Below a power of two the spacing is halved. -/
structure RoundingInterval where
  lower : Nat
  value : Nat
  upper : Nat
  denominator : Nat
  /-- The ends round to the magnitude as well. -/
  closed : Bool

/-- The reals that round to a positive magnitude. -/
def RoundingInterval.of (magnitude : Magnitude) : RoundingInterval :=
  let (unit, denominator) := scale 1 2 (magnitude.exponent - 2)
  let value := 4 * magnitude.mantissa
  let below :=
    if magnitude.mantissa = Magnitude.hiddenBit ∧ -1074 < magnitude.exponent then 1 else 2
  { lower := (value - below) * unit, value := value * unit, upper := (value + 2) * unit
    denominator, closed := magnitude.mantissa % 2 == 0 }

/-- The number `count · 10 ^ grid` reads back. -/
def RoundingInterval.contains (interval : RoundingInterval) (count : Nat) (grid : Int) : Bool :=
  let (up, down) := scale 1 10 grid
  let number := count * up * interval.denominator
  let lower := interval.lower * down
  let upper := interval.upper * down
  if interval.closed then lower ≤ number && number ≤ upper else lower < number && number < upper

/-- The neighbour of the value on a decimal grid that reads back and is nearest, the larger of two
equally near ones, if one does. -/
def RoundingInterval.onGrid? (interval : RoundingInterval) (grid : Int) : Option Nat :=
  let (up, down) := scale 1 10 grid
  let numerator := interval.value * down
  let denominator := interval.denominator * up
  let floor := numerator / denominator
  let double := 2 * (numerator % denominator)
  (if denominator ≤ double then [floor + 1, floor] else [floor, floor + 1]).find? fun count =>
    interval.contains count grid

/-- Digits and grid of the coarsest grid at or below `grid` on which a number reads back, among the
next `steps` ones. -/
def RoundingInterval.coarsest (interval : RoundingInterval) : Nat → Int → Nat × Int
  | 0, grid => (interval.onGrid? grid |>.getD 0, grid)
  | steps + 1, grid =>
      match interval.onGrid? grid with
      | some count => (count, grid)
      | none => interval.coarsest steps (grid - 1)

/-- The same number with its trailing zeros moved into the exponent. -/
def withoutZeros (count : Nat) (grid : Int) : Nat × Int :=
  if count ≠ 0 ∧ count % 10 = 0 then withoutZeros (count / 10) (grid + 1) else (count, grid)
termination_by count

/-- `count · 10 ^ grid` in positional notation. -/
def positional (count : Nat) (grid : Int) : String :=
  let text := digits count
  let after := (-grid).toNat
  if after = 0 then String.ofList (text ++ List.replicate grid.toNat '0')
  else
    let padded := List.replicate (after + 1 - text.length) '0' ++ text
    let (before, fraction) := padded.splitAt (padded.length - after)
    String.ofList (before ++ '.' :: fraction)

/-- Shortest digits of a positive magnitude, without zeros at their end, and the grid on which they
count. Seventeen digits always suffice. -/
def shortestDigits (magnitude : Magnitude) : Nat × Int :=
  let (numerator, denominator) := scale magnitude.mantissa 2 magnitude.exponent
  let (count, grid) :=
    (RoundingInterval.of magnitude).coarsest 17 (leadingExponent numerator denominator)
  withoutZeros count grid

def unsignedShortest (magnitude : Magnitude) : String :=
  if magnitude.mantissa = 0 then "0"
  else
    let (count, grid) := shortestDigits magnitude
    positional count grid

/-- Shortest positional text of a double. -/
def shortest (value : Float) : String := signed unsignedShortest value

example : (unsignedShortest ⟨6103515625000000, 14⟩).toList = "100000000000000000000".toList ∧
    (unsignedShortest ⟨2 ^ 52 + 1, -2⟩).toList = "1125899906842624.3".toList := by decide +kernel

end NonlinearProgram.Decimal
