/-!
# Length of a plane vector

`hypotenuse x y` is `√(x² + y²)` to within one unit in the last place. The root of the sum of the
squares is corrected once by the error of its own square, which is found without a cancellation.
Very long and very short vectors are scaled first, and a side too short to matter is only added.
-/

namespace NonlinearProgram

/-- Length from the longer and the shorter side, whose squares neither overflow nor lose digits. -/
def correctedLength (long short : Float) : Float :=
  let root := (long * long + short * short).sqrt
  let error :=
    if root ≤ 2.0 * short then
      let excess := root - short
      long * (2.0 * excess - long) + (excess - 2.0 * (long - short)) * excess
    else
      let excess := root - long
      2.0 * excess * (long - 2.0 * short) + ((4.0 * excess - short) * short + excess * excess)
  root - error / (2.0 * root)

/-- Factor that makes a very long vector short enough, `2 ^ -600`. -/
def lengthScale : Float := Float.ofBits 0x1a70000000000000

/-- Longer side from which on a vector is scaled down, `2 ^ 511`. -/
def longestSide : Float := Float.ofBits 0x5fe0000000000000

/-- Shorter side below which a vector is scaled up, `2 ^ -459`. -/
def shortestSide : Float := Float.ofBits 0x2340000000000000

/-- Ratio of the sides up to which the shorter one hardly matters, `2 ^ -54`. -/
def negligibleRatio : Float := Float.ofBits 0x3c90000000000000

def lengthOfSides (long short : Float) : Float :=
  if longestSide < long then
    if short ≤ long * negligibleRatio then long + short
    else correctedLength (long * lengthScale) (short * lengthScale) / lengthScale
  else if short < shortestSide then
    if short / negligibleRatio ≤ long then long + short
    else correctedLength (long / lengthScale) (short / lengthScale) * lengthScale
  else if short ≤ long * negligibleRatio then long + short
  else correctedLength long short

/-- Length of the vector `(x, y)`: infinite if a side is infinite, else not a number if one is. -/
def hypotenuse (x y : Float) : Float :=
  if x.isInf || y.isInf then Float.ofBits 0x7ff0000000000000
  else if x.isNaN || y.isNaN then Float.ofBits 0x7ff8000000000000
  else if x.abs < y.abs then lengthOfSides y.abs x.abs
  else lengthOfSides x.abs y.abs

example : hypotenuse 3.0 (-4.0) == 5.0 := by decide +kernel

end NonlinearProgram
