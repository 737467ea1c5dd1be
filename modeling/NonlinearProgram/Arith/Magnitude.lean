/-!
# Magnitudes of doubles

A finite double is an integer times a power of two, apart from its sign. Everything that has to be
exact about a double, such as its decimal digits, starts from these two integers.
-/

namespace NonlinearProgram

/-- A finite double written as `mantissa · 2 ^ exponent`, its sign left out. -/
structure Magnitude where
  mantissa : Nat
  exponent : Int
  deriving BEq, DecidableEq, Repr

/-- The bit `2 ^ 52` of the mantissa, which a double does not store. It is set unless the double is
subnormal. -/
def Magnitude.hiddenBit : Nat := 4503599627370496

/-- Magnitude of a finite double, read off its bits. -/
def Magnitude.ofFloat (value : Float) : Magnitude :=
  let bits := value.toBits.toNat
  let fraction := bits % hiddenBit
  let biased := bits / hiddenBit % 2048
  if biased = 0 then ⟨fraction, -1074⟩ else ⟨fraction + hiddenBit, Int.ofNat biased - 1075⟩

end NonlinearProgram
