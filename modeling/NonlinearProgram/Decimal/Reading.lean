import NonlinearProgram.Arith.Basic
import NonlinearProgram.Decimal.Basic

/-!
# Reading numbers

Integers and reals written in decimal. Both may carry a sign. An integer has one or more digits and
fits in 64 bits. A real has digits with at most one point among them, at least one digit on either
side of it, and perhaps an exponent; or it is one of the words for infinity and not-a-number, in any
case. Nothing else, not even a blank, may stand in the text.
-/

namespace NonlinearProgram.Decimal

/-- Splits off a sign; true when it is negative. -/
def splitSign : List Char → Bool × List Char
  | '+' :: rest => (false, rest)
  | '-' :: rest => (true, rest)
  | text => (false, text)

/-- Value of a string of digits, read after the digits of `value`. -/
def readDigits (value : Nat) (text : List Char) : Nat :=
  text.foldl (fun value char => 10 * value + (char.toNat - '0'.toNat)) value

/-- Value of a text of one or more digits. -/
def readNatural? (text : List Char) : Option Nat :=
  if !text.isEmpty && text.all Char.isDigit then some (readDigits 0 text) else none

def readSigned? (text : List Char) : Option Int :=
  let (negative, text) := splitSign text
  (readNatural? text).map fun magnitude => if negative then -(magnitude : Int) else magnitude

def integerRange : Int × Int := (-9223372036854775808, 9223372036854775807)

def readInteger? (text : List Char) : Option Int :=
  (readSigned? text).filter fun value => integerRange.1 ≤ value && value ≤ integerRange.2

/-- A magnitude as it is written. -/
inductive Numeral where
  /-- The number `mantissa · 10 ^ exponent`. -/
  | finite (mantissa : Nat) (exponent : Int)
  | infinite
  | nan
  deriving DecidableEq, Repr

/-- Exponent after the digits: none at all, or an `e` and an integer. -/
def readExponent? : List Char → Option Int
  | [] => some 0
  | char :: rest => if char.toLower = 'e' then readSigned? rest else none

/-- Digits after an integer part: perhaps a point and more digits. -/
def splitFraction : List Char → List Char × List Char
  | '.' :: rest => (rest.takeWhile Char.isDigit, rest.dropWhile Char.isDigit)
  | rest => ([], rest)

def Numeral.read? (text : List Char) : Option Numeral :=
  let lower := text.map Char.toLower
  if lower = "inf".toList ∨ lower = "infinity".toList then some .infinite
  else if lower = "nan".toList then some .nan
  else
    let whole := text.takeWhile Char.isDigit
    let (fraction, rest) := splitFraction (text.dropWhile Char.isDigit)
    if whole.isEmpty && fraction.isEmpty then none
    else (readExponent? rest).map fun exponent =>
      .finite (readDigits (readDigits 0 whole) fraction) (exponent - fraction.length)

/-- Power of ten from which on a number is too large for any arithmetic in use, and below whose
inverse it is too small. -/
def extremeExponent : Int := 400

/-- Nearest value of a numeral. Far too large a number is infinite, far too small a one is zero. -/
def Numeral.toReal {R : Type} [Arith R] : Numeral → R
  | .infinite => Arith.infinity
  | .nan => Arith.nan
  | .finite mantissa exponent =>
      let size := log mantissa + exponent
      if mantissa = 0 then 0
      else if extremeExponent < size then Arith.infinity
      else if size < -extremeExponent then 0
      else OfScientific.ofScientific mantissa (decide (exponent < 0)) exponent.natAbs

def readReal? {R : Type} [Arith R] (text : List Char) : Option R :=
  let (negative, text) := splitSign text
  (Numeral.read? text).map fun numeral => if negative then -numeral.toReal else numeral.toReal

example : readInteger? "+12".toList = some 12 ∧ readInteger? "-9223372036854775808".toList =
    some (-9223372036854775808) ∧ readInteger? "9223372036854775808".toList = none ∧
    readInteger? "1_0".toList = none ∧ readInteger? "+".toList = none := by decide

example : Numeral.read? "1.50e-3".toList = some (.finite 150 (-5)) ∧
    Numeral.read? ".5E2".toList = some (.finite 5 1) ∧
    Numeral.read? "7.".toList = some (.finite 7 0) ∧
    Numeral.read? ".".toList = none ∧ Numeral.read? "1e".toList = none ∧
    Numeral.read? "Infinity".toList = some .infinite := by decide

end NonlinearProgram.Decimal
