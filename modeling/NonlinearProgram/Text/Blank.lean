import NonlinearProgram.Text.Words

/-!
# White space

The characters with the Unicode property `White_Space`, and `trim`, which removes them at both ends
of a text.
-/

namespace NonlinearProgram

/-- First and last code point of each range of white space. -/
def blankRanges : List (Nat × Nat) :=
  [(0x09, 0x0D), (0x20, 0x20), (0x85, 0x85), (0xA0, 0xA0), (0x1680, 0x1680), (0x2000, 0x200A),
    (0x2028, 0x2029), (0x202F, 0x202F), (0x205F, 0x205F), (0x3000, 0x3000)]

/-- The character lies in one of the ranges. -/
def inRanges (ranges : List (Nat × Nat)) (char : Char) : Bool :=
  ranges.any fun (first, last) => first ≤ char.toNat && char.toNat ≤ last

def isBlank (char : Char) : Bool := inRanges blankRanges char

/-- The text without white space at its ends. -/
def trim (text : List Char) : List Char :=
  ((text.dropWhile isBlank).reverse.dropWhile isBlank).reverse

example : words isBlank " \tmajor  Iterations\u00a0LIMIT ".toList =
    ["major".toList, "Iterations".toList, "LIMIT".toList] := by decide

example : trim "\u3000 yes \n".toList = "yes".toList := by decide

end NonlinearProgram
