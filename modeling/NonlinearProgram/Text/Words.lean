/-!
# Words

The maximal runs of characters that do not separate, whatever the class of characters that does.
-/

namespace NonlinearProgram

/-- The characters before the first separator, and the words of the rest. -/
def splitWords (separates : Char → Bool) : List Char → List Char × List (List Char)
  | [] => ([], [])
  | char :: rest =>
      let (first, others) := splitWords separates rest
      if separates char then ([], if first.isEmpty then others else first :: others)
      else (char :: first, others)

/-- Maximal runs of characters that do not separate, in order. -/
def words (separates : Char → Bool) (text : List Char) : List (List Char) :=
  let (first, others) := splitWords separates text
  if first.isEmpty then others else first :: others

example : words (· == '/') "/a//bc/".toList = ["a".toList, "bc".toList] := by decide

end NonlinearProgram
