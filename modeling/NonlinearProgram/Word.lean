/-!
# Machine words

Sizes and counts are words of 64 bits. A sum or a product that is too large for a word wraps around,
unless the program caps it at the largest word.
-/

namespace NonlinearProgram

/-- Number of different words. -/
def wordCount : Nat := 18446744073709551616

/-- The number is a word. -/
def FitsWord (value : Nat) : Prop := value < wordCount

instance (value : Nat) : Decidable (FitsWord value) :=
  inferInstanceAs (Decidable (value < wordCount))

/-- The word that a number wraps around to. -/
def wrap (value : Nat) : Nat := value % wordCount

/-- The number itself, or the largest word where the number is larger. -/
def cap (value : Nat) : Nat := min value (wordCount - 1)

theorem FitsWord.wrap {value : Nat} (fits : FitsWord value) : wrap value = value :=
  Nat.mod_eq_of_lt fits

example : wrap (wordCount - 1 + 1) = 0 := by decide

end NonlinearProgram
