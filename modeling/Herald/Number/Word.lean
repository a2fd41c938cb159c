/-!
# Whole numbers of a word

Whole numbers are kept in words of 64 binary digits, with a sign or without.
-/

namespace Herald.Word

/-- How many numbers a word can tell apart. -/
def count : Nat := Nat.pow 2 64

/-- The distance from zero that a number with a sign stays within. -/
def half : Nat := Nat.pow 2 63

/-- Whether a number fits a word without a sign. -/
def fits (n : Nat) : Bool :=
  n < count

/-- Whether a number fits a word with a sign. -/
def fitsSigned (n : Int) : Bool :=
  -(half : Int) ≤ n && n < (half : Int)

end Herald.Word
