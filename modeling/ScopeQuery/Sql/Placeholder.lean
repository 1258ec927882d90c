/-!
# Placeholder names

The names of bound parameters, numbered from zero: the 26 letters, then all
pairs of letters, then all triples. A name is the numeral of its successor in
base 26 with digits from one to 26, so no digit stands for zero.
-/

namespace ScopeQuery

/-- The letter of a digit from 0 to 25. -/
def placeholderLetter (digit : Nat) : Char := Char.ofNat ('a'.toNat + digit)

/-- The letters of a positive number, none for zero. -/
def placeholderLetters : Nat → List Char
  | 0 => []
  | n + 1 => placeholderLetters (n / 26) ++ [placeholderLetter (n % 26)]
termination_by n => n
decreasing_by omega

/-- The name of the parameter with this index. -/
def placeholderName (index : Nat) : String := String.ofList (placeholderLetters (index + 1))

end ScopeQuery
