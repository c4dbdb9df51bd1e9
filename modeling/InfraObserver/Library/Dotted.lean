import Mathlib.Data.List.Infix

/-!
# Numbers with full stops between them

The text of a sequence of numbers, as in object identifiers and versions. Such a
text can be a prefix of another one in the middle of a number; if it is not, the
numbers are a prefix of the other numbers.
-/

namespace Dotted

/-- The text of a sequence of numbers. -/
def chars : List ℕ → List Char
  | [] => []
  | [number] => Nat.toDigits 10 number
  | number :: next :: rest => Nat.toDigits 10 number ++ '.' :: chars (next :: rest)

end Dotted
