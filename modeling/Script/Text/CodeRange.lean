/-!
# Ranges of code points

A character class is a table of inclusive ranges of code points, in ascending
order and without overlap.  This file holds the range type and the membership
test which every class uses.
-/

namespace Script.Text

/-- The code points from `first` to `last`, both included. -/
structure CodeRange where
  first : Nat
  last : Nat
  deriving DecidableEq, Repr

namespace CodeRange

/-- Whether the range holds the character. -/
def holds (range : CodeRange) (character : Char) : Bool :=
  range.first ≤ character.toNat && character.toNat ≤ range.last

/-- Whether some range of a table holds the character. -/
def covers (table : List CodeRange) (character : Char) : Bool :=
  table.any fun range => range.holds character

end CodeRange

end Script.Text
