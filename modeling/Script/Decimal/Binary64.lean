/-!
# Binary64 words

A binary64 number is a 64-bit word: a sign, and below it a magnitude whose order
is the order of the values.  A finite magnitude is `scale * 2 ^ 52 + significand`
and stands for `significand * 2 ^ scale` units of `2 ^ (-1074)`, the smallest
positive value.  All arithmetic here is exact arithmetic on natural numbers.
-/

namespace Script

/-- A binary64 word. -/
structure Binary64 where
  bits : UInt64
  deriving DecidableEq, Repr

namespace Binary64

/-- The sign, which stands above the magnitude. -/
def signBit : Nat :=
  0x8000000000000000

/-- The first of the 53 bits of a full significand. -/
def leadingBit : Nat :=
  0x10000000000000

/-- The magnitude of an infinity; those above it are not numbers. -/
def infinityMagnitude : Nat :=
  0x7ff0000000000000

/-- The word with a given sign and magnitude. -/
def ofMagnitude (negative : Bool) (magnitude : Nat) : Binary64 :=
  ⟨((if negative then signBit else 0) + magnitude).toUInt64⟩

/-- The infinity of a given sign. -/
def infinity (negative : Bool) : Binary64 :=
  ofMagnitude negative infinityMagnitude

/-- The word that stands for no number. -/
def notANumber : Binary64 :=
  ofMagnitude false 0x7ff8000000000000

/-- Whether the sign is set. -/
def isNegative (word : Binary64) : Bool :=
  signBit ≤ word.bits.toNat

/-- The word without its sign. -/
def magnitude (word : Binary64) : Nat :=
  word.bits.toNat % signBit

/-- Whether the word stands for a number that is not infinite. -/
def isFinite (word : Binary64) : Bool :=
  word.magnitude < infinityMagnitude

/-- Whether the word stands for no number. -/
def isNotANumber (word : Binary64) : Bool :=
  infinityMagnitude < word.magnitude

/-- The exponent of the power of two by which the significand is scaled. -/
def scale (word : Binary64) : Nat :=
  word.magnitude / leadingBit - 1

/-- The integer that is scaled. -/
def significand (word : Binary64) : Nat :=
  word.magnitude - word.scale * leadingBit

/-- A quotient rounded to the nearest integer, a half to the even one. -/
def roundedQuotient (dividend divisor : Nat) : Nat :=
  let quotient := dividend / divisor
  let twice := 2 * (dividend % divisor)
  if twice < divisor ∨ (twice = divisor ∧ quotient % 2 = 0) then
    quotient
  else
    quotient + 1

/--
The word nearest to a fraction, a half going to the even significand.  The
fraction is measured in units of the smallest positive value; a significand has
at most 53 bits, and one that is rounded up to 54 bits carries into the scale.
-/
def ofFraction (negative : Bool) (numerator denominator : Nat) : Binary64 :=
  let units := numerator * Nat.pow 2 1074
  let scale := (units / denominator).log2 - 52
  let rounded := roundedQuotient units (denominator * Nat.pow 2 scale)
  ofMagnitude negative (min (scale * leadingBit + rounded) infinityMagnitude)

end Binary64

end Script
