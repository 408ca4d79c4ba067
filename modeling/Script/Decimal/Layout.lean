import Script.Decimal.Shortest

/-!
# Layouts of decimal numbers

A layout says how the shortest digits of a binary64 word are written: where the
value goes that lies half-way between two decimals, which exponents are written
in full, whether a whole number keeps its point, and what stands for infinities
and for what is not a number.
-/

namespace Script.Decimal

/-- How a binary64 word is written. -/
structure Layout where
  tie : Tie
  /-- Whether a number whose first digit has this exponent is written in full. -/
  inFull : Int → Bool
  /-- Whether a whole number that is written in full ends in a point and a zero. -/
  keepsPoint : Bool
  /-- What stands for the infinity of a given sign. -/
  infinity : Bool → String
  /-- What stands for a word that is not a number. -/
  notANumber : String

/-- Digits written in full, with zeros wherever the exponent asks for them. -/
def inFull (keepsPoint : Bool) (number : Scientific) : List Char :=
  let whole := (number.exponent + 1).toNat
  if number.exponent < 0 then
    "0.".toList ++ List.replicate (-number.exponent - 1).toNat '0' ++ number.digits
  else if number.digits.length ≤ whole then
    number.digits ++ List.replicate (whole - number.digits.length) '0'
      ++ (if keepsPoint then ".0".toList else [])
  else
    number.digits.take whole ++ ['.'] ++ number.digits.drop whole

/-- Digits with a point after the first one, and a signed exponent. -/
def withExponent (number : Scientific) : List Char :=
  let fraction := number.digits.drop 1
  number.digits.take 1
    ++ (if fraction.isEmpty then [] else '.' :: fraction)
    ++ (if number.exponent < 0 then "e-".toList else "e+".toList)
    ++ Nat.toDigits 10 number.exponent.natAbs

/-- A binary64 word written in a layout. -/
def Layout.write (layout : Layout) (word : Binary64) : String :=
  if word.isNotANumber then
    layout.notANumber
  else if word.isFinite then
    let number := shortest layout.tie word
    let digits :=
      if layout.inFull number.exponent then
        Decimal.inFull layout.keepsPoint number
      else
        withExponent number
    String.ofList (if word.isNegative then '-' :: digits else digits)
  else
    layout.infinity word.isNegative

end Script.Decimal
