import Script.Decimal.Binary64

/-!
# Reading decimal fractions

A decimal fraction has an optional sign, digits with an optional point among
them, and an optional exponent; or it is one of the words for infinities and for
what is not a number, in any case of letters.  It is read as the nearest binary64
word.
-/

namespace Script.Decimal

/-- The value of a run of decimal digits. -/
def digitsValue (digits : List Char) : Nat :=
  digits.foldl (fun value digit => 10 * value + (digit.toNat - '0'.toNat)) 0

/--
The value of the digits of an exponent.  Once it has reached `2 ^ 16` it is
beyond the range of every format, and further digits are passed over.
-/
def exponentValue (digits : List Char) : Nat :=
  digits.foldl
    (fun value digit =>
      if value < 0x10000 then 10 * value + (digit.toNat - '0'.toNat) else value)
    0

/-- A text without a leading sign, and whether that sign was a minus. -/
def splitSign : List Char → Bool × List Char
  | '-' :: rest => (true, rest)
  | '+' :: rest => (false, rest)
  | text => (false, text)

/-- The exponent that a text consists of. -/
def exponent? (text : List Char) : Option Int :=
  let (negative, digits) := splitSign text
  if digits.isEmpty || !digits.all Char.isDigit then
    none
  else if negative then
    some (-(exponentValue digits : Int))
  else
    some (exponentValue digits)

/-- The exponent that follows the digits of a fraction; nothing stands for zero. -/
def exponentPart? : List Char → Option Int
  | [] => some 0
  | mark :: text =>
      if mark = 'e' ∨ mark = 'E' then exponent? text else none

/-- The word nearest to an integer times a power of ten. -/
def scaled (negative : Bool) (coefficient : Nat) (exponent : Int) : Binary64 :=
  if 0 ≤ exponent then
    Binary64.ofFraction negative (coefficient * Nat.pow 10 exponent.toNat) 1
  else
    Binary64.ofFraction negative coefficient (Nat.pow 10 (-exponent).toNat)

/-- The fraction that an unsigned text spells out in digits. -/
def digits? (negative : Bool) (text : List Char) : Option Binary64 :=
  let whole := text.takeWhile Char.isDigit
  let afterWhole := text.dropWhile Char.isDigit
  let afterPoint :=
    match afterWhole with
    | '.' :: rest => rest
    | _ => []
  let fraction := afterPoint.takeWhile Char.isDigit
  let afterFraction :=
    match afterWhole with
    | '.' :: rest => rest.dropWhile Char.isDigit
    | rest => rest
  if whole.isEmpty && fraction.isEmpty then
    none
  else
    (exponentPart? afterFraction).map fun exponent =>
      scaled negative (digitsValue (whole ++ fraction)) (exponent - fraction.length)

/-- The number that an unsigned text names by a word. -/
def word? (negative : Bool) (text : List Char) : Option Binary64 :=
  let lower := String.ofList (text.map Char.toLower)
  if lower = "inf" ∨ lower = "infinity" then
    some (Binary64.infinity negative)
  else if lower = "nan" then
    some Binary64.notANumber
  else
    none

/-- The binary64 word that a text stands for. -/
def read? (text : List Char) : Option Binary64 :=
  let (negative, unsigned) := splitSign text
  (digits? negative unsigned).orElse fun _ => word? negative unsigned

end Script.Decimal
