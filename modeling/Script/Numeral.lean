import Script.Decimal.Layout
import Script.Decimal.Reader

/-!
# Numerals

The value of a number token.  A run of digits below `2 ^ 64` is an exact integer;
anything else is the nearest binary64 word.
-/

namespace Script

/-- The value of a number. -/
inductive Numeral where
  | integer (value : UInt64)
  | real (value : Binary64)
  deriving DecidableEq, Repr

namespace Numeral

/-- Why a text is no numeral. -/
inductive Fault where
  | empty
  | malformed
  deriving DecidableEq, Repr

/-- What is wrong with a text that is no numeral. -/
def Fault.message : Fault → String
  | .empty => "cannot parse float from empty string"
  | .malformed => "invalid float literal"

/-- The integer that a text spells out: digits, perhaps after a plus. -/
def integer? (text : List Char) : Option UInt64 :=
  let digits :=
    match text with
    | '+' :: rest => rest
    | _ => text
  if digits.isEmpty || !digits.all Char.isDigit then
    none
  else
    let value := Decimal.digitsValue digits
    if value < UInt64.size then some value.toUInt64 else none

/-- The numeral that a text spells out. -/
def read (text : String) : Except Fault Numeral :=
  match integer? text.toList with
  | some value => .ok (.integer value)
  | none =>
      match Decimal.read? text.toList with
      | some value => .ok (.real value)
      | none => .error (if text.toList.isEmpty then .empty else .malformed)

/-- Numbers for readers: all digits are written, and no point where none is needed. -/
def plainLayout : Decimal.Layout where
  tie := .upward
  inFull := fun _ => true
  keepsPoint := false
  infinity := fun negative => if negative then "-inf" else "inf"
  notANumber := "NaN"

/--
Numbers for machines: an exponent from `10 ^ 16` on and below `10 ^ (-5)`, a
point in every number without one, and `null` for what no number can stand for.
-/
def dataLayout : Decimal.Layout where
  tie := .toEven
  inFull := fun exponent => -5 ≤ exponent && exponent < 16
  keepsPoint := true
  infinity := fun _ => "null"
  notANumber := "null"

/-- The digits of an integer. -/
def integerText (value : UInt64) : String :=
  String.ofList (Nat.toDigits 10 value.toNat)

/-- A numeral for readers. -/
def plainText : Numeral → String
  | .integer value => integerText value
  | .real value => plainLayout.write value

/-- A numeral for machines. -/
def dataText : Numeral → String
  | .integer value => integerText value
  | .real value => dataLayout.write value

end Numeral

end Script
