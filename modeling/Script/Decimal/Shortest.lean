import Script.Decimal.Binary64

/-!
# Shortest digits

Every real number close enough to a binary64 value rounds to it.  The shortest
digits of the value are the fewest that name a decimal in this interval; of two
such decimals the nearer one is taken.  On each grid of decimals only the two
neighbours of the value have to be looked at.
-/

namespace Script.Decimal

/-- Where a value goes that lies half-way between two decimals. -/
inductive Tie where
  | toEven
  | upward
  deriving DecidableEq, Repr

/-- Decimal digits `d₀ d₁ d₂ …` that stand for `d₀.d₁d₂… * 10 ^ exponent`. -/
structure Scientific where
  digits : List Char
  exponent : Int
  deriving DecidableEq, Repr

/--
A value between the ends of the interval that rounds to it, all in quarters of
the smallest positive value.  The ends belong to it where `closed` says so.
-/
structure Interval where
  low : Nat
  value : Nat
  high : Nat
  closed : Bool
  deriving DecidableEq, Repr

namespace Interval

/--
The interval of a finite word.  Its ends lie half-way to the neighbouring values;
below a power of two the neighbour is only half as far.
-/
def ofWord (word : Binary64) : Interval :=
  let unit := Nat.pow 2 word.scale
  let value := 4 * word.significand * unit
  let narrow := word.significand = Binary64.leadingBit ∧ 0 < word.scale
  { low := value - (if narrow then unit else 2 * unit)
    value := value
    high := value + 2 * unit
    closed := word.significand % 2 = 0 }

/-- A multiple of `10 ^ exponent`, as a numerator over `gridDenominator`. -/
def gridNumerator (multiple : Nat) (exponent : Int) : Nat :=
  multiple * Nat.pow 10 exponent.toNat * Nat.pow 2 1076

/-- What the ends are multiplied by when they are compared with grid points. -/
def gridDenominator (exponent : Int) : Nat :=
  Nat.pow 10 (-exponent).toNat

/-- Whether a multiple of `10 ^ exponent` lies in the interval. -/
def holds (interval : Interval) (multiple : Nat) (exponent : Int) : Bool :=
  let point := gridNumerator multiple exponent
  let low := interval.low * gridDenominator exponent
  let high := interval.high * gridDenominator exponent
  if interval.closed then
    low ≤ point && point ≤ high
  else
    low < point && point < high

/-- The greatest multiple of `10 ^ exponent` not above the value. -/
def multipleBelow (interval : Interval) (exponent : Int) : Nat :=
  interval.value * gridDenominator exponent / gridNumerator 1 exponent

/-- The nearer of the two multiples of `10 ^ exponent` around the value. -/
def nearerMultiple (interval : Interval) (tie : Tie) (exponent : Int) : Nat :=
  let below := interval.multipleBelow exponent
  let value := 2 * (interval.value * gridDenominator exponent)
  let middle := gridNumerator (2 * below + 1) exponent
  if value < middle then
    below
  else if middle < value then
    below + 1
  else
    match tie with
    | .upward => below + 1
    | .toEven => if below % 2 = 0 then below else below + 1

/-- The multiple of `10 ^ exponent` to take, if one lies in the interval. -/
def multiple? (interval : Interval) (tie : Tie) (exponent : Int) : Option Nat :=
  let below := interval.multipleBelow exponent
  match interval.holds below exponent, interval.holds (below + 1) exponent with
  | true, true => some (interval.nearerMultiple tie exponent)
  | true, false => some below
  | false, true => some (below + 1)
  | false, false => none

/--
The exponent of the first digit of the value.  Multiplied by `10 ^ 330`, every
positive value is at least one.
-/
def leadingExponent (interval : Interval) : Int :=
  ((Nat.toDigits 10 (interval.value * Nat.pow 10 330 / Nat.pow 2 1076)).length : Int) - 331

/-- Digits without the zeros at their end. -/
def stripped (digits : List Char) : List Char :=
  (digits.reverse.dropWhile (· = '0')).reverse

/-- The scientific form of a multiple of `10 ^ exponent`. -/
def scientific (multiple : Nat) (exponent : Int) : Scientific :=
  let digits := Nat.toDigits 10 multiple
  ⟨stripped digits, exponent + (digits.length : Int) - 1⟩

/-- The fewest digits that name a decimal in the interval; seventeen always do. -/
def shortest (interval : Interval) (tie : Tie) : Scientific :=
  let leading := interval.leadingExponent
  let found :=
    (List.range 17).findSome? fun (further : Nat) =>
      let exponent := leading - (further : Int)
      (interval.multiple? tie exponent).map fun multiple => scientific multiple exponent
  found.getD (scientific (interval.nearerMultiple tie (leading - 16)) (leading - 16))

end Interval

/-- The shortest digits of a finite word, its sign left out. -/
def shortest (tie : Tie) (word : Binary64) : Scientific :=
  if word.magnitude = 0 then
    ⟨['0'], 0⟩
  else
    (Interval.ofWord word).shortest tie

end Script.Decimal
