import Mathlib.Algebra.Order.Field.Rat
import Mathlib.Algebra.Order.Field.Power
import Mathlib.Data.List.DropRight
import Mathlib.Tactic.FieldSimp
import Mathlib.Tactic.Linarith
import Mathlib.Tactic.Positivity
import Mathlib.Tactic.Ring
import Script.Decimal.Layout

/-!
# The shortest digits of a word

The digits that are found for a word are those of a positive number, and the first of
them is not zero.  Where a grid is fine enough for the interval of a word, one of the
two neighbours of the value lies in the interval; seventeen digits are fine enough for
every word with a full significand.

Points of a grid are rational numbers here, in the unit of the ends of intervals.
-/

namespace Script.Decimal

/-! ## Digits -/

/-- The first digit of a positive number is not zero. -/
theorem head?_toDigits_ne_zero {number : Nat} (positive : 0 < number) :
    (Nat.toDigits 10 number).head? ≠ some '0' := by
  induction number using Nat.strong_induction_on with
  | _ number inductionHypothesis =>
      rw [Nat.toDigits_eq_if (by decide)]
      split
      · next small =>
          have settled : ∀ digit < 10, 0 < digit → [Nat.digitChar digit].head? ≠ some '0' := by
            decide
          exact settled number small positive
      · next large =>
          have nonempty : Nat.toDigits 10 (number / 10) ≠ [] := Nat.toDigits_ne_nil
          rw [List.head?_append_of_ne_nil _ nonempty]
          exact inductionHypothesis _ (by omega) (by omega)

theorem isDigit_of_mem_zeros {count : Nat} {digit : Char}
    (member : digit ∈ List.replicate count '0') : digit.isDigit = true := by
  rw [(List.mem_replicate.1 member).2]
  rfl

theorem isDigit_toDigits (value : Nat) :
    ∀ digit ∈ Nat.toDigits 10 value, digit.isDigit = true :=
  fun _ member => Nat.isDigit_of_mem_toDigits (by decide) (by decide) member

/-- Digits of a positive number, the first of which is not zero. -/
structure Scientific.Proper (number : Scientific) : Prop where
  nonempty : number.digits ≠ []
  digits : ∀ digit ∈ number.digits, digit.isDigit = true
  significant : number.digits.head? ≠ some '0'

namespace Interval

/-- Only zeros at the end are stripped. -/
theorem exists_eq_stripped_append (digits : List Char) :
    ∃ zeros, digits = stripped digits ++ List.replicate zeros '0' := by
  let isZero : Char → Bool := (· = '0')
  have taken : ∀ digit ∈ digits.reverse.takeWhile isZero, digit = '0' := fun digit member => by
    simpa [isZero] using List.mem_takeWhile_imp member
  refine ⟨(digits.reverse.takeWhile isZero).length, ?_⟩
  have split := congrArg List.reverse (List.takeWhile_append_dropWhile (p := isZero)
    (l := digits.reverse))
  rw [List.reverse_append, List.reverse_reverse, List.eq_replicate_of_mem taken,
    List.reverse_replicate] at split
  simpa [stripped, isZero] using split.symm

/-- The scientific form of a positive multiple is proper. -/
theorem proper_scientific {multiple : Nat} (positive : 0 < multiple) (exponent : Int) :
    (scientific multiple exponent).Proper := by
  rcases exists_eq_stripped_append (Nat.toDigits 10 multiple) with ⟨zeros, whole⟩
  have significant := head?_toDigits_ne_zero positive
  have nonempty : stripped (Nat.toDigits 10 multiple) ≠ [] := by
    intro empty
    rw [empty, List.nil_append] at whole
    have some_digit : Nat.toDigits 10 multiple ≠ [] := Nat.toDigits_ne_nil
    cases zeros with
    | zero => exact some_digit whole
    | succ zeros => exact significant (by rw [whole]; rfl)
  refine ⟨nonempty, fun digit member => ?_, fun isZero => significant ?_⟩
  · have isDigit : digit ∈ Nat.toDigits 10 multiple := by
      rw [whole]
      exact List.mem_append_left _ member
    exact isDigit_toDigits multiple digit isDigit
  · rw [whole, List.head?_append_of_ne_nil _ nonempty]
    exact isZero

/-! ## Grids -/

/-- One, in the unit of the ends of intervals. -/
@[irreducible]
def one : Nat :=
  Nat.pow 2 1076

theorem exists_one_eq : ∃ places, places = 1076 ∧ one = 2 ^ places := by
  refine ⟨1076, rfl, ?_⟩
  decide +kernel

theorem one_pos : 0 < one := by
  rcases exists_one_eq with ⟨places, _, one_eq⟩
  rw [one_eq]
  exact Nat.two_pow_pos places

theorem gridNumerator_eq_mul (multiple : Nat) (exponent : Int) :
    gridNumerator multiple exponent = multiple * 10 ^ exponent.toNat * one := by
  unfold gridNumerator one
  rfl

/-- A multiple of a power of ten, in the unit of the ends of intervals. -/
def point (multiple : Nat) (exponent : Int) : ℚ :=
  multiple * (10 : ℚ) ^ exponent * one

/-- Whether a rational number lies in an interval. -/
def Contains (interval : Interval) (number : ℚ) : Prop :=
  if interval.closed then
    (interval.low : ℚ) ≤ number ∧ number ≤ interval.high
  else
    (interval.low : ℚ) < number ∧ number < interval.high

theorem point_one_pos (exponent : Int) : 0 < point 1 exponent := by
  have positive : (0 : ℚ) < one := by exact_mod_cast one_pos
  have power : (0 : ℚ) < (10 : ℚ) ^ exponent := by positivity
  rw [point]
  positivity

theorem point_eq_mul (multiple : Nat) (exponent : Int) :
    point multiple exponent = multiple * point 1 exponent := by
  simp only [point, Nat.cast_one, one_mul, mul_assoc]

theorem point_one_mono {exponent other : Int} (below : exponent ≤ other) :
    point 1 exponent ≤ point 1 other := by
  have power : (10 : ℚ) ^ exponent ≤ 10 ^ other := zpow_le_zpow_right₀ (by norm_num) below
  have positive : (0 : ℚ) ≤ one := by positivity
  simp only [point, Nat.cast_one, one_mul]
  exact mul_le_mul_of_nonneg_right power positive

theorem gridDenominator_pos (exponent : Int) : 0 < gridDenominator exponent :=
  Nat.pow_pos (by decide)

/-- A grid point is a numerator over a denominator. -/
theorem cast_gridNumerator (multiple : Nat) (exponent : Int) :
    (gridNumerator multiple exponent : ℚ) = point multiple exponent * gridDenominator exponent := by
  have power : (10 : ℚ) ^ exponent.toNat = 10 ^ exponent * 10 ^ (-exponent).toNat := by
    rw [← zpow_natCast, ← zpow_natCast, ← zpow_add₀ (by norm_num)]
    congr 1
    omega
  rw [gridNumerator_eq_mul, gridDenominator, point, Nat.pow_eq]
  push_cast
  rw [power]
  ring

/-- Grid points are compared with the ends without fractions. -/
theorem holds_iff (interval : Interval) (multiple : Nat) (exponent : Int) :
    interval.holds multiple exponent = true ↔ interval.Contains (point multiple exponent) := by
  have positive : (0 : ℚ) < gridDenominator exponent := by
    exact_mod_cast gridDenominator_pos exponent
  have le_left (bound : Nat) : bound * gridDenominator exponent ≤ gridNumerator multiple exponent ↔
      (bound : ℚ) ≤ point multiple exponent := by
    rw [← mul_le_mul_iff_left₀ positive, ← cast_gridNumerator]
    exact_mod_cast Iff.rfl
  have le_right (bound : Nat) : gridNumerator multiple exponent ≤ bound * gridDenominator exponent ↔
      point multiple exponent ≤ (bound : ℚ) := by
    rw [← mul_le_mul_iff_left₀ positive, ← cast_gridNumerator]
    exact_mod_cast Iff.rfl
  unfold holds Contains
  split
  · rw [Bool.and_eq_true, decide_eq_true_eq, decide_eq_true_eq, le_left, le_right]
  · rw [Bool.and_eq_true, decide_eq_true_eq, decide_eq_true_eq, ← not_le, ← not_le, le_left,
      le_right, not_le, not_le]

/-- The value lies between two neighbours on each grid. -/
theorem value_between (interval : Interval) (exponent : Int) :
    point (interval.multipleBelow exponent) exponent ≤ interval.value ∧
      (interval.value : ℚ) < point (interval.multipleBelow exponent + 1) exponent := by
  have positive : (0 : ℚ) < gridDenominator exponent := by
    exact_mod_cast gridDenominator_pos exponent
  have numerator (multiple : Nat) :
      gridNumerator multiple exponent = multiple * gridNumerator 1 exponent := by
    simp only [gridNumerator_eq_mul, one_mul, mul_assoc]
  have step : 0 < gridNumerator 1 exponent := by
    rw [gridNumerator_eq_mul]
    exact Nat.mul_pos (by positivity) one_pos
  constructor
  · rw [← mul_le_mul_iff_left₀ positive, ← cast_gridNumerator, numerator]
    exact_mod_cast Nat.div_mul_le_self _ _
  · rw [← mul_lt_mul_iff_left₀ positive, ← cast_gridNumerator, numerator]
    exact_mod_cast (Nat.div_lt_iff_lt_mul step).1 (Nat.lt_succ_self _)

/-! ## The first digit -/

/-- What a value is multiplied by before its digits are counted. -/
@[irreducible]
def spread : Nat :=
  Nat.pow 10 330

theorem exists_spread_eq : ∃ places, places = 330 ∧ spread = 10 ^ places := by
  refine ⟨330, rfl, ?_⟩
  decide +kernel

/-- A value that is spread out, rounded down. -/
def spreadValue (interval : Interval) : Nat :=
  interval.value * spread / one

theorem leadingExponent_eq (interval : Interval) :
    interval.leadingExponent = ((Nat.toDigits 10 interval.spreadValue).length : Int) - 331 := by
  unfold leadingExponent spreadValue one spread
  rfl

/-- A positive value is one at least, when it is spread out. -/
theorem spreadValue_pos {interval : Interval} (positive : 0 < interval.value) :
    0 < interval.spreadValue := by
  have enough : one ≤ spread := by
    decide +kernel
  exact Nat.div_pos (enough.trans (Nat.le_mul_of_pos_left _ positive)) one_pos

/-- A positive number has a first digit. -/
theorem pow_le_of_length_toDigits {number : Nat} (positive : 0 < number) :
    10 ^ ((Nat.toDigits 10 number).length - 1) ≤ number := by
  rcases Nat.eq_zero_or_pos ((Nat.toDigits 10 number).length - 1) with short | long
  · rw [short]
    exact positive
  · by_contra less
    have shorter := (Nat.length_toDigits_le_iff (by decide) long).2 (not_le.1 less)
    omega

/-- The power of ten at the first digit of a value is not above the value. -/
theorem point_leadingExponent_le {interval : Interval} (positive : 0 < interval.value) :
    point 1 interval.leadingExponent ≤ interval.value := by
  rcases exists_spread_eq with ⟨places, places_eq, spread_eq⟩
  have digits_pos : 0 < (Nat.toDigits 10 interval.spreadValue).length := Nat.length_toDigits_pos
  have exponent_eq : interval.leadingExponent =
      (((Nat.toDigits 10 interval.spreadValue).length - 1 : Nat) : Int) - (places : Int) := by
    rw [leadingExponent_eq]
    omega
  have whole : 10 ^ ((Nat.toDigits 10 interval.spreadValue).length - 1) * one ≤
      interval.value * 10 ^ places := by
    rw [← spread_eq]
    exact (Nat.mul_le_mul_right one (pow_le_of_length_toDigits (spreadValue_pos positive))).trans
      (Nat.div_mul_le_self _ _)
  have power_pos : (0 : ℚ) < 10 ^ places := by positivity
  rw [exponent_eq, point, zpow_sub₀ (by norm_num), zpow_natCast, zpow_natCast, Nat.cast_one,
    one_mul, div_mul_eq_mul_div, div_le_iff₀ power_pos]
  exact_mod_cast whole

/-- Where a power of ten is not above the value, the first digit does not stand below it. -/
theorem le_leadingExponent {interval : Interval} {exponent : Nat}
    (below : 10 ^ exponent * one ≤ interval.value) : (exponent : Int) ≤ interval.leadingExponent := by
  rcases exists_spread_eq with ⟨places, places_eq, spread_eq⟩
  have spread_below : 10 ^ (exponent + places) ≤ interval.spreadValue := by
    rw [spreadValue, spread_eq, Nat.le_div_iff_mul_le one_pos]
    calc 10 ^ (exponent + places) * one = 10 ^ exponent * one * 10 ^ places := by ring
      _ ≤ interval.value * 10 ^ places := Nat.mul_le_mul_right _ below
  have long : exponent + places < (Nat.toDigits 10 interval.spreadValue).length := by
    by_contra short
    have less := (Nat.length_toDigits_le_iff (by decide) (by omega)).1 (not_lt.1 short)
    omega
  rw [leadingExponent_eq]
  omega

/-- From the first digit on, the multiple below a value is positive. -/
theorem multipleBelow_pos {interval : Interval} (positive : 0 < interval.value) {exponent : Int}
    (notAbove : exponent ≤ interval.leadingExponent) : 0 < interval.multipleBelow exponent := by
  have between := (interval.value_between exponent).2
  have first := (point_one_mono notAbove).trans (point_leadingExponent_le positive)
  rw [point_eq_mul] at between
  have step := point_one_pos exponent
  have more : (1 : ℚ) < (interval.multipleBelow exponent + 1 : Nat) := by
    by_contra less
    have small := mul_le_mul_of_nonneg_right (not_lt.1 less) step.le
    linarith
  have count : 1 < interval.multipleBelow exponent + 1 := by exact_mod_cast more
  omega

/-! ## The digits that are found -/

theorem nearerMultiple_cases (interval : Interval) (tie : Tie) (exponent : Int) :
    interval.nearerMultiple tie exponent = interval.multipleBelow exponent ∨
      interval.nearerMultiple tie exponent = interval.multipleBelow exponent + 1 := by
  unfold nearerMultiple
  dsimp only
  generalize gridNumerator _ exponent = middle
  generalize interval.multipleBelow exponent = below
  cases tie with
  | upward =>
      dsimp only
      split_ifs <;> simp
  | toEven =>
      dsimp only
      split_ifs <;> simp

/-- A multiple that is taken is a neighbour of the value and lies in the interval. -/
theorem multiple?_spec {interval : Interval} {tie : Tie} {exponent : Int} {multiple : Nat}
    (taken : interval.multiple? tie exponent = some multiple) :
    (multiple = interval.multipleBelow exponent ∨
        multiple = interval.multipleBelow exponent + 1) ∧
      interval.holds multiple exponent = true := by
  unfold multiple? at taken
  dsimp only at taken
  split at taken
  next ofBelow ofAbove =>
    rcases interval.nearerMultiple_cases tie exponent with below | above
    · rw [below] at taken
      obtain rfl := Option.some.inj taken
      exact ⟨.inl rfl, ofBelow⟩
    · rw [above] at taken
      obtain rfl := Option.some.inj taken
      exact ⟨.inr rfl, ofAbove⟩
  next ofBelow _ =>
    obtain rfl := Option.some.inj taken
    exact ⟨.inl rfl, ofBelow⟩
  next _ ofAbove =>
    obtain rfl := Option.some.inj taken
    exact ⟨.inr rfl, ofAbove⟩
  next => nomatch taken

/-- If no multiple is taken, neither neighbour of the value lies in the interval. -/
theorem not_holds_of_multiple? {interval : Interval} {tie : Tie} {exponent : Int}
    (taken : interval.multiple? tie exponent = none) :
    ¬interval.holds (interval.multipleBelow exponent) exponent = true ∧
      ¬interval.holds (interval.multipleBelow exponent + 1) exponent = true := by
  unfold multiple? at taken
  dsimp only at taken
  split at taken
  case h_4 ofBelow ofAbove => simp [ofBelow, ofAbove]
  all_goals simp at taken

/--
The digits of a value are those of one of its neighbours, on a grid of seventeen digits or
fewer; and the neighbour lies in the interval, unless seventeen digits are too few.
-/
theorem shortest_spec (interval : Interval) (tie : Tie) :
    ∃ multiple exponent, interval.shortest tie = scientific multiple exponent ∧
      interval.leadingExponent - 16 ≤ exponent ∧ exponent ≤ interval.leadingExponent ∧
        (multiple = interval.multipleBelow exponent ∨
          multiple = interval.multipleBelow exponent + 1) ∧
          (interval.multiple? tie (interval.leadingExponent - 16) ≠ none →
            interval.holds multiple exponent = true) := by
  let found := (List.range 17).findSome? fun (further : Nat) =>
    (interval.multiple? tie (interval.leadingExponent - (further : Int))).map fun multiple =>
      scientific multiple (interval.leadingExponent - (further : Int))
  have shortest_eq : interval.shortest tie = found.getD (scientific
      (interval.nearerMultiple tie (interval.leadingExponent - 16))
      (interval.leadingExponent - 16)) := rfl
  rw [shortest_eq]
  cases taken_eq : found with
  | some number =>
      rcases List.exists_of_findSome?_eq_some taken_eq with ⟨further, inRange, mapped⟩
      rcases Option.map_eq_some_iff.1 mapped with ⟨multiple, taken, rfl⟩
      rcases multiple?_spec taken with ⟨neighbour, holds⟩
      have inRange := List.mem_range.1 inRange
      exact ⟨multiple, _, rfl, by omega, by omega, neighbour, fun _ => holds⟩
  | none =>
      refine ⟨_, _, rfl, le_rfl, by omega, interval.nearerMultiple_cases tie _, ?_⟩
      intro some_taken
      have none_taken := List.findSome?_eq_none_iff.1 taken_eq 16 (by simp)
      exact absurd (Option.map_eq_none_iff.1 none_taken) some_taken

/-- The digits of a positive value are proper. -/
theorem proper_shortest {interval : Interval} (positive : 0 < interval.value) (tie : Tie) :
    (interval.shortest tie).Proper := by
  rcases interval.shortest_spec tie with ⟨multiple, exponent, shortest_eq, _, notAbove, neighbour, _⟩
  have below_pos := multipleBelow_pos positive notAbove
  rw [shortest_eq]
  exact proper_scientific (by omega) exponent

/-- On a grid that is finer than an interval around the value, a multiple is taken. -/
theorem multiple?_ne_none {interval : Interval} {exponent : Int}
    (low_lt : interval.low < interval.value) (lt_high : interval.value < interval.high)
    (fine : (interval.low : ℚ) + point 1 exponent < interval.high) (tie : Tie) :
    interval.multiple? tie exponent ≠ none := by
  intro taken
  rcases not_holds_of_multiple? taken with ⟨notBelow, notAbove⟩
  rcases interval.value_between exponent with ⟨below, above⟩
  have low_lt : (interval.low : ℚ) < interval.value := by exact_mod_cast low_lt
  have lt_high : (interval.value : ℚ) < interval.high := by exact_mod_cast lt_high
  have step : point (interval.multipleBelow exponent + 1) exponent =
      point (interval.multipleBelow exponent) exponent + point 1 exponent := by
    rw [point_eq_mul, point_eq_mul (interval.multipleBelow exponent)]
    push_cast
    ring
  rw [holds_iff, Contains] at notBelow notAbove
  -- The neighbour below is too low and the one above too high.
  have tooLow : point (interval.multipleBelow exponent) exponent ≤ interval.low := by
    by_contra higher
    have higher := not_le.1 higher
    split at notBelow
    · exact notBelow ⟨higher.le, (below.trans_lt lt_high).le⟩
    · exact notBelow ⟨higher, below.trans_lt lt_high⟩
  have tooHigh : (interval.high : ℚ) ≤ point (interval.multipleBelow exponent + 1) exponent := by
    by_contra lower
    have lower := not_le.1 lower
    split at notAbove
    · exact notAbove ⟨(low_lt.trans above).le, lower.le⟩
    · exact notAbove ⟨low_lt.trans above, lower⟩
  linarith

end Interval

end Script.Decimal
