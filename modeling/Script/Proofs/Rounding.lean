import Mathlib.Tactic.Linarith
import Mathlib.Tactic.Ring
import Script.Decimal.Reader

/-!
# Integers as words

An integer of 53 bits or more is rounded to a full significand: its first 53 bits, and
one more if what is cut off says so.  A rounded significand may carry, so that the
integers from the middle between the last finite word and the next power of two on are
infinite.

Magnitudes are computed here without a bound on the scale; the infinity is the least
one that is too large.
-/

namespace Script.Binary64

/-! ## Rounded quotients -/

theorem roundedQuotient_cases (dividend divisor : Nat) :
    roundedQuotient dividend divisor = dividend / divisor ∧
        (2 * (dividend % divisor) < divisor ∨
          2 * (dividend % divisor) = divisor ∧ dividend / divisor % 2 = 0) ∨
      roundedQuotient dividend divisor = dividend / divisor + 1 ∧
        (divisor < 2 * (dividend % divisor) ∨
          2 * (dividend % divisor) = divisor ∧ dividend / divisor % 2 = 1) := by
  unfold roundedQuotient
  dsimp only
  split
  · next stays => exact .inl ⟨rfl, stays⟩
  · next moves => exact .inr ⟨rfl, by omega⟩

/-- A quotient is rounded to the integer next to it, and half-way to the even one. -/
theorem roundedQuotient_eq {dividend divisor quotient : Nat}
    (low : 2 * (quotient * divisor) ≤ 2 * dividend + divisor)
    (high : 2 * dividend ≤ 2 * (quotient * divisor) + divisor) (positive : 0 < divisor)
    (even : quotient % 2 = 1 →
      2 * (quotient * divisor) ≠ 2 * dividend + divisor ∧
        2 * dividend ≠ 2 * (quotient * divisor) + divisor) :
    roundedQuotient dividend divisor = quotient := by
  have whole := Nat.div_add_mod' dividend divisor
  have remainder_lt := Nat.mod_lt dividend positive
  -- The quotient is the one rounded down or the next one.
  have notBelow : dividend / divisor ≤ quotient := by
    by_contra below
    have less := Nat.mul_le_mul_right divisor (Nat.succ_le_of_lt (not_le.1 below))
    rw [Nat.succ_mul] at less
    omega
  have notAbove : quotient ≤ dividend / divisor + 1 := by
    by_contra above
    have more := Nat.mul_le_mul_right divisor (Nat.succ_le_of_lt (not_le.1 above))
    rw [Nat.succ_mul, Nat.succ_mul] at more
    omega
  rcases (by omega : quotient = dividend / divisor ∨ quotient = dividend / divisor + 1) with
    rfl | rfl
  · rcases roundedQuotient_cases dividend divisor with ⟨rounded, _⟩ | ⟨rounded, away⟩
    · exact rounded
    · omega
  · have next : (dividend / divisor + 1) * divisor = dividend / divisor * divisor + divisor :=
      Nat.succ_mul _ _
    rcases roundedQuotient_cases dividend divisor with ⟨rounded, away⟩ | ⟨rounded, _⟩
    · omega
    · exact rounded

/-- A common factor is cut out before rounding. -/
theorem roundedQuotient_mul_right (dividend divisor : Nat) {factor : Nat} (positive : 0 < factor) :
    roundedQuotient (dividend * factor) (divisor * factor) = roundedQuotient dividend divisor := by
  have twice (number : Nat) : 2 * (number * factor) = 2 * number * factor := by ring
  unfold roundedQuotient
  dsimp only
  simp only [Nat.mul_div_mul_right _ _ positive, Nat.mul_mod_mul_right, twice,
    Nat.mul_lt_mul_right positive, Nat.mul_left_inj positive.ne']

theorem le_roundedQuotient {dividend divisor bound : Nat} (positive : 0 < divisor)
    (notBelow : bound * divisor ≤ dividend) : bound ≤ roundedQuotient dividend divisor := by
  have floor := (Nat.le_div_iff_mul_le positive).2 notBelow
  rcases roundedQuotient_cases dividend divisor with ⟨rounded, _⟩ | ⟨rounded, _⟩ <;> omega

theorem roundedQuotient_le {dividend divisor bound : Nat} (positive : 0 < divisor)
    (below : dividend < bound * divisor) : roundedQuotient dividend divisor ≤ bound := by
  have floor := (Nat.div_lt_iff_lt_mul positive).2 below
  rcases roundedQuotient_cases dividend divisor with ⟨rounded, _⟩ | ⟨rounded, _⟩ <;> omega

/-! ## Magnitudes of integers -/

/-- The first 53 bits of an integer, rounded. -/
def roundedSignificand (value : Nat) : Nat :=
  roundedQuotient value (2 ^ (value.log2 - 52))

/-- The magnitude of an integer of 53 bits or more, if no scale were too large. -/
def integerMagnitude (value : Nat) : Nat :=
  (value.log2 + 1022) * leadingBit + roundedSignificand value

theorem log2_mul_pow {value : Nat} (nonzero : value ≠ 0) (exponent : Nat) :
    (value * 2 ^ exponent).log2 = value.log2 + exponent := by
  have power_pos : 0 < 2 ^ exponent := Nat.two_pow_pos exponent
  have low := Nat.mul_le_mul_right (2 ^ exponent) (Nat.log2_self_le nonzero)
  have high := Nat.mul_lt_mul_of_pos_right (Nat.lt_log2_self (n := value)) power_pos
  rw [Nat.log2_eq_iff (Nat.mul_ne_zero nonzero power_pos.ne')]
  rw [← Nat.pow_add] at low high
  exact ⟨low, by rwa [show value.log2 + exponent + 1 = value.log2 + 1 + exponent by omega]⟩

/-- The magnitude of an integer whose number of bits and rounded first bits are known. -/
theorem integerMagnitude_eq {value quotient exponent places : Nat}
    (low : 2 ^ (52 + exponent) * 2 ^ places ≤ value)
    (high : value < 2 ^ (53 + exponent) * 2 ^ places)
    (rounded : roundedQuotient value (2 ^ exponent * 2 ^ places) = quotient) :
    integerMagnitude value = (52 + exponent + places + 1022) * leadingBit + quotient := by
  rw [← Nat.pow_add] at low high rounded
  have nonzero : value ≠ 0 := ((Nat.two_pow_pos _).trans_le low).ne'
  have log_eq : value.log2 = 52 + exponent + places := by
    rw [Nat.log2_eq_iff nonzero, show 52 + exponent + places + 1 = 53 + exponent + places by omega]
    exact ⟨low, high⟩
  rw [integerMagnitude, roundedSignificand, log_eq,
    show 52 + exponent + places - 52 = exponent + places by omega, rounded]

/-- An integer of 53 bits or more is read as the word of its rounded first bits. -/
theorem ofFraction_eq {value : Nat} (large : 2 ^ 52 ≤ value) :
    ofFraction false value 1 =
      ofMagnitude false (min (integerMagnitude value) infinityMagnitude) := by
  have nonzero : value ≠ 0 := by omega
  have enough : 52 ≤ value.log2 := (Nat.le_log2 nonzero).2 large
  -- The unit of magnitudes only moves the scale.
  have inUnits (unit : Nat) :
      (value * Nat.pow 2 unit / 1).log2 - 52 = value.log2 + unit - 52 ∧
        roundedQuotient (value * Nat.pow 2 unit) (1 * Nat.pow 2 (value.log2 + unit - 52)) =
          roundedSignificand value := by
    rw [Nat.pow_eq, Nat.pow_eq, Nat.div_one, Nat.one_mul, log2_mul_pow nonzero]
    refine ⟨rfl, ?_⟩
    rw [show value.log2 + unit - 52 = value.log2 - 52 + unit by omega, Nat.pow_add,
      roundedQuotient_mul_right _ _ (Nat.two_pow_pos unit), roundedSignificand]
  simp only [ofFraction, inUnits, integerMagnitude]
  rw [show value.log2 + 1074 - 52 = value.log2 + 1022 by omega]

/-- A rounded significand has 53 bits, or it is the next power of two. -/
theorem roundedSignificand_bounds {value : Nat} (large : 2 ^ 52 ≤ value) :
    2 ^ 52 ≤ roundedSignificand value ∧ roundedSignificand value ≤ 2 ^ 53 := by
  have nonzero : value ≠ 0 := by omega
  have enough : 52 ≤ value.log2 := (Nat.le_log2 nonzero).2 large
  have unit_pos := Nat.two_pow_pos (value.log2 - 52)
  constructor
  · refine le_roundedQuotient unit_pos ?_
    rw [← Nat.pow_add, show 52 + (value.log2 - 52) = value.log2 by omega]
    exact Nat.log2_self_le nonzero
  · refine roundedQuotient_le unit_pos ?_
    rw [← Nat.pow_add, show 53 + (value.log2 - 52) = value.log2 + 1 by omega]
    exact Nat.lt_log2_self

/-- Powers of two bound magnitudes from below. -/
theorem le_integerMagnitude {value exponent : Nat} (wide : 52 ≤ exponent)
    (large : 2 ^ exponent ≤ value) :
    (exponent + 1023) * leadingBit ≤ integerMagnitude value := by
  have full : 2 ^ 52 ≤ value := (Nat.pow_le_pow_right (by decide) wide).trans large
  have bits : exponent ≤ value.log2 := (Nat.le_log2 (by omega)).2 large
  calc (exponent + 1023) * leadingBit = (exponent + 1022) * leadingBit + leadingBit :=
        Nat.succ_mul _ _
    _ ≤ integerMagnitude value :=
        Nat.add_le_add (Nat.mul_le_mul_right _ (Nat.add_le_add_right bits 1022))
          (roundedSignificand_bounds full).1

/-- Powers of two bound magnitudes from above, and a carry may reach the bound. -/
theorem integerMagnitude_le {value exponent : Nat} (full : 2 ^ 52 ≤ value)
    (small : value < 2 ^ exponent) :
    integerMagnitude value ≤ (exponent + 1023) * leadingBit := by
  have bits : value.log2 < exponent := (Nat.log2_lt (by omega)).2 small
  calc integerMagnitude value ≤ (value.log2 + 1022) * leadingBit + 2 * leadingBit :=
        Nat.add_le_add_left (roundedSignificand_bounds full).2 _
    _ = (value.log2 + 1024) * leadingBit := (Nat.add_mul _ _ _).symm
    _ ≤ (exponent + 1023) * leadingBit := Nat.mul_le_mul_right _ (Nat.add_le_add_right bits 1023)

/-! ## Infinite integers -/

/-- The least integer that is read as an infinity: half a unit above the last finite word. -/
def overflow : Nat :=
  Nat.pow 2 1024 - Nat.pow 2 970

theorem size_le_overflow : UInt64.size ≤ overflow := by
  decide +kernel

/-- An overflow in units of half the last place of the last finite word. -/
theorem exists_overflow_eq : ∃ last, last = 970 ∧ overflow = (2 ^ 54 - 1) * 2 ^ last := by
  refine ⟨970, rfl, ?_⟩
  decide +kernel

/-- A significand of 53 bits carries from half a unit below the power of two on. -/
theorem roundedQuotient_lt_iff {value half : Nat} (positive : 0 < half)
    (high : value < 2 ^ 54 * half) :
    roundedQuotient value (2 * half) < 2 ^ 53 ↔ value < (2 ^ 54 - 1) * half := by
  have unit_pos : 0 < 2 * half := by omega
  constructor
  · intro stays
    by_contra notBelow
    have carries : roundedQuotient value (2 * half) = 2 ^ 53 :=
      roundedQuotient_eq (by omega) (by omega) unit_pos (by omega)
    omega
  · intro below
    refine lt_of_le_of_ne (roundedQuotient_le unit_pos (by omega)) ?_
    intro carries
    have whole := Nat.div_add_mod' value (2 * half)
    rcases roundedQuotient_cases value (2 * half) with ⟨rounded, _⟩ | ⟨rounded, away⟩
    · rw [← rounded, carries] at whole
      omega
    · have floor_eq : value / (2 * half) = 2 ^ 53 - 1 := by omega
      rw [floor_eq] at whole away
      omega

/-- An integer is rounded to a finite magnitude if it is below the overflow. -/
theorem integerMagnitude_lt_iff {value : Nat} (large : 2 ^ 52 ≤ value) :
    integerMagnitude value < infinityMagnitude ↔ value < overflow := by
  have nonzero : value ≠ 0 := by omega
  rcases exists_overflow_eq with ⟨last, last_eq, overflow_eq⟩
  rcases roundedSignificand_bounds large with ⟨low, high⟩
  have half_pos : 0 < 2 ^ last := Nat.two_pow_pos last
  have log_spec := Nat.log2_self_le nonzero
  have log_lt := Nat.lt_log2_self (n := value)
  have power (more : Nat) : 2 ^ (more + last) = 2 ^ more * 2 ^ last := Nat.pow_add 2 more last
  rw [overflow_eq, integerMagnitude, infinityMagnitude, leadingBit]
  rcases lt_trichotomy value.log2 (53 + last) with short | exact_eq | long
  · -- One bit less, and even a carry stays finite.
    have below : value < 2 ^ (53 + last) := log_lt.trans_le (Nat.pow_le_pow_right (by decide) short)
    rw [power] at below
    omega
  · have rounded_eq : roundedSignificand value = roundedQuotient value (2 * 2 ^ last) := by
      rw [roundedSignificand, exact_eq, show 53 + last - 52 = 1 + last by omega, power,
        Nat.pow_one]
    rw [exact_eq, show 53 + last + 1 = 54 + last by omega, power] at log_lt
    rw [← roundedQuotient_lt_iff half_pos log_lt, exact_eq, rounded_eq]
    omega
  · -- One bit more, and the scale is too large.
    have above : 2 ^ (54 + last) ≤ value :=
      (Nat.pow_le_pow_right (by decide) (by omega)).trans log_spec
    rw [power] at above
    omega

/-! ## Words of magnitudes -/

theorem bits_ofMagnitude {magnitude : Nat} (bounded : magnitude < signBit) :
    (ofMagnitude false magnitude).bits.toNat = magnitude := by
  have small : magnitude < UInt64.size := by
    rw [signBit] at bounded
    rw [UInt64.size]
    omega
  rw [ofMagnitude, if_neg Bool.false_ne_true, Nat.zero_add]
  exact Nat.mod_eq_of_lt small

theorem magnitude_ofMagnitude {magnitude : Nat} (bounded : magnitude < signBit) :
    (ofMagnitude false magnitude).magnitude = magnitude := by
  rw [Binary64.magnitude, bits_ofMagnitude bounded]
  exact Nat.mod_eq_of_lt bounded

theorem isNegative_ofMagnitude {magnitude : Nat} (bounded : magnitude < signBit) :
    (ofMagnitude false magnitude).isNegative = false := by
  rw [isNegative, bits_ofMagnitude bounded]
  simpa using bounded

/-- A word without a sign is the word of its magnitude. -/
theorem eq_ofMagnitude {word : Binary64} (positive : word.isNegative = false) :
    word = ofMagnitude false word.magnitude := by
  have bounded : word.bits.toNat < signBit := by simpa [isNegative] using positive
  have magnitude_eq : word.magnitude = word.bits.toNat := Nat.mod_eq_of_lt bounded
  rw [ofMagnitude, magnitude_eq, if_neg Bool.false_ne_true, Nat.zero_add]
  simp

theorem infinityMagnitude_lt_signBit : infinityMagnitude < signBit := by
  decide

/-- What the word of an integer of 53 bits or more is like. -/
theorem ofFraction_spec {value : Nat} (large : 2 ^ 52 ≤ value) :
    (ofFraction false value 1).isNegative = false ∧
      (ofFraction false value 1).magnitude = min (integerMagnitude value) infinityMagnitude := by
  have bounded : min (integerMagnitude value) infinityMagnitude < signBit :=
    (min_le_right _ _).trans_lt infinityMagnitude_lt_signBit
  rw [ofFraction_eq large]
  exact ⟨isNegative_ofMagnitude bounded, magnitude_ofMagnitude bounded⟩

/-- An integer of 53 bits or more is read as a finite word if it is below the overflow. -/
theorem isFinite_ofFraction {value : Nat} (large : 2 ^ 52 ≤ value) :
    (ofFraction false value 1).isFinite = true ↔ value < overflow := by
  rw [isFinite, decide_eq_true_eq, (ofFraction_spec large).2, min_lt_iff,
    integerMagnitude_lt_iff large]
  exact or_iff_left (lt_irrefl _)

end Script.Binary64
