import Script.Proofs.Numerals
import Script.Proofs.Rounding
import Script.Proofs.ShortestDigits

/-!
# Large words are read back

A word of `2 ^ 64` or more, if it is finite, is written in full as a run of digits, and
these digits are read back as the same word.

The digits are those of an integer in the interval of the word, since seventeen digits
are fine enough, and they do not reach below the point.  Every integer in the interval is
rounded to the word.
-/

namespace Script

namespace Binary64

/-! ## Full significands -/

theorem significand_pos {word : Binary64} (positive : 0 < word.magnitude) :
    0 < word.significand := by
  rw [significand, scale, leadingBit]
  omega

/-- A word that is not too small has a full significand. -/
theorem significand_spec {word : Binary64} (normal : leadingBit ≤ word.magnitude) :
    leadingBit ≤ word.significand ∧ word.significand < 2 * leadingBit ∧
      word.magnitude = word.scale * leadingBit + word.significand := by
  rw [significand, scale]
  rw [leadingBit] at normal ⊢
  omega

end Binary64

namespace Decimal.Interval

open Binary64

variable {word : Binary64}

/-! ## The interval of a word -/

/-- How far the lower end is from the value, in quarters of the last place. -/
def lowerQuarters (word : Binary64) : Nat :=
  if word.significand = leadingBit ∧ 0 < word.scale then 1 else 2

theorem ofWord_ends (word : Binary64) :
    (ofWord word).low = (4 * word.significand - lowerQuarters word) * 2 ^ word.scale ∧
      (ofWord word).value = 4 * word.significand * 2 ^ word.scale ∧
        (ofWord word).high = (4 * word.significand + 2) * 2 ^ word.scale ∧
          (ofWord word).closed = decide (word.significand % 2 = 0) := by
  refine ⟨?_, rfl, ?_, rfl⟩
  · rw [Nat.sub_mul, lowerQuarters]
    split_ifs with narrow
    · simp only [ofWord, narrow, and_self, if_true, Nat.one_mul, Nat.pow_eq]
    · simp only [ofWord, narrow, if_false, Nat.pow_eq]
  · rw [Nat.add_mul]
    rfl

theorem lowerQuarters_cases (word : Binary64) :
    lowerQuarters word = 1 ∧ word.significand = leadingBit ∨
      lowerQuarters word = 2 ∧ (word.significand ≠ leadingBit ∨ word.scale = 0) := by
  unfold lowerQuarters
  split_ifs with narrow
  · exact .inl ⟨rfl, narrow.1⟩
  · exact .inr ⟨rfl, by omega⟩

/-- A positive value is not at the end of its interval. -/
theorem ofWord_inside (positive : 0 < word.magnitude) :
    (ofWord word).low < (ofWord word).value ∧ (ofWord word).value < (ofWord word).high := by
  rcases ofWord_ends word with ⟨low_eq, value_eq, high_eq, _⟩
  have significand_pos := significand_pos positive
  have unit_pos := Nat.two_pow_pos word.scale
  rw [low_eq, value_eq, high_eq]
  refine ⟨Nat.mul_lt_mul_of_pos_right ?_ unit_pos, Nat.mul_lt_mul_of_pos_right ?_ unit_pos⟩
  · rcases lowerQuarters_cases word with ⟨quarters_eq, _⟩ | ⟨quarters_eq, _⟩ <;> omega
  · omega

theorem ofWord_value_pos (positive : 0 < word.magnitude) : 0 < (ofWord word).value :=
  (Nat.zero_le _).trans_lt (ofWord_inside positive).1

/-- Seventeen digits are fine enough for a full significand. -/
theorem ofWord_fine (normal : leadingBit ≤ word.magnitude) :
    ((ofWord word).low : ℚ) + point 1 ((ofWord word).leadingExponent - 16) <
      (ofWord word).high := by
  have positive : 0 < word.magnitude := lt_of_lt_of_le (by decide) normal
  rcases significand_spec normal with ⟨full, bounded, _⟩
  rcases ofWord_ends word with ⟨low_eq, value_eq, high_eq, _⟩
  have first := point_leadingExponent_le (ofWord_value_pos positive)
  have step : point 1 ((ofWord word).leadingExponent - 16) * 10 ^ 16 =
      point 1 (ofWord word).leadingExponent := by
    rw [point, point, zpow_sub₀ (by norm_num)]
    field_simp
  rw [value_eq, Nat.cast_mul, Nat.cast_mul] at first
  rw [low_eq, high_eq, Nat.cast_mul, Nat.cast_mul]
  have unit_pos : (0 : ℚ) < (2 ^ word.scale : Nat) := by exact_mod_cast Nat.two_pow_pos word.scale
  generalize ((2 ^ word.scale : Nat) : ℚ) = unit at first unit_pos ⊢
  generalize point 1 ((ofWord word).leadingExponent - 16) = fraction at step ⊢
  rw [leadingBit] at full bounded
  -- Below a power of two the interval is narrower, but there the significand is least.
  rcases lowerQuarters_cases word with ⟨quarters_eq, least⟩ | ⟨quarters_eq, _⟩
  · rw [quarters_eq, Nat.cast_sub (by omega), least, leadingBit]
    rw [least, leadingBit] at first
    push_cast at first ⊢
    linarith
  · rw [quarters_eq, Nat.cast_sub (by omega)]
    have bounded : (word.significand : ℚ) * unit ≤ 2 * 0x10000000000000 * unit := by
      refine mul_le_mul_of_nonneg_right ?_ unit_pos.le
      exact_mod_cast bounded.le
    push_cast at first ⊢
    linarith

/-- The digits of a word with a full significand are those of a decimal in its interval. -/
theorem shortest_ofWord (normal : leadingBit ≤ word.magnitude) (tie : Tie) :
    ∃ multiple exponent, (ofWord word).shortest tie = scientific multiple exponent ∧
      (ofWord word).leadingExponent - 16 ≤ exponent ∧ 0 < multiple ∧
        (ofWord word).Contains (point multiple exponent) := by
  have positive : 0 < word.magnitude := lt_of_lt_of_le (by decide) normal
  rcases (ofWord word).shortest_spec tie with
    ⟨multiple, exponent, shortest_eq, notBelow, notAbove, neighbour, holds⟩
  rcases ofWord_inside positive with ⟨low_lt, lt_high⟩
  have taken := multiple?_ne_none low_lt lt_high (ofWord_fine normal) tie
  have below_pos := multipleBelow_pos (ofWord_value_pos positive) notAbove
  exact ⟨multiple, exponent, shortest_eq, notBelow, by omega, (holds_iff _ _ _).1 (holds taken)⟩

/-! ## Large words -/

theorem normal_of_scale {places : Nat} (scale_eq : word.scale = places + 1076) :
    leadingBit ≤ word.magnitude := by
  rw [scale, leadingBit] at scale_eq
  rw [leadingBit]
  omega

theorem unit_eq {places : Nat} (scale_eq : word.scale = places + 1076) :
    2 ^ word.scale = 2 ^ places * one := by
  rcases exists_one_eq with ⟨ofOne, ofOne_eq, one_eq⟩
  rw [scale_eq, one_eq, ← ofOne_eq, Nat.pow_add]

/-- The first of seventeen digits of a large word do not reach below the point. -/
theorem le_leadingExponent_ofWord {places : Nat} (scale_eq : word.scale = places + 1076) :
    16 ≤ (ofWord word).leadingExponent := by
  rcases ofWord_ends word with ⟨_, value_eq, _⟩
  rcases significand_spec (normal_of_scale scale_eq) with ⟨full, _⟩
  rw [leadingBit] at full
  refine le_leadingExponent ?_
  rw [value_eq, unit_eq scale_eq, ← Nat.mul_assoc]
  refine Nat.mul_le_mul_right one ?_
  calc 10 ^ 16 ≤ 4 * word.significand := by omega
    _ ≤ 4 * word.significand * 2 ^ places := Nat.le_mul_of_pos_right _ (Nat.two_pow_pos places)

/-- The interval of a large word, among integers. -/
theorem bounds_of_contains {places number : Nat} (scale_eq : word.scale = places + 1076)
    (contains : (ofWord word).Contains ((number * one : Nat) : ℚ)) :
    (4 * word.significand - lowerQuarters word) * 2 ^ places ≤ number ∧
      number ≤ (4 * word.significand + 2) * 2 ^ places ∧
        (word.significand % 2 = 1 →
          (4 * word.significand - lowerQuarters word) * 2 ^ places < number ∧
            number < (4 * word.significand + 2) * 2 ^ places) := by
  rcases ofWord_ends word with ⟨low_eq, _, high_eq, closed_eq⟩
  rw [Contains, low_eq, high_eq, closed_eq, unit_eq scale_eq, ← Nat.mul_assoc, ← Nat.mul_assoc] at contains
  split at contains
  · next even =>
    have even := of_decide_eq_true even
    have low := Nat.le_of_mul_le_mul_right (Nat.cast_le.1 contains.1) one_pos
    have high := Nat.le_of_mul_le_mul_right (Nat.cast_le.1 contains.2) one_pos
    exact ⟨low, high, fun odd => by omega⟩
  · have low := Nat.lt_of_mul_lt_mul_right (Nat.cast_lt.1 contains.1)
    have high := Nat.lt_of_mul_lt_mul_right (Nat.cast_lt.1 contains.2)
    exact ⟨low.le, high.le, fun _ => ⟨low, high⟩⟩

/-- Below the power of two only the narrow half of an interval is left. -/
theorem narrow_of_below {places number : Nat} (scaled : word.scale ≠ 0)
    (full : leadingBit ≤ word.significand)
    (low : (4 * word.significand - lowerQuarters word) * 2 ^ places ≤ number)
    (below : number < 2 ^ 54 * 2 ^ places) :
    lowerQuarters word = 1 ∧ word.significand = leadingBit := by
  refine (lowerQuarters_cases word).resolve_right ?_
  rintro ⟨quarters_eq, notLeast⟩
  have quarters_lt : 4 * word.significand - lowerQuarters word < 2 ^ 54 :=
    Nat.lt_of_mul_lt_mul_right (low.trans_lt below)
  rw [quarters_eq] at quarters_lt
  rw [leadingBit] at full notLeast
  omega

/-- An integer in the interval of a large word is rounded to its magnitude. -/
theorem integerMagnitude_of_contains {places number : Nat}
    (scale_eq : word.scale = places + 1076)
    (contains : (ofWord word).Contains ((number * one : Nat) : ℚ)) :
    2 ^ 52 ≤ number ∧ integerMagnitude number = word.magnitude := by
  rcases significand_spec (normal_of_scale scale_eq) with ⟨full, bounded, magnitude_eq⟩
  rcases bounds_of_contains scale_eq contains with ⟨low, high, odd⟩
  have unit_pos := Nat.two_pow_pos places
  have bounded : (word.significand + 1) * 2 ^ places ≤ 2 ^ 53 * 2 ^ places :=
    Nat.mul_le_mul_right _ bounded
  rw [Nat.succ_mul] at bounded
  rcases Nat.lt_or_ge number (2 ^ 54 * 2 ^ places) with below | above
  · rcases narrow_of_below (by omega) full low below with ⟨quarters_eq, least⟩
    rw [quarters_eq, least, leadingBit] at low
    have rounded : roundedQuotient number (2 ^ 1 * 2 ^ places) = 2 ^ 53 :=
      roundedQuotient_eq (by omega) (by omega) (by omega) (by omega)
    refine ⟨by omega, ?_⟩
    rw [integerMagnitude_eq (by omega) (by omega) rounded, magnitude_eq, scale_eq, least, leadingBit]
    omega
  · rw [Nat.sub_mul, Nat.mul_assoc] at low odd
    rw [Nat.add_mul, Nat.mul_assoc] at high odd
    have unit_eq : word.significand * (2 ^ 2 * 2 ^ places) =
        4 * (word.significand * 2 ^ places) := by ring
    have quarters : lowerQuarters word * 2 ^ places ≤ 2 * 2 ^ places :=
      Nat.mul_le_mul_right _ (by rcases lowerQuarters_cases word with ⟨eq, _⟩ | ⟨eq, _⟩ <;> omega)
    have rounded : roundedQuotient number (2 ^ 2 * 2 ^ places) = word.significand := by
      refine roundedQuotient_eq ?_ ?_ (by omega) ?_ <;> rw [unit_eq]
      · omega
      · omega
      · intro isOdd
        have strict := odd isOdd
        omega
    refine ⟨by omega, ?_⟩
    rw [integerMagnitude_eq (by omega) (by omega) rounded, magnitude_eq, scale_eq, leadingBit]
    omega

/-- An integer in the interval of a large finite word is read as the word. -/
theorem ofFraction_of_contains {places number : Nat} (positive : word.isNegative = false)
    (finite : word.isFinite = true) (scale_eq : word.scale = places + 1076)
    (contains : (ofWord word).Contains ((number * one : Nat) : ℚ)) :
    ofFraction false number 1 = word := by
  rcases integerMagnitude_of_contains scale_eq contains with ⟨atLeast, magnitude_eq⟩
  have bounded : word.magnitude < infinityMagnitude := of_decide_eq_true finite
  rw [ofFraction_eq atLeast, magnitude_eq, min_eq_left bounded.le]
  exact (eq_ofMagnitude positive).symm

end Decimal.Interval

/-! ## Plain texts -/

namespace Decimal

open Decimal.Interval

/-- Digits with zeros behind them stand for a multiple of a power of ten. -/
theorem digitsValue_append_zeros (digits : List Char) (zeros : Nat) :
    digitsValue (digits ++ List.replicate zeros '0') = digitsValue digits * 10 ^ zeros := by
  have joined : Nat.ofDigitChars 10 (digits ++ List.replicate zeros '0') 0 =
      10 ^ zeros * Nat.ofDigitChars 10 digits 0 := by
    rw [Nat.ofDigitChars_append, Nat.ofDigitChars_replicate_zero]
  rw [Nat.mul_comm]
  exact joined

/-- A multiple of a power of ten is written in full with all its zeros. -/
theorem inFull_scientific (multiple places : Nat) :
    inFull false (scientific multiple places) =
      Nat.toDigits 10 multiple ++ List.replicate places '0' := by
  rcases exists_eq_stripped_append (Nat.toDigits 10 multiple) with ⟨zeros, whole⟩
  have length_pos : 0 < (Nat.toDigits 10 multiple).length := Nat.length_toDigits_pos
  have length_eq := congrArg List.length whole
  rw [List.length_append, List.length_replicate] at length_eq
  have noFraction : ¬((places : Int) + ((Nat.toDigits 10 multiple).length : Int) - 1 < 0) := by
    omega
  have short : (stripped (Nat.toDigits 10 multiple)).length ≤
      ((places : Int) + ((Nat.toDigits 10 multiple).length : Int) - 1 + 1).toNat := by
    omega
  have missing : ((places : Int) + ((Nat.toDigits 10 multiple).length : Int) - 1 + 1).toNat -
      (stripped (Nat.toDigits 10 multiple)).length = zeros + places := by
    omega
  rw [inFull, scientific]
  dsimp only
  rw [if_neg noFraction, if_pos short, missing, List.replicate_add, ← List.append_assoc, ← whole,
    if_neg Bool.false_ne_true, List.append_nil]

end Decimal

namespace Numeral

open Decimal Decimal.Interval Binary64

variable {word : Binary64}

/-- A finite word without a sign is written with its shortest digits. -/
theorem write_eq (layout : Layout) (positive : word.isNegative = false)
    (finite : word.isFinite = true) :
    layout.write word =
      String.ofList (if layout.inFull (shortest layout.tie word).exponent then
        Decimal.inFull layout.keepsPoint (shortest layout.tie word)
      else
        withExponent (shortest layout.tie word)) := by
  have isNumber : word.isNotANumber = false := by
    simp only [isFinite, isNotANumber, decide_eq_true_eq, decide_eq_false_iff_not] at finite ⊢
    omega
  rw [Layout.write, isNumber, finite, positive, if_neg Bool.false_ne_true, if_pos rfl]
  rfl

/-- A large finite word is written as a run of digits that stand for an integer in its interval. -/
theorem exists_plainText_eq {ofScale : Nat} (positive : word.isNegative = false)
    (finite : word.isFinite = true) (scale_eq : word.scale = ofScale + 1076) :
    ∃ multiple places : Nat,
      (real word).plainText.toList = Nat.toDigits 10 multiple ++ List.replicate places '0' ∧
        (ofWord word).Contains ((multiple * 10 ^ places * one : Nat) : ℚ) := by
  have normal := normal_of_scale scale_eq
  rcases shortest_ofWord normal .upward with
    ⟨multiple, exponent, shortest_eq, notBelow, _, contains⟩
  have whole := le_leadingExponent_ofWord scale_eq
  rcases Int.eq_ofNat_of_zero_le (by omega : 0 ≤ exponent) with ⟨places, rfl⟩
  have nonzero : word.magnitude ≠ 0 := (lt_of_lt_of_le (by decide) normal).ne'
  refine ⟨multiple, places, ?_, ?_⟩
  · have digits_eq : shortest plainLayout.tie word = scientific multiple places :=
      (if_neg nonzero).trans shortest_eq
    rw [plainText, write_eq plainLayout positive finite, digits_eq, String.toList_ofList]
    exact inFull_scientific multiple places
  · rw [point, zpow_natCast] at contains
    exact_mod_cast contains

/-- The word of `2 ^ 64`. -/
def leastReal : Binary64 :=
  ⟨0x43f0000000000000⟩

theorem magnitude_leastReal : leastReal.magnitude = (64 + 1023) * leadingBit := by
  decide

/-- The plain text of a large finite word is a run of digits that is read as the word. -/
theorem read_plainText_real (positive : word.isNegative = false) (finite : word.isFinite = true)
    (large : leastReal.magnitude ≤ word.magnitude) :
    Kind.number.Spells (real word).plainText.toList ∧
      read (real word).plainText = .ok (real word) := by
  have scale_eq : word.scale = word.scale - 1076 + 1076 := by
    rw [magnitude_leastReal, leadingBit] at large
    rw [scale, leadingBit]
    omega
  rcases exists_plainText_eq positive finite scale_eq with ⟨multiple, places, text_eq, contains⟩
  have spells : Kind.number.Spells (real word).plainText.toList := by
    rw [text_eq]
    refine ⟨by simp [Nat.toDigits_ne_nil], ?_⟩
    intro character member
    rcases List.mem_append.1 member with ofMultiple | zero
    · exact isDigit_toDigits multiple character ofMultiple
    · exact isDigit_of_mem_zeros zero
  have value_eq : digitsValue (real word).plainText.toList = multiple * 10 ^ places := by
    rw [text_eq, digitsValue_append_zeros, digitsValue_toDigits]
  refine ⟨spells, ?_⟩
  rcases large.eq_or_lt with least | above
  · -- The interval of the least word begins below `2 ^ 64`, so its digits have to be looked at.
    have word_eq : word = leastReal := by
      rw [eq_ofMagnitude positive, ← least]
      decide
    rw [word_eq]
    decide +kernel
  · rcases integerMagnitude_of_contains scale_eq contains with ⟨full, magnitude_eq⟩
    have noInteger : ¬multiple * 10 ^ places < UInt64.size := by
      intro small
      have bounded := integerMagnitude_le full (show multiple * 10 ^ places < 2 ^ 64 from small)
      rw [magnitude_eq, ← magnitude_leastReal] at bounded
      omega
    rw [read_of_spells spells, value_eq, ofNat, if_neg noInteger,
      ofFraction_of_contains positive finite scale_eq contains]

/-! ## Values of number tokens -/

/-- The value of digits that fit no word is a real number, which is not small. -/
theorem ofNat_of_large {value : Nat} (large : UInt64.size ≤ value) :
    ∃ word, ofNat value = .real word ∧ word.isNegative = false ∧
      leastReal.magnitude ≤ word.magnitude ∧ (word.isFinite = true ↔ value < overflow) ∧
        (overflow ≤ value → word = infinity false) := by
  have large : 2 ^ 64 ≤ value := large
  have full : 2 ^ 52 ≤ value := (by decide : 2 ^ 52 ≤ 2 ^ 64).trans large
  rcases ofFraction_spec full with ⟨positive, magnitude_eq⟩
  refine ⟨ofFraction false value 1, if_neg (not_lt.2 large), positive, ?_,
    isFinite_ofFraction full, ?_⟩
  · rw [magnitude_eq, magnitude_leastReal]
    exact le_min (le_integerMagnitude (by decide) large) (by decide)
  · intro overflows
    have infinite := (integerMagnitude_lt_iff full).not.2 (not_lt.2 overflows)
    rw [ofFraction_eq full, min_eq_right (not_lt.1 infinite)]
    rfl

/-- The value of a number token, unless it is infinite, is written in digits that are read back. -/
theorem read_plainText_ofNat {value : Nat} (bounded : value < overflow) :
    Kind.number.Spells (ofNat value).plainText.toList ∧
      read (ofNat value).plainText = .ok (ofNat value) := by
  rcases Nat.lt_or_ge value UInt64.size with small | large
  · rw [ofNat, if_pos small]
    exact ⟨spells_integerText _, read_integerText _⟩
  · rcases ofNat_of_large large with ⟨word, value_eq, positive, notSmall, finite, _⟩
    rw [value_eq]
    exact read_plainText_real positive (finite.2 bounded) notSmall

end Numeral

end Script
