import Mathlib.Data.List.TakeWhile
import Script.Numeral
import Script.Proofs.Spelling

/-!
# Digits are numerals

Every number token has a value: a run of digits is an integer, or else it is read
as a decimal fraction without a point and without an exponent.  The digits of an
integer are read back as that integer.
-/

namespace Script

theorem Decimal.splitSign_of_digit {first : Char} (digit : first.isDigit = true)
    (rest : List Char) :
    splitSign (first :: rest) = (false, first :: rest) := by
  unfold splitSign
  split <;> simp_all +decide

/-- A run of digits is read as the word nearest to its value. -/
theorem Decimal.read?_of_digits {text : List Char} (nonempty : text ≠ [])
    (digits : ∀ character ∈ text, character.isDigit = true) :
    read? text = some (Binary64.ofFraction false (digitsValue text) 1) := by
  cases text with
  | nil => exact absurd rfl nonempty
  | cons first rest =>
      have kept : (first :: rest).takeWhile Char.isDigit = first :: rest :=
        List.takeWhile_eq_self_iff.2 digits
      have dropped : (first :: rest).dropWhile Char.isDigit = [] :=
        List.dropWhile_eq_nil_iff.2 digits
      have split := splitSign_of_digit (digits first (by simp)) rest
      simp only [read?, split, digits?, kept, dropped]
      simp [exponentPart?, scaled]

theorem Decimal.digitsValue_toDigits (value : Nat) :
    digitsValue (Nat.toDigits 10 value) = value :=
  Nat.ofDigitChars_ten_toDigits

namespace Numeral

/-- The numeral that stands for a natural number. -/
def ofNat (value : Nat) : Numeral :=
  if value < UInt64.size then .integer value.toUInt64
  else .real (Binary64.ofFraction false value 1)

/-- A run of digits spells an integer if its value fits a word. -/
theorem integer?_of_digits {text : List Char} (nonempty : text ≠ [])
    (digits : ∀ character ∈ text, character.isDigit = true) :
    integer? text =
      if Decimal.digitsValue text < UInt64.size then
        some (Decimal.digitsValue text).toUInt64
      else
        none := by
  have allDigits : text.all Char.isDigit = true := List.all_eq_true.2 digits
  unfold integer?
  split
  · -- A plus is no digit.
    next rest => exact absurd (digits '+' (by simp)) (by decide)
  · simp [nonempty, allDigits]

/-- A run of digits is read by its value, however long it is. -/
theorem read_of_spells {text : String} (spells : Kind.number.Spells text.toList) :
    Numeral.read text = .ok (ofNat (Decimal.digitsValue text.toList)) := by
  rcases spells with ⟨nonempty, digits⟩
  rw [Numeral.read, integer?_of_digits nonempty digits, Decimal.read?_of_digits nonempty digits,
    ofNat]
  by_cases fits : Decimal.digitsValue text.toList < UInt64.size
  · rw [if_pos fits, if_pos fits]
  · rw [if_neg fits, if_neg fits]

/-- A run of digits has a value. -/
theorem read_of_digits {text : String} (spells : Kind.number.Spells text.toList) :
    ∃ value, Numeral.read text = .ok value :=
  ⟨_, read_of_spells spells⟩

/-- The text of an integer is a run of digits. -/
theorem spells_integerText (value : UInt64) :
    Kind.number.Spells (integerText value).toList := by
  rw [integerText, String.toList_ofList]
  refine ⟨Nat.toDigits_ne_nil, fun character member => ?_⟩
  exact Nat.isDigit_of_mem_toDigits (by decide) (by decide) member

/-- The text of an integer is read as that integer. -/
theorem read_integerText (value : UInt64) :
    Numeral.read (integerText value) = .ok (.integer value) := by
  have value_eq : Decimal.digitsValue (integerText value).toList = value.toNat := by
    rw [integerText, String.toList_ofList, Decimal.digitsValue_toDigits]
  have fits : value.toNat < UInt64.size := value.toNat_lt
  rw [read_of_spells (spells_integerText value), value_eq, ofNat, if_pos fits]
  simp

end Numeral

end Script
