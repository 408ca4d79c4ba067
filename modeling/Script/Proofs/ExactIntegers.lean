import Mathlib.Data.Nat.Digits.Defs
import Script.Proofs.Concatenation
import Script.Proofs.JsonNumbers

/-!
# Integers are exact up to the limit of words

A run of digits is an exact integer or the nearest word of the other kind by its value
alone.  Neither its length nor zeros in front of it matter, and the limit lies where the
words end.  Looking for an overflow after each digit comes to the same as comparing the
value of all of them with the limit.

What holds of the digits holds of a program that is one number: a semicolon behind the
digits is no part of them.
-/

namespace Script

/-! ## The value of digits -/

namespace Decimal

/-- What a character stands for among digits. -/
def digitValue (digit : Char) : Nat :=
  digit.toNat - '0'.toNat

/-- The value of digits by their places: the last one counts ones, the one before it tens. -/
def placeValue (digits : List Char) : Nat :=
  Nat.ofDigits 10 (digits.reverse.map digitValue)

/-- Counting digits up from the first gives their value by places. -/
theorem digitsValue_eq_placeValue (digits : List Char) : digitsValue digits = placeValue digits := by
  rw [placeValue, Nat.ofDigits_eq_foldr, List.foldr_map, List.foldr_reverse, digitsValue]
  congr 1
  funext value digit
  rw [digitValue, Nat.add_comm]
  rfl

/-- Zeros in front of digits do not change their value. -/
theorem placeValue_zeros (count : Nat) (digits : List Char) :
    placeValue (List.replicate count '0' ++ digits) = placeValue digits := by
  have zero : digitValue '0' = 0 := rfl
  rw [placeValue, List.reverse_append, List.reverse_replicate, List.map_append,
    List.map_replicate, zero, Nat.ofDigits_append_replicate_zero, placeValue]

/-- The value of some digits with more of them behind. -/
def continuedValue (value : Nat) (digits : List Char) : Nat :=
  digits.foldl (fun value digit => 10 * value + digitValue digit) value

theorem le_continuedValue (value : Nat) (digits : List Char) :
    value ≤ continuedValue value digits := by
  induction digits generalizing value with
  | nil => exact Nat.le_refl _
  | cons digit others inductionHypothesis =>
      have longer := inductionHypothesis (10 * value + digitValue digit)
      exact Nat.le_trans (by omega) longer

/-- A word with one more digit behind it, unless the value overflows. -/
def withDigit? (value : UInt64) (digit : Char) : Option UInt64 :=
  if 10 * value.toNat + digitValue digit < UInt64.size then
    some (10 * value.toNat + digitValue digit).toUInt64
  else
    none

/-- No digit overflows exactly where the value of all of them is that of a word. -/
theorem foldlM_withDigit? (value : UInt64) (digits : List Char) :
    digits.foldlM withDigit? value =
      if continuedValue value.toNat digits < UInt64.size then
        some (continuedValue value.toNat digits).toUInt64
      else
        none := by
  induction digits generalizing value with
  | nil =>
      have fits : continuedValue value.toNat [] < UInt64.size := value.toNat_lt
      rw [if_pos fits]
      exact congrArg some (UInt64.ofNat_toNat).symm
  | cons digit others inductionHypothesis =>
      rw [List.foldlM_cons, withDigit?]
      by_cases fits : 10 * value.toNat + digitValue digit < UInt64.size
      · have kept : (10 * value.toNat + digitValue digit).toUInt64.toNat =
            10 * value.toNat + digitValue digit :=
          Nat.mod_eq_of_lt fits
        rw [if_pos fits, Option.bind_eq_bind, Option.bind_some, inductionHypothesis, kept]
        rfl
      · -- The value only grows, so what overflows here overflows with all digits.
        have longer := le_continuedValue (10 * value.toNat + digitValue digit) others
        have overflows : ¬continuedValue value.toNat (digit :: others) < UInt64.size :=
          fun short => fits (Nat.lt_of_le_of_lt longer short)
        rw [if_neg fits, if_neg overflows]
        rfl

end Decimal

/-! ## Numerals -/

namespace Numeral

variable {digits : List Char}

/-- Digits are read one after the other, each with a check for overflow. -/
theorem integer?_eq_foldlM (nonempty : digits ≠ [])
    (allDigits : ∀ character ∈ digits, character.isDigit = true) :
    integer? digits = digits.foldlM Decimal.withDigit? 0 := by
  rw [integer?_of_digits nonempty allDigits, Decimal.foldlM_withDigit?]
  rfl

theorem ofNat_eq_integer_iff {value : Nat} {word : UInt64} :
    ofNat value = .integer word ↔ word.toNat = value := by
  unfold ofNat
  split
  next fits =>
    rw [integer.injEq, ← UInt64.toNat_inj, eq_comm]
    exact iff_of_eq (congrArg (word.toNat = ·) (Nat.mod_eq_of_lt fits))
  next overflows =>
    refine iff_of_false nofun ?_
    rintro rfl
    exact overflows word.toNat_lt

/-- A run of digits is read by its value by places. -/
theorem read_eq_ofNat (spells : Kind.number.Spells digits) :
    read (String.ofList digits) = .ok (ofNat (Decimal.placeValue digits)) := by
  have spelled : Kind.number.Spells (String.ofList digits).toList := by
    rwa [String.toList_ofList]
  rw [read_of_spells spelled, String.toList_ofList, Decimal.digitsValue_eq_placeValue]

/-- Zeros in front of digits are read as nothing, however many there are. -/
theorem read_zeros_append (spells : Kind.number.Spells digits) (count : Nat) :
    read (String.ofList (List.replicate count '0' ++ digits)) = read (String.ofList digits) := by
  have padded : Kind.number.Spells (List.replicate count '0' ++ digits) := by
    refine ⟨List.append_ne_nil_of_right_ne_nil _ spells.1, List.forall_mem_append.2 ⟨?_, spells.2⟩⟩
    intro character member
    rw [List.eq_of_mem_replicate member]
    rfl
  rw [read_eq_ofNat padded, read_eq_ofNat spells, Decimal.placeValue_zeros]

end Numeral

/-! ## A program that is one number -/

section Statement

variable {digits : List Char} {text : List Char} {lexemes : List Lexeme}

/-- Digits are one lexeme where no digit follows them. -/
theorem Lexes.digits_append (spells : Kind.number.Spells digits)
    (ends : ∀ character ∈ text.head?, character.isDigit = false) (lexes : Lexes text lexemes) :
    Lexes (digits ++ text) (⟨.number, String.ofList digits⟩ :: lexemes) := by
  rcases spells with ⟨nonempty, allDigits⟩
  have run : (digits ++ text).takeWhile Char.isDigit = digits := by
    rw [List.takeWhile_append_of_pos allDigits]
    cases text with
    | nil => simp
    | cons first rest => simp [ends first rfl]
  have found : Rule.first? (digits ++ text) = some (Rule.number, digits.length) := by
    cases digits with
    | nil => exact absurd rfl nonempty
    | cons first rest =>
        have isFirst := Rule.first?_of_digit (allDigits first (by simp)) (rest ++ text)
        rwa [← List.cons_append, run] at isFirst
  have taken : (digits ++ text).take digits.length = digits := List.take_left
  have rest : (digits ++ text).drop digits.length = text := List.drop_left
  have lexesRest : Lexes ((digits ++ text).drop digits.length) lexemes := by rwa [rest]
  have emits : Rule.number.kind? (String.ofList ((digits ++ text).take digits.length)) =
      some .number := rfl
  have first := Lexes.take found emits lexesRest
  rwa [taken] at first

/-- A semicolon behind digits makes a statement of them. -/
theorem parse_terminated (spells : Kind.number.Spells digits) (file : Option String) :
    Parser.parse (String.ofList (digits ++ [';'])) file =
      .ok (numberStatement (Decimal.placeValue digits)) := by
  have ofNumber : Written (slot Tree.memberTightness) _ _ :=
    written_literal (.number (Numeral.read_eq_ofNat spells))
      (Lexeme.standsAlone_number (by rwa [String.toList_ofList]))
  have statement := (ofNumber.loosen (Nat.zero_le _)).expressionStatement
  have order : Rule.all =
      Rule.all.take 3 ++ ⟨.oneOf [';'], .emit .semicolon⟩ :: Rule.all.drop 4 := by
    decide
  have lexes : Lexes (digits ++ [';'])
      [⟨.number, String.ofList digits⟩, Tree.fixedLexeme .semicolon] :=
    .digits_append spells (by simp) (.mark_cons order (by decide) .nil)
  have derives := Grammar.Derives.moreStatements statement.derives .noStatements
  refine Parser.parse_eq_ok_iff_lexes.2 ⟨_, _, rfl, ?_, derives⟩
  rw [String.toList_ofList]
  exact lexes

/--
Digits are read as an exact integer where their value is that of a word, and otherwise
as a number of the other kind; never are they refused.  A word is read back from its
text, and a program of digits and a semicolon is the number that the digits are.
-/
theorem digits_exact_up_to_limit (nonempty : digits ≠ [])
    (allDigits : ∀ character ∈ digits, character.isDigit = true) (file : Option String) :
    (∀ word : UInt64, Numeral.read (String.ofList digits) = .ok (.integer word) ↔
      word.toNat = Decimal.placeValue digits) ∧
    (∀ word : UInt64, Parser.parse (String.ofList (digits ++ [';'])) file =
        .ok (Tree.program [.expression (.number (.integer word))]) ↔
      word.toNat = Decimal.placeValue digits) ∧
    (2 ^ 64 ≤ Decimal.placeValue digits →
      ∃ word, Numeral.read (String.ofList digits) = .ok (.real word) ∧
        Parser.parse (String.ofList (digits ++ [';'])) file =
          .ok (Tree.program [.expression (.number (.real word))])) ∧
    ∀ value : UInt64, Numeral.read (Numeral.integer value).plainText = .ok (.integer value) := by
  have spells : Kind.number.Spells digits := ⟨nonempty, allDigits⟩
  have reads := Numeral.read_eq_ofNat spells
  have parses := parse_terminated spells file
  refine ⟨fun word => ?_, fun word => ?_, fun large => ?_, Numeral.read_integerText⟩
  · rw [reads, Except.ok.injEq]
    exact Numeral.ofNat_eq_integer_iff
  · rw [parses, Except.ok.injEq, numberStatement]
    simp only [Tree.program.injEq, List.cons.injEq, Tree.expression.injEq, Tree.number.injEq,
      and_true]
    exact Numeral.ofNat_eq_integer_iff
  · have notWord : ¬Decimal.placeValue digits < UInt64.size := Nat.not_lt.2 large
    rw [numberStatement] at parses
    rw [Numeral.ofNat, if_neg notWord] at reads parses
    exact ⟨_, reads, parses⟩

/-- Behind zeros the greatest word is exact; the next number has fewer digits and is not. -/
theorem limit_met_behind_zeros :
    Parser.parse (String.ofList ("00000018446744073709551615".toList ++ [';'])) none =
        .ok (Tree.program [.expression (.number (.integer 18446744073709551615))]) ∧
      ∃ word, Numeral.read (String.ofList "18446744073709551616".toList) = .ok (.real word) ∧
        Parser.parse (String.ofList ("18446744073709551616".toList ++ [';'])) none =
          .ok (Tree.program [.expression (.number (.real word))]) := by
  have value : (18446744073709551615 : UInt64).toNat =
      Decimal.placeValue "00000018446744073709551615".toList := by
    decide +kernel
  have large : 2 ^ 64 ≤ Decimal.placeValue "18446744073709551616".toList := by
    decide +kernel
  have padded : "00000018446744073709551615".toList.all Char.isDigit = true := by
    decide +kernel
  have plain : "18446744073709551616".toList.all Char.isDigit = true := by
    decide +kernel
  constructor
  · exact ((digits_exact_up_to_limit (by decide) (List.all_eq_true.1 padded) none).2.1 _).2 value
  · exact (digits_exact_up_to_limit (by decide) (List.all_eq_true.1 plain) none).2.2.1 large

end Statement

end Script
