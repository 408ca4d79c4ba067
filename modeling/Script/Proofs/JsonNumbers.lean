import Script.Proofs.JsonText
import Script.Proofs.Printing
import Script.Proofs.ReadBack
import Script.SExpr.Equality

/-!
# Numbers on the wire

Every number token of an accepted source is written as a JSON number, in either mode, as
long as it is below the least integer that is read as an infinity.  From there on it is
written as `null`, like the literal of that name.

A JSON number has a whole part, and perhaps a fraction and an exponent.  Both ways to lay
out the digits of a word have these parts.
-/

namespace Script

namespace Json

/-! ## The parts of a number -/

/-- A whole number: zero, or digits that start with another one. -/
def IsWhole (text : List Char) : Prop :=
  text = ['0'] ∨
    text ≠ [] ∧ (∀ digit ∈ text, digit.isDigit = true) ∧ text.head? ≠ some '0'

/-- A point and digits, or nothing. -/
def IsFraction (text : List Char) : Prop :=
  text = [] ∨
    ∃ digits, digits ≠ [] ∧ (∀ digit ∈ digits, digit.isDigit = true) ∧ text = '.' :: digits

/-- An exponent with a sign, or nothing. -/
def IsExponent (text : List Char) : Prop :=
  text = [] ∨
    ∃ sign digits, (sign = '+' ∨ sign = '-') ∧ digits ≠ [] ∧
      (∀ digit ∈ digits, digit.isDigit = true) ∧ text = 'e' :: sign :: digits

theorem digits?_append {digits rest : List Char} (nonempty : digits ≠ [])
    (allDigits : ∀ digit ∈ digits, digit.isDigit = true) (ends : EndsNumber rest) :
    digits? (digits ++ rest) = some rest := by
  cases digits with
  | nil => exact absurd rfl nonempty
  | cons first others =>
      rw [List.forall_mem_cons] at allDigits
      have passed : (others ++ rest).dropWhile Char.isDigit = rest := by
        rw [List.dropWhile_append_of_pos allDigits.2]
        cases rest with
        | nil => rfl
        | cons next rest => simp [ends next rfl]
      simp [digits?, allDigits.1, passed]

theorem IsFraction.endsNumber {text : List Char} (isFraction : IsFraction text) :
    EndsNumber text := by
  rcases isFraction with rfl | ⟨digits, _, _, rfl⟩ <;> simp [EndsNumber]

theorem IsExponent.endsNumber {text : List Char} (isExponent : IsExponent text) :
    EndsNumber text := by
  rcases isExponent with rfl | ⟨sign, digits, _, _, _, rfl⟩ <;> simp [EndsNumber]

theorem whole?_append {whole rest : List Char} (isWhole : IsWhole whole)
    (ends : EndsNumber rest) : whole? (whole ++ rest) = some rest := by
  rcases isWhole with rfl | ⟨nonempty, allDigits, significant⟩
  · cases rest with
    | nil => rfl
    | cons next rest => simp [whole?, ends next rfl]
  · have passed := digits?_append nonempty allDigits ends
    unfold whole?
    split
    · next starts =>
        cases whole with
        | nil => exact absurd rfl nonempty
        | cons first others => simp_all
    · exact passed

theorem fraction?_append {fraction rest : List Char} (isFraction : IsFraction fraction)
    (isExponent : IsExponent rest) : fraction? (fraction ++ rest) = some rest := by
  rcases isFraction with rfl | ⟨digits, nonempty, allDigits, rfl⟩
  · rcases isExponent with rfl | ⟨sign, digits, _, _, _, rfl⟩ <;> rfl
  · exact digits?_append nonempty allDigits isExponent.endsNumber

theorem exponent?_of_isExponent {text : List Char} (isExponent : IsExponent text) :
    exponent? text = some [] := by
  rcases isExponent with rfl | ⟨sign, digits, signed, nonempty, allDigits, rfl⟩
  · rfl
  · have passed : digits? (digits ++ []) = some [] :=
      digits?_append nonempty allDigits (by simp [EndsNumber])
    rw [List.append_nil] at passed
    rcases signed with rfl | rfl <;> simpa [exponent?] using passed

/-- Texts of the three parts of a number make a number. -/
theorem number?_of_parts {whole fraction exponent : List Char} (isWhole : IsWhole whole)
    (isFraction : IsFraction fraction) (isExponent : IsExponent exponent) :
    number? (whole ++ (fraction ++ exponent)) = some [] := by
  have ends : EndsNumber (fraction ++ exponent) := by
    rcases isFraction with rfl | ⟨digits, _, _, rfl⟩
    · exact isExponent.endsNumber
    · simp [EndsNumber]
  have unsigned : ∀ rest, whole ++ (fraction ++ exponent) ≠ '-' :: rest := by
    intro rest negative
    rcases isWhole with rfl | ⟨nonempty, allDigits, _⟩
    · simp at negative
    · cases whole with
      | nil => exact absurd rfl nonempty
      | cons first others =>
          cases (List.cons.inj negative).1
          exact absurd (allDigits '-' (by simp)) (by decide)
  unfold number?
  split
  · next rest negative => exact absurd negative (unsigned rest)
  · dsimp only
    rw [whole?_append isWhole ends, Option.bind_some, fraction?_append isFraction isExponent,
      Option.bind_some, exponent?_of_isExponent isExponent]

end Json

/-! ## Layouts of words -/

namespace Decimal

open Json

variable {number : Scientific}

theorem isWhole_take (proper : number.Proper) {length : Nat} (positive : 0 < length) :
    IsWhole (number.digits.take length) := by
  refine .inr ⟨?_, fun digit member => proper.digits digit (List.mem_of_mem_take member), ?_⟩
  · rw [ne_eq, List.take_eq_nil_iff]
    exact not_or.2 ⟨positive.ne', proper.nonempty⟩
  · rw [List.head?_take, if_neg positive.ne']
    exact proper.significant

theorem isFraction_drop (proper : number.Proper) (length : Nat) :
    IsFraction (if (number.digits.drop length).isEmpty then []
      else '.' :: number.digits.drop length) := by
  split
  · exact .inl rfl
  · next nonempty =>
      refine .inr ⟨_, by simpa using nonempty, fun digit member => ?_, rfl⟩
      exact proper.digits digit (List.mem_of_mem_drop member)

/-- Digits with an exponent are a number. -/
theorem number?_withExponent (proper : number.Proper) : number? (withExponent number) = some [] := by
  have isExponent : IsExponent ((if number.exponent < 0 then "e-".toList else "e+".toList) ++
      Nat.toDigits 10 number.exponent.natAbs) := by
    refine .inr ⟨if number.exponent < 0 then '-' else '+', _, ?_, Nat.toDigits_ne_nil,
      isDigit_toDigits number.exponent.natAbs, ?_⟩ <;> split <;> simp
  have parts := number?_of_parts (isWhole_take proper (Nat.zero_lt_one))
    (isFraction_drop proper 1) isExponent
  simpa [withExponent] using parts

/-- Digits that are written in full, with a point, are a number. -/
theorem number?_inFull (proper : number.Proper) : number? (inFull true number) = some [] := by
  rw [inFull, if_pos rfl]
  rcases lt_or_ge number.exponent 0 with small | notSmall
  · -- The digits all stand behind the point.
    have isFraction : IsFraction ('.' ::
        (List.replicate (-number.exponent - 1).toNat '0' ++ number.digits)) := by
      refine .inr ⟨_, by simp [proper.nonempty], fun digit member => ?_, rfl⟩
      rcases List.mem_append.1 member with zero | ofNumber
      · exact isDigit_of_mem_zeros zero
      · exact proper.digits digit ofNumber
    have parts := number?_of_parts (.inl rfl) isFraction (.inl rfl)
    rw [if_pos small]
    simpa using parts
  rw [if_neg (not_lt.2 notSmall)]
  rcases le_or_gt number.digits.length (number.exponent + 1).toNat with before | beyond
  · -- The digits all stand before the point.
    have isWhole : IsWhole (number.digits ++
        List.replicate ((number.exponent + 1).toNat - number.digits.length) '0') := by
      refine .inr ⟨by simp [proper.nonempty], fun digit member => ?_, ?_⟩
      · rcases List.mem_append.1 member with ofNumber | zero
        · exact proper.digits digit ofNumber
        · exact isDigit_of_mem_zeros zero
      · rw [List.head?_append_of_ne_nil _ proper.nonempty]
        exact proper.significant
    have isFraction : IsFraction ".0".toList :=
      .inr ⟨['0'], List.cons_ne_nil _ _, List.forall_mem_singleton.2 rfl, rfl⟩
    have parts := number?_of_parts isWhole isFraction (.inl rfl)
    rw [if_pos before]
    simpa using parts
  · have isWhole : IsWhole (number.digits.take (number.exponent + 1).toNat) :=
      isWhole_take proper (by omega)
    have isFraction := isFraction_drop proper (number.exponent + 1).toNat
    have nonempty : (number.digits.drop (number.exponent + 1).toNat).isEmpty = false := by
      simpa using beyond
    rw [nonempty, if_neg Bool.false_ne_true] at isFraction
    have parts := number?_of_parts isWhole isFraction (.inl rfl)
    rw [if_neg (not_le.2 beyond)]
    simpa using parts

end Decimal

namespace Numeral

open Decimal Binary64

/-- The text of an integer is a JSON number. -/
theorem number?_integerText (value : UInt64) :
    Json.number? (integerText value).toList = some [] := by
  have isWhole : Json.IsWhole (Nat.toDigits 10 value.toNat) := by
    rcases Nat.eq_zero_or_pos value.toNat with zero | positive
    · rw [zero]
      exact .inl rfl
    · exact .inr ⟨Nat.toDigits_ne_nil, isDigit_toDigits _, head?_toDigits_ne_zero positive⟩
  have parts := Json.number?_of_parts isWhole (.inl rfl) (.inl rfl)
  rw [integerText, String.toList_ofList]
  simpa using parts

/-- The text of a finite positive word is a JSON number. -/
theorem number?_dataText_real {word : Binary64} (positive : word.isNegative = false)
    (finite : word.isFinite = true) (nonzero : 0 < word.magnitude) :
    Json.number? (real word).dataText.toList = some [] := by
  have proper : (shortest dataLayout.tie word).Proper := by
    rw [shortest, if_neg nonzero.ne']
    exact Interval.proper_shortest (Interval.ofWord_value_pos nonzero) _
  rw [dataText, write_eq dataLayout positive finite, String.toList_ofList]
  split
  · exact number?_inFull proper
  · exact number?_withExponent proper

/-- The value of a number token is written as a JSON number, or as `null` where it is infinite. -/
theorem dataText_ofNat (value : Nat) :
    (value < overflow → Json.number? (ofNat value).dataText.toList = some []) ∧
      (overflow ≤ value → (ofNat value).dataText = "null") := by
  rcases Nat.lt_or_ge value UInt64.size with small | large
  · rw [ofNat, if_pos small]
    refine ⟨fun _ => number?_integerText _, fun overflows => ?_⟩
    exact absurd (size_le_overflow.trans overflows) (not_le.2 small)
  · rcases ofNat_of_large large with ⟨word, value_eq, positive, notSmall, finite, infinite⟩
    rw [value_eq]
    refine ⟨fun bounded => ?_, fun overflows => ?_⟩
    · have nonzero : 0 < word.magnitude := lt_of_lt_of_le (by decide) notSmall
      exact number?_dataText_real positive (finite.2 bounded) nonzero
    · rw [infinite overflows]
      decide

end Numeral

/-! ## The literals of a program -/

open Binary64 (overflow)

/--
What an accepted source makes of its number tokens, in either mode: their values are the
numbers of the JSON value, in the order of the source.  A value below the overflow is
written as a JSON number, and every other value like `null`.
-/
theorem number_literals_on_the_wire {mode : Mode} {source : String} {file : Option String}
    {output : Output} (accepts : parse mode source file = .ok output) :
    ∃ tokens, tokenize source file = .ok tokens ∧
      output.toJson.numerals =
        (numberTokens tokens).map (fun token => Numeral.ofNat token.value) ∧
      ∀ token ∈ numberTokens tokens,
        Numeral.read token.text = .ok (Numeral.ofNat token.value) ∧
          (token.value < overflow →
            Json.number? (Json.number (Numeral.ofNat token.value)).compact.toList = some []) ∧
          (overflow ≤ token.value →
            (Json.number (Numeral.ofNat token.value)).compact = Json.null.compact) := by
  rcases numerals_of_parse accepts with ⟨tokens, lexes, numerals_eq⟩
  refine ⟨tokens, lexes, numerals_eq, fun token member => ?_⟩
  rw [numberTokens, List.mem_filter, decide_eq_true_eq] at member
  rcases member with ⟨member, isNumber⟩
  have spells : Kind.number.Spells token.text.toList := by
    rw [← isNumber]
    exact (tokenize_iff_lexes.1 ⟨tokens, lexes, rfl⟩).spells token.lexeme
      (List.mem_map_of_mem member)
  have text_eq : (Json.number (Numeral.ofNat token.value)).compact =
      (Numeral.ofNat token.value).dataText := by
    simp [Json.compact, Json.compactThen]
  rcases Numeral.dataText_ofNat token.value with ⟨bounded, infinite⟩
  rw [text_eq]
  exact ⟨Numeral.read_of_spells spells, bounded, infinite⟩

/-- The tree of a statement that is one number. -/
def numberStatement (value : Nat) : Tree :=
  .program [.expression (.number (Numeral.ofNat value))]

/-- Digits and a semicolon make a statement, however many digits there are. -/
theorem parse_digits {digits : List Char} (spells : Kind.number.Spells digits)
    (file : Option String) :
    Parser.parse (String.ofList (digits ++ [' ', ';'])) file =
      .ok (numberStatement (Decimal.digitsValue digits)) := by
  have spelled : Kind.number.Spells (String.ofList digits).toList := by
    rwa [String.toList_ofList]
  have reads := Numeral.read_of_spells spelled
  rw [String.toList_ofList] at reads
  have ofNumber : Written (slot Tree.memberTightness) _ _ :=
    written_literal (.number reads) (Lexeme.standsAlone_number spelled)
  have statement := (ofNumber.loosen (Nat.zero_le _)).expressionStatement
  rcases tokenize_spaced statement.apart file with ⟨tokens, lexes, lexemes_eq⟩
  have source_eq : Tree.spaced ([⟨.number, String.ofList digits⟩] ++
      [Tree.fixedLexeme .semicolon]) = digits ++ [' ', ';'] := by
    simp [Tree.spaced, Tree.fixedLexeme, Kind.name]
  rw [source_eq] at lexes
  refine Parser.parse_eq_ok_iff.2 ⟨tokens, lexes, ?_⟩
  rw [lexemes_eq]
  have derives := Grammar.Derives.moreStatements statement.derives .noStatements
  rw [List.append_nil] at derives
  exact .program derives

/-- The least number that fits no word is written as a number. -/
theorem first_real_on_the_wire :
    ∃ output, parse .list "n = 18446744073709551616;" none = .ok output ∧
      ∃ tokens, tokenize "n = 18446744073709551616;" none = .ok tokens ∧
        output.toJson.numerals =
          (numberTokens tokens).map (fun token => Numeral.ofNat token.value) ∧
        ∀ token ∈ numberTokens tokens,
          Numeral.read token.text = .ok (Numeral.ofNat token.value) ∧
            (token.value < overflow →
              Json.number? (Json.number (Numeral.ofNat token.value)).compact.toList = some []) ∧
            (overflow ≤ token.value →
              (Json.number (Numeral.ofNat token.value)).compact = Json.null.compact) := by
  have answer : (Parser.parse "n = 18446744073709551616;" none : Except Diagnostic SExpr) =
      .ok (.begin [.form "=" [.symbol "n", .number (.real Numeral.leastReal)]]) := by
    decide +kernel
  have accepts : parse .list "n = 18446744073709551616;" none =
      .ok (.list (.begin [.form "=" [.symbol "n", .number (.real Numeral.leastReal)]])) :=
    congrArg (Except.map Output.list) answer
  exact ⟨_, accepts, number_literals_on_the_wire accepts⟩

/-- A one and 309 zeros. -/
def hugeDigits : List Char :=
  '1' :: List.replicate 309 '0'

/-- A literal of 310 digits is read as an infinity. -/
theorem parse_hugeDigits :
    Parser.parse (String.ofList (hugeDigits ++ [' ', ';'])) none =
      .ok (Tree.program [.expression (.number (.real (Binary64.infinity false)))]) := by
  have spells : Kind.number.Spells hugeDigits :=
    ⟨List.cons_ne_nil _ _,
      List.forall_mem_cons.2 ⟨rfl, fun _ zero => Decimal.isDigit_of_mem_zeros zero⟩⟩
  have overflows : overflow ≤ Decimal.digitsValue hugeDigits := by
    decide +kernel
  rcases Numeral.ofNat_of_large (Binary64.size_le_overflow.trans overflows) with
    ⟨word, value_eq, _, _, _, infinite⟩
  rw [parse_digits spells none, numberStatement, value_eq, infinite overflows]

/-- A literal of 310 digits is written as `null`, and the program like that of `null;`. -/
theorem huge_literal_is_null :
    ∃ output other, parse .list (String.ofList (hugeDigits ++ [' ', ';'])) none = .ok output ∧
      parse .list "null;" none = .ok other ∧ output ≠ other ∧
        output.toJson.numerals = [.real (Binary64.infinity false)] ∧
          output.toJson.compact = "[\"begin\",[null]]" ∧
            other.toJson.compact = "[\"begin\",[null]]" := by
  have answer : (Parser.parse "null;" none : Except Diagnostic Tree) =
      .ok (.program [.expression .null]) := by
    decide +kernel
  refine ⟨_, _, parse_eq_outputOf parse_hugeDigits .list, parse_eq_outputOf answer .list,
    ?_, rfl, ?_, rfl⟩
  · simp [Mode.outputOf, Tree.listForm, Tree.listForms]
  · decide +kernel

end Script
