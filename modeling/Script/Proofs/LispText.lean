import Script.Proofs.JsonNumbers
import Script.Proofs.ListAtoms

/-!
# Lisp texts determine list expressions up to absent values

The Lisp text of an accepted program tells its expression from any other, as long as its
numbers are finite, except that an absent value is written like a symbol `nil`.  Two such
programs have the same text exactly if their expressions are the same once absent values
are spelled out as this symbol.

What is spelled out has three sorts of items: strings and lists are opened by a mark, and
an atom reaches up to the next space or parenthesis.  Among the atoms digits are numbers,
two words are truth values, and every other word is a symbol.
-/

namespace Script.SExpr

/-! ## Spelling out -/

mutual

/-- An expression with the symbol `nil` in the place of absent values. -/
def spelledOut : SExpr → SExpr
  | .nil => .symbol "nil"
  | .list items => .list (spelledOutItems items)
  | .number value => .number value
  | .string value => .string value
  | .symbol name => .symbol name
  | .boolean value => .boolean value

/-- Several expressions, each of them spelled out. -/
def spelledOutItems : List SExpr → List SExpr
  | [] => []
  | item :: others => spelledOut item :: spelledOutItems others

end

theorem lispItemsThen_eq (items : List SExpr) (after : List Char) :
    lispItemsThen items after = Text.separatedThen lispThen ' ' items after := by
  induction items with
  | nil => rfl
  | cons first others inductionHypothesis =>
      cases others with
      | nil => rfl
      | cons next others => rw [lispItemsThen, inductionHypothesis, Text.separatedThen]

mutual

theorem lispThen_spelledOut : ∀ (expression : SExpr) (after : List Char),
    expression.spelledOut.lispThen after = expression.lispThen after
  | .nil, _ | .number _, _ | .string _, _ | .symbol _, _ | .boolean _, _ => rfl
  | .list items, after => congrArg ('(' :: ·) (lispItemsThen_spelledOut items (')' :: after))

theorem lispItemsThen_spelledOut : ∀ (items : List SExpr) (after : List Char),
    lispItemsThen (spelledOutItems items) after = lispItemsThen items after
  | [], _ => rfl
  | [last], after => lispThen_spelledOut last after
  | item :: next :: others, after => by
      have ofOthers := lispItemsThen_spelledOut (next :: others) after
      rw [spelledOutItems] at ofOthers
      rw [spelledOutItems, spelledOutItems, lispItemsThen, lispItemsThen, lispThen_spelledOut item,
        ofOthers]

end

/-- An expression is written as it is spelled out. -/
theorem lisp_spelledOut (expression : SExpr) : expression.spelledOut.lisp = expression.lisp :=
  congrArg String.ofList (lispThen_spelledOut expression [])

/-! ## Clear expressions -/

mutual

/-- Nothing is absent, symbols are words, and numbers are digits that are read back. -/
def Clear : SExpr → Prop
  | .number value =>
      Kind.number.Spells value.plainText.toList ∧ Numeral.read value.plainText = .ok value
  | .symbol name => isWord name = true
  | .string _ | .boolean _ => True
  | .nil => False
  | .list items => AllClear items

/-- Each of several expressions is clear. -/
def AllClear : List SExpr → Prop
  | [] => True
  | item :: others => Clear item ∧ AllClear others

end

theorem allClear_iff (items : List SExpr) : AllClear items ↔ ∀ item ∈ items, item.Clear := by
  induction items with
  | nil => simp [AllClear]
  | cons item others inductionHypothesis => simp [AllClear, inductionHypothesis]

/-! ## Atoms -/

/-- The text of an item that is neither a string nor a list. -/
def atom? : SExpr → Option String
  | .number value => some value.plainText
  | .symbol name => some name
  | .boolean value => some (if value then "true" else "false")
  | .nil => some "nil"
  | .string _ | .list _ => none

/-- The atom that a text spells: a number, a truth value or a symbol. -/
def readAtom (text : String) : SExpr :=
  if text.toList.head?.any Char.isDigit then
    match Numeral.read text with
    | .ok value => .number value
    | .error _ => .symbol text
  else if text = "true" then
    .boolean true
  else if text = "false" then
    .boolean false
  else
    .symbol text

theorem lispThen_of_atom? {expression : SExpr} {text : String}
    (atom : expression.atom? = some text) (after : List Char) :
    expression.lispThen after = text.toList ++ after := by
  cases expression with
  | boolean value => cases value <;> cases atom <;> rfl
  | string | list => cases atom
  | number | symbol | nil =>
      cases atom
      rfl

/-- A clear atom is read back. -/
theorem readAtom_of_atom? {expression : SExpr} {text : String} (clear : expression.Clear)
    (atom : expression.atom? = some text) : readAtom text = expression := by
  cases expression with
  | number value =>
      cases atom
      rcases clear with ⟨⟨nonempty, digits⟩, reads⟩
      have starts : value.plainText.toList.head?.any Char.isDigit = true := by
        cases text_eq : value.plainText.toList with
        | nil => exact absurd text_eq nonempty
        | cons first others => exact digits first (by simp [text_eq])
      rw [readAtom, if_pos starts, reads]
  | symbol name =>
      cases atom
      have word : isWord text = true := clear
      simp only [isWord, Bool.and_eq_true, decide_eq_true_eq] at word
      rcases word with ⟨⟨⟨starts, _⟩, notTrue⟩, notFalse⟩
      have noNumber : ¬text.toList.head?.any Char.isDigit = true := by
        cases first_eq : text.toList.head? with
        | none => simp
        | some first => simpa [first_eq] using starts
      rw [readAtom, if_neg noNumber, if_neg notTrue, if_neg notFalse]
  | boolean value =>
      cases atom
      cases value <;> decide
  | nil => exact clear.elim
  | string | list => cases atom

theorem isDelimiter_of_isDigit {character : Char} (digit : character.isDigit = true) :
    isDelimiter character = false :=
  isDelimiter_of_continuesName (by simp [Tree.continuesName, Char.isAlphanum, digit])

/-- A clear atom is a text without delimiters. -/
theorem undelimited_of_atom? {expression : SExpr} {text : String} (clear : expression.Clear)
    (atom : expression.atom? = some text) :
    text.toList ≠ [] ∧ ∀ character ∈ text.toList, isDelimiter character = false := by
  cases expression with
  | number value =>
      cases atom
      exact ⟨clear.1.1, fun character member => isDelimiter_of_isDigit (clear.1.2 _ member)⟩
  | symbol name =>
      cases atom
      have word : isWord text = true := clear
      simp only [isWord, Bool.and_eq_true, List.all_eq_true, Bool.not_eq_true'] at word
      refine ⟨?_, word.1.1.2⟩
      intro empty
      simp [empty] at word
  | boolean value =>
      cases atom
      have undelimited :
          (if value then "true" else "false").toList.all (!isDelimiter ·) = true := by
        cases value <;> decide
      refine ⟨by cases value <;> decide, ?_⟩
      simpa only [List.all_eq_true, Bool.not_eq_true'] using undelimited
  | nil => exact clear.elim
  | string | list => cases atom

/-! ## Items are told apart -/

/-- The mark that opens an item, unless it is an atom. -/
def opening? : SExpr → Option Char
  | .string _ => some '"'
  | .list _ => some '('
  | .number _ | .symbol _ | .boolean _ | .nil => none

/-- A text that does not go on with an atom. -/
def EndsAtom (text : List Char) : Prop :=
  ∀ first ∈ text.head?, isDelimiter first = true

/-- The mark that a text starts with, if it starts with one. -/
def mark? (text : List Char) : Option Char :=
  text.head?.filter isDelimiter

theorem atom?_eq_none_iff (expression : SExpr) :
    expression.atom? = none ↔ expression.opening? ≠ none := by
  cases expression <;> simp [atom?, opening?]

/-- The first character of a text says whether its item is a string, a list or an atom. -/
theorem mark?_lispThen {expression : SExpr} (clear : expression.Clear) (after : List Char) :
    mark? (expression.lispThen after) = expression.opening? := by
  cases atom : expression.atom? with
  | some text =>
      rcases undelimited_of_atom? clear atom with ⟨nonempty, undelimited⟩
      have noOpening : expression.opening? = none := by
        by_contra opening
        rw [(atom?_eq_none_iff expression).2 opening] at atom
        cases atom
      rw [lispThen_of_atom? atom, noOpening, mark?]
      cases text_eq : text.toList with
      | nil => exact absurd text_eq nonempty
      | cons first others => simp [undelimited first (by simp [text_eq])]
  | none =>
      cases expression with
      | string value => simp [mark?, lispThen, quote_toList, opening?, isDelimiter]
      | list items => rfl
      | _ => cases atom

theorem listed_items : Text.Listed lispThen Clear EndsAtom ' ' ')' where
  endsAtSeparator := by simp [EndsAtom, isDelimiter]
  endsAtClosing := by simp [EndsAtom, isDelimiter]
  apart := by decide
  opens expression clear after := by
    intro closes
    have opening_eq := mark?_lispThen clear after
    rw [mark?, closes] at opening_eq
    cases expression <;> cases opening_eq

/-- Clear atoms are told apart. -/
theorem legible_atom {expression : SExpr} {text : String} (clear : expression.Clear)
    (atom : expression.atom? = some text) : Text.Legible lispThen Clear EndsAtom expression := by
  intro other after otherAfter otherClear ends otherEnds same
  have sameOpening := (mark?_lispThen clear after).symm.trans
    ((congrArg mark? same).trans (mark?_lispThen otherClear otherAfter))
  cases otherAtom : other.atom? with
  | none =>
      have opens := (atom?_eq_none_iff other).1 otherAtom
      rw [← sameOpening] at opens
      rw [(atom?_eq_none_iff expression).2 opens] at atom
      cases atom
  | some otherText =>
      rw [lispThen_of_atom? atom, lispThen_of_atom? otherAtom] at same
      have undelimited := (undelimited_of_atom? clear atom).2
      have otherUndelimited := (undelimited_of_atom? otherClear otherAtom).2
      have run : ∀ character ∈ text.toList, (!isDelimiter character) = true := by
        simpa using undelimited
      rcases Text.eq_of_append_run run (by simpa using otherUndelimited)
        (by simpa [EndsAtom] using ends) (by simpa [EndsAtom] using otherEnds) same with
          ⟨sameText, sameAfter⟩
      rw [String.toList_injective sameText] at atom
      exact ⟨(readAtom_of_atom? clear atom).symm.trans (readAtom_of_atom? otherClear otherAtom),
        sameAfter⟩

mutual

/-- A clear expression is written like no other one. -/
theorem legible : ∀ expression : SExpr, expression.Clear →
    Text.Legible lispThen Clear EndsAtom expression
  | .number _, clear | .symbol _, clear | .boolean _, clear => legible_atom clear rfl
  | .nil, clear => clear.elim
  | .string value, clear => by
      intro other after otherAfter otherClear _ _ same
      have sameOpening := (mark?_lispThen clear after).symm.trans
        ((congrArg mark? same).trans (mark?_lispThen otherClear otherAfter))
      cases other with
      | string otherValue =>
          rcases eq_of_quote same with ⟨rfl, sameAfter⟩
          exact ⟨rfl, sameAfter⟩
      | _ => cases sameOpening
  | .list items, clear => by
      intro other after otherAfter otherClear _ _ same
      have sameOpening := (mark?_lispThen clear after).symm.trans
        ((congrArg mark? same).trans (mark?_lispThen otherClear otherAfter))
      cases other with
      | list others =>
          rw [lispThen, lispThen, lispItemsThen_eq, lispItemsThen_eq] at same
          rcases listed_items.eq_of_separatedThen (legible_items items clear)
            ((allClear_iff items).1 clear) ((allClear_iff others).1 otherClear)
            (List.cons.inj same).2 with ⟨rfl, sameAfter⟩
          exact ⟨rfl, sameAfter⟩
      | _ => cases sameOpening

theorem legible_items : ∀ items : List SExpr, AllClear items →
    ∀ item ∈ items, Text.Legible lispThen Clear EndsAtom item
  | [], _ => by simp
  | item :: others, clear => by
      rw [List.forall_mem_cons]
      exact ⟨legible item clear.1, legible_items others clear.2⟩

end

/-- Clear expressions have the same text only if they are the same. -/
theorem eq_of_lisp {expression other : SExpr} (clear : expression.Clear)
    (otherClear : other.Clear) (same : expression.lisp = other.lisp) : expression = other :=
  (legible expression clear other [] [] otherClear (by simp [EndsAtom]) (by simp [EndsAtom])
    (String.ofList_injective same)).1

/-! ## Programs are clear when they are spelled out -/

mutual

/-- An expression with words for symbols and clear numbers is clear when it is spelled out. -/
theorem clear_spelledOut : ∀ expression : SExpr, expression.isWorded = true →
    (∀ value ∈ expression.numerals, (number value).Clear) → expression.spelledOut.Clear
  | .number value, _, ofNumbers => ofNumbers value (by simp)
  | .nil, _, _ => (by decide : isWord "nil" = true)
  | .symbol name, worded, _ => (isWorded_symbol name).symm.trans worded
  | .string _, _, _ | .boolean _, _, _ => trivial
  | .list items, worded, ofNumbers => by
      rw [isWorded_list, List.all_eq_true] at worded
      exact allClear_spelledOut items worded ofNumbers

theorem allClear_spelledOut : ∀ items : List SExpr, (∀ item ∈ items, item.isWorded = true) →
    (∀ value ∈ numeralsOf items, (number value).Clear) → AllClear (spelledOutItems items)
  | [], _, _ => trivial
  | item :: others, worded, ofNumbers => by
      rw [List.forall_mem_cons] at worded
      rw [numeralsOf, List.forall_mem_append] at ofNumbers
      exact ⟨clear_spelledOut item worded.1 ofNumbers.1,
        allClear_spelledOut others worded.2 ofNumbers.2⟩

end

end Script.SExpr

namespace Script

open Binary64 (overflow)

/-- An accepted program whose numbers are finite is clear when it is spelled out. -/
theorem clear_of_parse {source : String} {file : Option String} {expression : SExpr}
    (accepts : parse .list source file = .ok (.list expression))
    (finite : NumbersBelow overflow source file) : expression.spelledOut.Clear := by
  rcases numerals_of_parse accepts with ⟨tokens, lexes, numerals_eq⟩
  rcases exists_tree_of_parse accepts with ⟨tree, acceptsTree, output_eq⟩
  obtain rfl : expression = tree.listForm := Output.list.inj output_eq
  refine SExpr.clear_spelledOut _ (isWorded_of_parse acceptsTree) ?_
  intro value member
  rw [Output.toJson, SExpr.numerals_toJson] at numerals_eq
  rw [numerals_eq, List.mem_map] at member
  rcases member with ⟨token, isNumber, rfl⟩
  exact Numeral.read_plainText_ofNat (finite tokens lexes token isNumber)

/--
Two programs that are accepted in list mode, and whose numbers are all finite, have the
same Lisp text exactly if their expressions are the same, once absent values are spelled
out as the symbol `nil`.
-/
theorem lisp_text_determines_spelling {first second : String} {file otherFile : Option String}
    {expression other : SExpr} (accepts : parse .list first file = .ok (.list expression))
    (acceptsOther : parse .list second otherFile = .ok (.list other))
    (finite : NumbersBelow overflow first file)
    (otherFinite : NumbersBelow overflow second otherFile) :
    expression.lisp = other.lisp ↔ expression.spelledOut = other.spelledOut := by
  constructor
  · intro same
    refine SExpr.eq_of_lisp (clear_of_parse accepts finite)
      (clear_of_parse acceptsOther otherFinite) ?_
    rw [SExpr.lisp_spelledOut, SExpr.lisp_spelledOut, same]
  · intro same
    rw [← SExpr.lisp_spelledOut, same, SExpr.lisp_spelledOut]

/-- An absent value and a name `nil`, next to large numbers and a string that looks like a list. -/
theorem absent_value_spelled_like_name :
    ∃ expression other,
      parse .list "nil - 18446744073709551616 - 'b \"(c';" none = .ok (.list expression) ∧
        parse .list "null-18446744073709551617-'b \"(c';" none = .ok (.list other) ∧
          NumbersBelow overflow "nil - 18446744073709551616 - 'b \"(c';" none ∧
            NumbersBelow overflow "null-18446744073709551617-'b \"(c';" none ∧
              (expression.lisp = other.lisp ↔ expression.spelledOut = other.spelledOut) ∧
                expression.lisp =
                  "(begin ((- (- nil 18446744073709552000) \"b \\\"(c\")))" := by
  have answer : (Parser.parse "nil - 18446744073709551616 - 'b \"(c';" none :
      Except Diagnostic SExpr) =
        .ok (.begin [.form "-"
          [.form "-" [.symbol "nil", .number (.real Numeral.leastReal)], .string "b \"(c"]]) := by
    decide +kernel
  have otherAnswer : (Parser.parse "null-18446744073709551617-'b \"(c';" none :
      Except Diagnostic SExpr) =
        .ok (.begin [.form "-"
          [.form "-" [.nil, .number (.real Numeral.leastReal)], .string "b \"(c"]]) := by
    decide +kernel
  have accepts := congrArg (Except.map Output.list) answer
  have acceptsOther := congrArg (Except.map Output.list) otherAnswer
  have finite : NumbersBelow overflow "nil - 18446744073709551616 - 'b \"(c';" none :=
    numbersBelow_of_all (by decide +kernel)
  have otherFinite : NumbersBelow overflow "null-18446744073709551617-'b \"(c';" none :=
    numbersBelow_of_all (by decide +kernel)
  exact ⟨_, _, accepts, acceptsOther, finite, otherFinite,
    lisp_text_determines_spelling accepts acceptsOther finite otherFinite, by decide +kernel⟩

/-- The text alone does not tell `nil` from `null`, nor `inf` from a literal of 310 digits. -/
theorem names_written_like_literals :
    (∃ expression other, parse .list "nil;" none = .ok (.list expression) ∧
      parse .list "null;" none = .ok (.list other) ∧
        expression.lisp = other.lisp ∧ expression ≠ other) ∧
      ∃ expression other, parse .list "inf;" none = .ok (.list expression) ∧
        parse .list (String.ofList (hugeDigits ++ [' ', ';'])) none = .ok (.list other) ∧
          expression.lisp = other.lisp ∧ expression ≠ other := by
  have ofNil : (Parser.parse "nil;" none : Except Diagnostic Tree) =
      .ok (.program [.expression (.identifier "nil")]) := by
    decide +kernel
  have ofNull : (Parser.parse "null;" none : Except Diagnostic Tree) =
      .ok (.program [.expression .null]) := by
    decide +kernel
  have ofInf : (Parser.parse "inf;" none : Except Diagnostic Tree) =
      .ok (.program [.expression (.identifier "inf")]) := by
    decide +kernel
  constructor
  · refine ⟨_, _, parse_eq_outputOf ofNil .list, parse_eq_outputOf ofNull .list, rfl, ?_⟩
    simp [Tree.listForm, Tree.listForms]
  · refine ⟨_, _, parse_eq_outputOf ofInf .list, parse_eq_outputOf parse_hugeDigits .list, ?_, ?_⟩
    · decide +kernel
    · simp [Tree.listForm, Tree.listForms]

end Script
