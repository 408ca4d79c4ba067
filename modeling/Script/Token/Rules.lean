import Script.Token.Pattern

/-!
# Lexical rules

The rules are tried in order on the text that is left, and the first one that
matches is taken.  Compound operators stand before their first characters,
numbers before names, and reserved words before both.
-/

namespace Script

/-- What becomes of the text that a rule takes. -/
inductive Action where
  /-- The text means nothing to the grammar. -/
  | skip
  /-- The text is a token of a fixed kind. -/
  | emit (kind : Kind)
  /-- The text is a reserved word and has that word's kind. -/
  | classify
  deriving DecidableEq, Repr

/-- A pattern and what becomes of the text it takes. -/
structure Rule where
  pattern : Pattern
  action : Action
  deriving DecidableEq, Repr

namespace Rule

/-- The kind of the token that a rule makes of a text, if it makes one. -/
def kind? (rule : Rule) (text : String) : Option Kind :=
  match rule.action with
  | .skip => none
  | .emit kind => some kind
  | .classify => some ((Kind.ofReserved? text).getD .identifier)

/-- All lexical rules, in the order in which they are tried. -/
def all : List Rule :=
  [ ⟨.run .whiteSpace, .skip⟩,
    ⟨.lineComment, .skip⟩,
    ⟨.blockComment, .skip⟩,
    ⟨.oneOf [';'], .emit .semicolon⟩,
    ⟨.oneOf ['\x7b'], .emit .openCurly⟩,
    ⟨.oneOf ['\x7d'], .emit .closeCurly⟩,
    ⟨.oneOf ['('], .emit .openParen⟩,
    ⟨.oneOf [')'], .emit .closeParen⟩,
    ⟨.oneOf [','], .emit .comma⟩,
    ⟨.oneOf ['.'], .emit .dot⟩,
    ⟨.oneOf ['['], .emit .openBracket⟩,
    ⟨.oneOf [']'], .emit .closeBracket⟩,
    ⟨.reservedWord, .classify⟩,
    ⟨.run .digit, .emit .number⟩,
    ⟨.run .nameCharacter, .emit .identifier⟩,
    ⟨.pair ['=', '!'] '=', .emit .equalityOperator⟩,
    ⟨.oneOf ['='], .emit .simpleAssign⟩,
    ⟨.pair ['*', '/', '+', '-'] '=', .emit .complexAssign⟩,
    ⟨.oneOf ['+', '-'], .emit .additiveOperator⟩,
    ⟨.oneOf ['*', '/'], .emit .multiplicativeOperator⟩,
    ⟨.oneOrPair ['>', '<'] '=', .emit .relationalOperator⟩,
    ⟨.pair ['&'] '&', .emit .logicalAnd⟩,
    ⟨.pair ['|'] '|', .emit .logicalOr⟩,
    ⟨.oneOf ['!'], .emit .logicalNot⟩,
    ⟨.quoted '"', .emit .string⟩,
    ⟨.quoted '\x27', .emit .string⟩ ]

/-- The first rule that matches at the head of a text, and how much it takes. -/
def first? (text : List Char) : Option (Rule × Nat) :=
  all.findSome? fun rule => (rule.pattern.extent? text).map fun length => (rule, length)

/-- The rule that is found matches. -/
theorem extent?_of_first? {text : List Char} {rule : Rule} {length : Nat}
    (found : first? text = some (rule, length)) :
    rule.pattern.extent? text = some length := by
  obtain ⟨member, _, inner⟩ := List.exists_of_findSome?_eq_some found
  obtain ⟨extent, matched, equation⟩ := Option.map_eq_some_iff.1 inner
  simp only [Prod.mk.injEq] at equation
  rw [← equation.1, ← equation.2]
  exact matched

/-- The rule that is found takes at least one character. -/
theorem pos_of_first? {text : List Char} {rule : Rule} {length : Nat}
    (found : first? text = some (rule, length)) :
    0 < length :=
  Pattern.pos_of_extent? (extent?_of_first? found)

/-- The rule that is found takes no more than there is. -/
theorem le_length_of_first? {text : List Char} {rule : Rule} {length : Nat}
    (found : first? text = some (rule, length)) :
    length ≤ text.length :=
  Pattern.le_length_of_extent? (extent?_of_first? found)

end Rule

end Script
