/-!
# Kinds of tokens

The thirty-two kinds of tokens, their names in the token stream, and the
reserved words.
-/

namespace Script

/-- What a token is to the grammar. -/
inductive Kind where
  | number
  | string
  | identifier
  | semicolon
  | openCurly
  | closeCurly
  | openParen
  | closeParen
  | comma
  | dot
  | openBracket
  | closeBracket
  | letWord
  | ifWord
  | elseWord
  | trueWord
  | falseWord
  | nullWord
  | whileWord
  | doWord
  | forWord
  | returnWord
  | defWord
  | equalityOperator
  | simpleAssign
  | complexAssign
  | additiveOperator
  | multiplicativeOperator
  | relationalOperator
  | logicalAnd
  | logicalOr
  | logicalNot
  deriving DecidableEq, Repr, Inhabited

namespace Kind

/-- Every kind, literals and names first, operators last. -/
def all : List Kind :=
  [ .number, .string, .identifier, .semicolon, .openCurly, .closeCurly, .openParen,
    .closeParen, .comma, .dot, .openBracket, .closeBracket, .letWord, .ifWord, .elseWord,
    .trueWord, .falseWord, .nullWord, .whileWord, .doWord, .forWord, .returnWord, .defWord,
    .equalityOperator, .simpleAssign, .complexAssign, .additiveOperator,
    .multiplicativeOperator, .relationalOperator, .logicalAnd, .logicalOr, .logicalNot ]

/-- The name of a kind: the text itself where the kind has only one text. -/
def name : Kind → String
  | .number => "NUMBER"
  | .string => "STRING"
  | .identifier => "IDENTIFIER"
  | .semicolon => ";"
  | .openCurly => "\x7b"
  | .closeCurly => "\x7d"
  | .openParen => "("
  | .closeParen => ")"
  | .comma => ","
  | .dot => "."
  | .openBracket => "["
  | .closeBracket => "]"
  | .letWord => "let"
  | .ifWord => "if"
  | .elseWord => "else"
  | .trueWord => "true"
  | .falseWord => "false"
  | .nullWord => "null"
  | .whileWord => "while"
  | .doWord => "do"
  | .forWord => "for"
  | .returnWord => "return"
  | .defWord => "def"
  | .equalityOperator => "EQUALITY_OPERATOR"
  | .simpleAssign => "SIMPLE_ASSIGN"
  | .complexAssign => "COMPLEX_ASSIGN"
  | .additiveOperator => "ADDITIVE_OPERATOR"
  | .multiplicativeOperator => "MULTIPLICATIVE_OPERATOR"
  | .relationalOperator => "RELATIONAL_OPERATOR"
  | .logicalAnd => "LOGICAL_AND"
  | .logicalOr => "LOGICAL_OR"
  | .logicalNot => "LOGICAL_NOT"

/-- The kind of a given name. -/
def ofName? (name : String) : Option Kind :=
  all.find? fun kind => kind.name = name

/-- The kinds that the reserved words have. -/
def reserved : List Kind :=
  [ .letWord, .ifWord, .elseWord, .trueWord, .falseWord, .nullWord, .whileWord, .doWord,
    .forWord, .returnWord, .defWord ]

/-- The kind of a reserved word. -/
def ofReserved? (word : String) : Option Kind :=
  reserved.find? fun kind => kind.name = word

/-- Whether a token of this kind is a whole literal. -/
def isLiteral : Kind → Bool
  | .number | .string | .trueWord | .falseWord | .nullWord => true
  | _ => false

/-- Whether a token of this kind assigns to what stands left of it. -/
def isAssignment : Kind → Bool
  | .simpleAssign | .complexAssign => true
  | _ => false

/-- Whether a token of this kind may stand before an operand. -/
def isUnary : Kind → Bool
  | .additiveOperator | .logicalNot => true
  | _ => false

/-- Every kind is listed. -/
theorem mem_all (kind : Kind) : kind ∈ all := by
  cases kind <;> decide

/-- Names tell kinds apart. -/
theorem name_injective {first second : Kind} (same : first.name = second.name) :
    first = second := by
  revert same
  cases first <;> cases second <;> decide

end Kind

end Script
