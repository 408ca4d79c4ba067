import Script.Token.Basic
import Script.Tree.Basic

/-!
# Printing trees

A tree is printed as the lexemes it could have been read from, with one space
between them.  An expression is put in parentheses exactly where it binds more
loosely than its place asks for.
-/

namespace Script.Tree

/-! ## How tightly expressions bind -/

/-- How tightly a binary operator binds its operands. -/
def operatorTightness (operator : String) : Nat :=
  if operator = "||" then 1
  else if operator = "&&" then 2
  else if operator = "==" ∨ operator = "!=" then 3
  else if operator = "<" ∨ operator = ">" ∨ operator = "<=" ∨ operator = ">=" then 4
  else if operator = "+" ∨ operator = "-" then 5
  else 6

/-- How tightly a unary operator binds its operand. -/
def unaryTightness : Nat :=
  7

/-- How tightly a member access binds its object. -/
def memberTightness : Nat :=
  8

/-- How tightly a node holds together. -/
def tightness : Tree → Nat
  | .assignment _ _ _ => 0
  | .logical operator _ _ => operatorTightness operator
  | .binary operator _ _ => operatorTightness operator
  | .unary _ _ => unaryTightness
  | _ => memberTightness

/-! ## Lexemes -/

/-- The lexeme of a kind that has only one text. -/
def fixedLexeme (kind : Kind) : Lexeme :=
  ⟨kind, kind.name⟩

/-- The kind of an assignment operator. -/
def assignmentKind (operator : String) : Kind :=
  if operator = "=" then .simpleAssign else .complexAssign

/-- The kind of a binary operator. -/
def binaryKind (operator : String) : Kind :=
  match operatorTightness operator with
  | 1 => .logicalOr
  | 2 => .logicalAnd
  | 3 => .equalityOperator
  | 4 => .relationalOperator
  | 5 => .additiveOperator
  | _ => .multiplicativeOperator

/-- The kind of a unary operator. -/
def unaryKind (operator : String) : Kind :=
  if operator = "!" then .logicalNot else .additiveOperator

/-- A string in double quotes, or in single ones where it holds a double quote. -/
def quotedText (value : String) : String :=
  let mark := if value.toList.contains '"' then '\x27' else '"'
  String.ofList ([mark] ++ value.toList ++ [mark])

/-- Lexemes in parentheses, where these are needed. -/
def parenthesised (needed : Bool) (inner : List Lexeme) : List Lexeme :=
  if needed then
    [fixedLexeme .openParen] ++ inner ++ [fixedLexeme .closeParen]
  else
    inner

/-- The lexemes of a statement: those of its node, and the semicolon that declarations lack. -/
def ended (node : Tree) (inner : List Lexeme) : List Lexeme :=
  match node with
  | .declarations _ => inner ++ [fixedLexeme .semicolon]
  | _ => inner

mutual

/-- The lexemes of a node; declarations are printed without a semicolon. -/
def lexemes : Tree → List Lexeme
  | .program body => statementsLexemes body
  | .block body =>
      [fixedLexeme .openCurly] ++ statementsLexemes body ++ [fixedLexeme .closeCurly]
  | .empty => [fixedLexeme .semicolon]
  | .expression inner => lexemes inner ++ [fixedLexeme .semicolon]
  | .declarations items => [fixedLexeme .letWord] ++ separatedLexemes items
  | .declaration id init =>
      match init with
      | none => lexemes id
      | some value => lexemes id ++ [⟨.simpleAssign, "="⟩] ++ lexemes value
  | .conditional test consequent alternate =>
      [fixedLexeme .ifWord, fixedLexeme .openParen] ++ lexemes test
        ++ [fixedLexeme .closeParen] ++ ended consequent (lexemes consequent)
        ++ alternateLexemes alternate
  | .whileLoop test body =>
      [fixedLexeme .whileWord, fixedLexeme .openParen] ++ lexemes test
        ++ [fixedLexeme .closeParen] ++ ended body (lexemes body)
  | .doWhileLoop body test =>
      [fixedLexeme .doWord] ++ ended body (lexemes body)
        ++ [fixedLexeme .whileWord, fixedLexeme .openParen] ++ lexemes test
        ++ [fixedLexeme .closeParen, fixedLexeme .semicolon]
  | .forLoop init test update body =>
      [fixedLexeme .forWord, fixedLexeme .openParen] ++ optionLexemes init
        ++ [fixedLexeme .semicolon] ++ optionLexemes test
        ++ [fixedLexeme .semicolon] ++ optionLexemes update
        ++ [fixedLexeme .closeParen] ++ ended body (lexemes body)
  | .function name params body =>
      [fixedLexeme .defWord] ++ lexemes name ++ [fixedLexeme .openParen]
        ++ separatedLexemes params ++ [fixedLexeme .closeParen] ++ lexemes body
  | .returning argument =>
      [fixedLexeme .returnWord] ++ optionLexemes argument ++ [fixedLexeme .semicolon]
  | .assignment operator left right =>
      parenthesised (left.tightness < 1) (lexemes left)
        ++ [⟨assignmentKind operator, operator⟩] ++ lexemes right
  | .logical operator left right =>
      parenthesised (left.tightness < operatorTightness operator) (lexemes left)
        ++ [⟨binaryKind operator, operator⟩]
        ++ parenthesised (right.tightness < operatorTightness operator + 1) (lexemes right)
  | .binary operator left right =>
      parenthesised (left.tightness < operatorTightness operator) (lexemes left)
        ++ [⟨binaryKind operator, operator⟩]
        ++ parenthesised (right.tightness < operatorTightness operator + 1) (lexemes right)
  | .unary operator argument =>
      [⟨unaryKind operator, operator⟩]
        ++ parenthesised (argument.tightness < unaryTightness) (lexemes argument)
  | .member computed object property =>
      parenthesised (object.tightness < memberTightness) (lexemes object)
        ++ (if computed then
              [fixedLexeme .openBracket] ++ lexemes property ++ [fixedLexeme .closeBracket]
            else
              [fixedLexeme .dot] ++ lexemes property)
  | .identifier name => [⟨.identifier, name⟩]
  | .number value => [⟨.number, value.plainText⟩]
  | .string value => [⟨.string, quotedText value⟩]
  | .boolean value => [fixedLexeme (if value then .trueWord else .falseWord)]
  | .null => [fixedLexeme .nullWord]

/-- The lexemes of several statements. -/
def statementsLexemes : List Tree → List Lexeme
  | [] => []
  | node :: others => ended node (lexemes node) ++ statementsLexemes others

/-- The lexemes of several nodes with commas between them. -/
def separatedLexemes : List Tree → List Lexeme
  | [] => []
  | [last] => lexemes last
  | node :: next :: others =>
      lexemes node ++ [fixedLexeme .comma] ++ separatedLexemes (next :: others)

/-- The lexemes of a part that may be absent. -/
def optionLexemes : Option Tree → List Lexeme
  | none => []
  | some node => lexemes node

/-- The lexemes of an alternative, after `else`. -/
def alternateLexemes : Option Tree → List Lexeme
  | none => []
  | some node => [fixedLexeme .elseWord] ++ ended node (lexemes node)

end

/-- Lexemes with one space between them. -/
def spaced : List Lexeme → List Char
  | [] => []
  | [last] => last.text.toList
  | lexeme :: next :: others => lexeme.text.toList ++ ' ' :: spaced (next :: others)

/-- The text of a tree. -/
def print (tree : Tree) : String :=
  String.ofList (spaced tree.lexemes)

end Script.Tree
