import Script.Token.Kind
import Script.Tree.Basic

/-!
# Shapes of trees

Which trees the grammar can build: expressions stand where expressions belong and
statements where statements belong, operators belong to their nodes, names are
names, and an `else` belongs to the nearest `if` that has none.
-/

namespace Script.Tree

/-! ## Texts in trees -/

/-- Whether a character may start a name. -/
def startsName (character : Char) : Bool :=
  character.isAlpha || character = '_'

/-- Whether a character may continue a name. -/
def continuesName (character : Char) : Bool :=
  character.isAlphanum || character = '_'

/-- Whether a text is a name and not a reserved word. -/
def isName (text : String) : Bool :=
  match text.toList with
  | [] => false
  | first :: others =>
      startsName first && others.all continuesName && (Kind.ofReserved? text).isNone

/-- Whether a text can stand between quotes of one sort. -/
def isQuotable (text : String) : Bool :=
  !(text.toList.contains '"' && text.toList.contains '\x27')

/-- The operators of assignments. -/
def assignmentOperators : List String :=
  ["=", "+=", "-=", "*=", "/="]

/-- The operators of logical nodes. -/
def logicalOperators : List String :=
  ["&&", "||"]

/-- The operators of binary nodes. -/
def binaryOperators : List String :=
  ["==", "!=", "<", ">", "<=", ">=", "+", "-", "*", "/"]

/-- The operators of unary nodes. -/
def unaryOperators : List String :=
  ["+", "-", "!"]

/-! ## Slots -/

/-- Whether a node is a name. -/
def isIdentifier : Tree → Bool
  | .identifier name => isName name
  | _ => false

/-- Whether a node is a block. -/
def isBlock : Tree → Bool
  | .block _ => true
  | _ => false

/-- Whether a node is an expression whose parts all fit. -/
def isExpression : Tree → Bool
  | .assignment operator left right =>
      assignmentOperators.contains operator && left.isAssignable && isExpression left
        && isExpression right
  | .logical operator left right =>
      logicalOperators.contains operator && isExpression left && isExpression right
  | .binary operator left right =>
      binaryOperators.contains operator && isExpression left && isExpression right
  | .unary operator argument => unaryOperators.contains operator && isExpression argument
  | .member true object property => isExpression object && isExpression property
  | .member false object property => isExpression object && property.isIdentifier
  | .identifier name => isName name
  | .number _ => true
  | .string value => isQuotable value
  | .boolean _ => true
  | .null => true
  | _ => false

/-- Whether a part is absent or an expression. -/
def isOptionalExpression : Option Tree → Bool
  | none => true
  | some node => node.isExpression

/-- Whether a node declares one variable. -/
def isDeclaration : Tree → Bool
  | .declaration id init => id.isIdentifier && isOptionalExpression init
  | _ => false

/-- Whether nodes are one or more declarations. -/
def areDeclarations (items : List Tree) : Bool :=
  !items.isEmpty && items.all isDeclaration

/-- Whether a loop may start with a part. -/
def isLoopStart : Option Tree → Bool
  | some (.declarations items) => areDeclarations items
  | part => isOptionalExpression part

mutual

/-- Whether a node is a statement whose parts all fit. -/
def isStatement : Tree → Bool
  | .block body => areStatements body
  | .empty => true
  | .expression inner => inner.isExpression
  | .declarations items => areDeclarations items
  | .conditional test consequent alternate =>
      test.isExpression && isStatement consequent && isOptionalStatement alternate
  | .whileLoop test body => test.isExpression && isStatement body
  | .doWhileLoop body test => isStatement body && test.isExpression
  | .forLoop init test update body =>
      isLoopStart init && isOptionalExpression test && isOptionalExpression update
        && isStatement body
  | .function name params body =>
      name.isIdentifier && params.all isIdentifier && body.isBlock && isStatement body
  | .returning argument => isOptionalExpression argument
  | _ => false

/-- Whether all nodes are statements. -/
def areStatements : List Tree → Bool
  | [] => true
  | node :: others => isStatement node && areStatements others

/-- Whether a part is absent or a statement. -/
def isOptionalStatement : Option Tree → Bool
  | none => true
  | some node => isStatement node

end

/-- Whether a node is a program whose parts all fit. -/
def isProgram : Tree → Bool
  | .program body => areStatements body
  | _ => false

/-! ## Conditionals -/

mutual

/-- Whether a statement ends in an `if` to which an `else` could be added. -/
def endsOpen : Tree → Bool
  | .conditional _ _ alternate => endsOpenOr true alternate
  | .whileLoop _ body => endsOpen body
  | .forLoop _ _ _ body => endsOpen body
  | _ => false

/-- Whether an alternative ends in an open `if`, or what holds where it is absent. -/
def endsOpenOr (absent : Bool) : Option Tree → Bool
  | none => absent
  | some node => endsOpen node

end

mutual

/-- Whether every `else` in a statement belongs to the nearest open `if`. -/
def bindsNearest : Tree → Bool
  | .program body => bindNearest body
  | .block body => bindNearest body
  | .conditional _ consequent alternate =>
      (alternate.isNone || !consequent.endsOpen) && bindsNearest consequent
        && bindsNearestOption alternate
  | .whileLoop _ body => bindsNearest body
  | .doWhileLoop body _ => bindsNearest body
  | .forLoop _ _ _ body => bindsNearest body
  | .function _ _ body => bindsNearest body
  | _ => true

/-- Whether every `else` in several statements belongs to the nearest open `if`. -/
def bindNearest : List Tree → Bool
  | [] => true
  | node :: others => bindsNearest node && bindNearest others

/-- Whether every `else` in an alternative belongs to the nearest open `if`. -/
def bindsNearestOption : Option Tree → Bool
  | none => true
  | some node => bindsNearest node

end

end Script.Tree
