import Script.Builder

/-!
# Syntax trees

The tagged form of a program.  Any node may stand in any slot; the grammar puts
only fitting ones there.
-/

namespace Script

/-- A node of a syntax tree. -/
inductive Tree where
  | program (body : List Tree)
  | block (body : List Tree)
  | empty
  | expression (expression : Tree)
  | declarations (items : List Tree)
  | declaration (id : Tree) (init : Option Tree)
  | conditional (test consequent : Tree) (alternate : Option Tree)
  | whileLoop (test body : Tree)
  | doWhileLoop (body test : Tree)
  | forLoop (init test update : Option Tree) (body : Tree)
  | function (name : Tree) (params : List Tree) (body : Tree)
  | returning (argument : Option Tree)
  | assignment (operator : String) (left right : Tree)
  | logical (operator : String) (left right : Tree)
  | binary (operator : String) (left right : Tree)
  | unary (operator : String) (argument : Tree)
  | member (computed : Bool) (object property : Tree)
  | identifier (name : String)
  | number (value : Numeral)
  | string (value : String)
  | boolean (value : Bool)
  | null
  deriving Repr, Inhabited

namespace Tree

/-- The name of a node's type. -/
def typeName : Tree → String
  | .program _ => "Program"
  | .block _ => "BlockStatement"
  | .empty => "EmptyStatement"
  | .expression _ => "ExpressionStatement"
  | .declarations _ => "VariableStatement"
  | .declaration _ _ => "VariableDeclaration"
  | .conditional _ _ _ => "IfStatement"
  | .whileLoop _ _ => "WhileStatement"
  | .doWhileLoop _ _ => "DoWhileStatement"
  | .forLoop _ _ _ _ => "ForStatement"
  | .function _ _ _ => "FunctionDeclaration"
  | .returning _ => "ReturnStatement"
  | .assignment _ _ _ => "AssignmentExpression"
  | .logical _ _ _ => "LogicalExpression"
  | .binary _ _ _ => "BinaryExpression"
  | .unary _ _ => "UnaryExpression"
  | .member _ _ _ => "MemberExpression"
  | .identifier _ => "Identifier"
  | .number _ => "NumericLiteral"
  | .string _ => "StringLiteral"
  | .boolean _ => "BooleanLiteral"
  | .null => "NullLiteral"

/-- Only names and members may be assigned to. -/
def isAssignable : Tree → Bool
  | .identifier _ => true
  | .member _ _ _ => true
  | _ => false

/-- The statements of a program or a block. -/
def body? : Tree → Option (List Tree)
  | .program body => some body
  | .block body => some body
  | _ => none

instance : Builder Tree where
  program := .program
  block := .block
  empty := .empty
  expression := .expression
  declarations := .declarations
  declaration := .declaration
  conditional := .conditional
  whileLoop := .whileLoop
  doWhileLoop := .doWhileLoop
  forLoop := .forLoop
  function := .function
  returning := .returning
  assignment := .assignment
  logical := .logical
  binary := .binary
  unary := .unary
  member := .member
  identifier := .identifier
  number := .number
  string := .string
  boolean := .boolean
  null := .null
  isAssignable := isAssignable
  describe := typeName

end Tree

end Script
