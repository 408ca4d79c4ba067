import Script.Level
import Script.Token.Basic
import Script.Tree.Shape

/-!
# The grammar

Which lexemes spell which trees, one rule a constructor.  A category derives a
list of trees: one tree for an expression or a statement, none or one for a part
that may be absent, and any number for a list.

Binary operators are left-recursive, so that they fold from the left; assignments
are right-recursive, and what stands left of the operator is assignable.  An `if`
with an `else` has a consequent that ends in no open `if`, so that an `else`
belongs to the nearest one.
-/

namespace Script.Grammar

/-- What a run of lexemes can be to the grammar. -/
inductive Category where
  | program
  | statements
  | statement
  | block
  | declarations
  | declaration
  | parameters
  | names
  | loopStart
  | optionalExpression
  | expression
  | binary (level : Level)
  | unary
  | member
  | primary
  deriving DecidableEq, Repr

/-- What the operators of a level stand between. -/
def operand (level : Level) : Category :=
  match level.tighter? with
  | some tighter => .binary tighter
  | none => .unary

/-- The tree of a binary operator and its operands. -/
def binaryTree (level : Level) (operator : String) (left right : Tree) : Tree :=
  if level.isLogical then .logical operator left right else .binary operator left right

/-- The tree of a literal. -/
inductive Literal : Lexeme → Tree → Prop where
  | number {text : String} {value : Numeral} (reads : Numeral.read text = .ok value) :
      Literal ⟨.number, text⟩ (.number value)
  | string (text : String) :
      Literal ⟨.string, text⟩ (.string (unquoted text))
  | isTrue (text : String) :
      Literal ⟨.trueWord, text⟩ (.boolean true)
  | isFalse (text : String) :
      Literal ⟨.falseWord, text⟩ (.boolean false)
  | null (text : String) :
      Literal ⟨.nullWord, text⟩ .null

/-- The lexemes that a category derives, and the trees that they spell. -/
inductive Derives : Category → List Lexeme → List Tree → Prop where

  -- Primary expressions and members
  | literal {lexeme : Lexeme} {tree : Tree} (literal : Literal lexeme tree) :
      Derives .primary [lexeme] [tree]
  | name (text : String) :
      Derives .primary [⟨.identifier, text⟩] [.identifier text]
  | grouping {opening closing : Lexeme} {inner : List Lexeme} {tree : Tree}
      (opens : opening.kind = .openParen)
      (inside : Derives .expression inner [tree])
      (closes : closing.kind = .closeParen) :
      Derives .primary (opening :: inner ++ [closing]) [tree]
  | memberPrimary {lexemes : List Lexeme} {tree : Tree}
      (primary : Derives .primary lexemes [tree]) :
      Derives .member lexemes [tree]
  | memberName {dot : Lexeme} {object : List Lexeme} {tree : Tree} {text : String}
      (ofObject : Derives .member object [tree])
      (dots : dot.kind = .dot) :
      Derives .member (object ++ [dot, ⟨.identifier, text⟩])
        [.member false tree (.identifier text)]
  | memberIndex {opening closing : Lexeme} {object index : List Lexeme}
      {tree property : Tree}
      (ofObject : Derives .member object [tree])
      (opens : opening.kind = .openBracket)
      (ofIndex : Derives .expression index [property])
      (closes : closing.kind = .closeBracket) :
      Derives .member (object ++ opening :: index ++ [closing]) [.member true tree property]

  -- Operators
  | unaryMember {lexemes : List Lexeme} {tree : Tree}
      (member : Derives .member lexemes [tree]) :
      Derives .unary lexemes [tree]
  | unaryOperator {operator : Lexeme} {argument : List Lexeme} {tree : Tree}
      (operates : operator.kind.isUnary = true)
      (ofArgument : Derives .unary argument [tree]) :
      Derives .unary (operator :: argument) [.unary operator.text tree]
  | binaryOperand {level : Level} {lexemes : List Lexeme} {tree : Tree}
      (ofOperand : Derives (operand level) lexemes [tree]) :
      Derives (.binary level) lexemes [tree]
  | binaryOperator {level : Level} {operator : Lexeme} {left right : List Lexeme}
      {leftTree rightTree : Tree}
      (ofLeft : Derives (.binary level) left [leftTree])
      (operates : operator.kind = level.operator)
      (ofRight : Derives (operand level) right [rightTree]) :
      Derives (.binary level) (left ++ operator :: right)
        [binaryTree level operator.text leftTree rightTree]
  | expressionOperand {lexemes : List Lexeme} {tree : Tree}
      (ofOperand : Derives (.binary .logicalOr) lexemes [tree]) :
      Derives .expression lexemes [tree]
  | assignment {operator : Lexeme} {left right : List Lexeme} {leftTree rightTree : Tree}
      (ofLeft : Derives (.binary .logicalOr) left [leftTree])
      (assignable : leftTree.isAssignable = true)
      (operates : operator.kind.isAssignment = true)
      (ofRight : Derives .expression right [rightTree]) :
      Derives .expression (left ++ operator :: right)
        [.assignment operator.text leftTree rightTree]

  -- Parts of statements
  | noExpression :
      Derives .optionalExpression [] []
  | someExpression {lexemes : List Lexeme} {tree : Tree}
      (ofExpression : Derives .expression lexemes [tree]) :
      Derives .optionalExpression lexemes [tree]
  | bareDeclaration (text : String) :
      Derives .declaration [⟨.identifier, text⟩] [.declaration (.identifier text) none]
  | fullDeclaration {assign : Lexeme} {value : List Lexeme} {text : String} {tree : Tree}
      (assigns : assign.kind = .simpleAssign)
      (ofValue : Derives .expression value [tree]) :
      Derives .declaration (⟨.identifier, text⟩ :: assign :: value)
        [.declaration (.identifier text) (some tree)]
  | oneDeclaration {lexemes : List Lexeme} {tree : Tree}
      (ofDeclaration : Derives .declaration lexemes [tree]) :
      Derives .declarations lexemes [tree]
  | moreDeclarations {comma : Lexeme} {first others : List Lexeme} {tree : Tree}
      {trees : List Tree}
      (ofFirst : Derives .declaration first [tree])
      (separates : comma.kind = .comma)
      (ofOthers : Derives .declarations others trees) :
      Derives .declarations (first ++ comma :: others) (tree :: trees)
  | startExpression {lexemes : List Lexeme} {trees : List Tree}
      (ofExpression : Derives .optionalExpression lexemes trees) :
      Derives .loopStart lexemes trees
  | startDeclarations {letWord : Lexeme} {items : List Lexeme} {trees : List Tree}
      (declares : letWord.kind = .letWord)
      (ofItems : Derives .declarations items trees) :
      Derives .loopStart (letWord :: items) [.declarations trees]
  | oneName (text : String) :
      Derives .names [⟨.identifier, text⟩] [.identifier text]
  | moreNames {comma : Lexeme} {text : String} {others : List Lexeme} {trees : List Tree}
      (separates : comma.kind = .comma)
      (ofOthers : Derives .names others trees) :
      Derives .names (⟨.identifier, text⟩ :: comma :: others) (.identifier text :: trees)
  | noParameters :
      Derives .parameters [] []
  | someParameters {lexemes : List Lexeme} {trees : List Tree}
      (ofNames : Derives .names lexemes trees) :
      Derives .parameters lexemes trees

  -- Statements
  | emptyStatement {semicolon : Lexeme} (ends : semicolon.kind = .semicolon) :
      Derives .statement [semicolon] [.empty]
  | expressionStatement {semicolon : Lexeme} {lexemes : List Lexeme} {tree : Tree}
      (ofExpression : Derives .expression lexemes [tree])
      (ends : semicolon.kind = .semicolon) :
      Derives .statement (lexemes ++ [semicolon]) [.expression tree]
  | declarationStatement {letWord semicolon : Lexeme} {items : List Lexeme}
      {trees : List Tree}
      (declares : letWord.kind = .letWord)
      (ofItems : Derives .declarations items trees)
      (ends : semicolon.kind = .semicolon) :
      Derives .statement (letWord :: items ++ [semicolon]) [.declarations trees]
  | block {opening closing : Lexeme} {body : List Lexeme} {trees : List Tree}
      (opens : opening.kind = .openCurly)
      (ofBody : Derives .statements body trees)
      (closes : closing.kind = .closeCurly) :
      Derives .block (opening :: body ++ [closing]) [.block trees]
  | blockStatement {lexemes : List Lexeme} {tree : Tree}
      (ofBlock : Derives .block lexemes [tree]) :
      Derives .statement lexemes [tree]
  | conditional {ifWord opening closing : Lexeme} {test consequent : List Lexeme}
      {testTree consequentTree : Tree}
      (asks : ifWord.kind = .ifWord)
      (opens : opening.kind = .openParen)
      (ofTest : Derives .expression test [testTree])
      (closes : closing.kind = .closeParen)
      (ofConsequent : Derives .statement consequent [consequentTree]) :
      Derives .statement (ifWord :: opening :: test ++ closing :: consequent)
        [.conditional testTree consequentTree none]
  | conditionalElse {ifWord opening closing elseWord : Lexeme}
      {test consequent alternate : List Lexeme}
      {testTree consequentTree alternateTree : Tree}
      (asks : ifWord.kind = .ifWord)
      (opens : opening.kind = .openParen)
      (ofTest : Derives .expression test [testTree])
      (closes : closing.kind = .closeParen)
      (ofConsequent : Derives .statement consequent [consequentTree])
      (closed : consequentTree.endsOpen = false)
      (otherwise : elseWord.kind = .elseWord)
      (ofAlternate : Derives .statement alternate [alternateTree]) :
      Derives .statement
        (ifWord :: opening :: test ++ closing :: consequent ++ elseWord :: alternate)
        [.conditional testTree consequentTree (some alternateTree)]
  | whileLoop {whileWord opening closing : Lexeme} {test body : List Lexeme}
      {testTree bodyTree : Tree}
      (repeats : whileWord.kind = .whileWord)
      (opens : opening.kind = .openParen)
      (ofTest : Derives .expression test [testTree])
      (closes : closing.kind = .closeParen)
      (ofBody : Derives .statement body [bodyTree]) :
      Derives .statement (whileWord :: opening :: test ++ closing :: body)
        [.whileLoop testTree bodyTree]
  | doWhileLoop {doWord whileWord opening closing semicolon : Lexeme}
      {body test : List Lexeme} {bodyTree testTree : Tree}
      (starts : doWord.kind = .doWord)
      (ofBody : Derives .statement body [bodyTree])
      (repeats : whileWord.kind = .whileWord)
      (opens : opening.kind = .openParen)
      (ofTest : Derives .expression test [testTree])
      (closes : closing.kind = .closeParen)
      (ends : semicolon.kind = .semicolon) :
      Derives .statement
        (doWord :: body ++ whileWord :: opening :: test ++ [closing, semicolon])
        [.doWhileLoop bodyTree testTree]
  | forLoop {forWord opening firstEnd secondEnd closing : Lexeme}
      {init test update body : List Lexeme}
      {initTrees testTrees updateTrees : List Tree} {bodyTree : Tree}
      (repeats : forWord.kind = .forWord)
      (opens : opening.kind = .openParen)
      (ofInit : Derives .loopStart init initTrees)
      (endsInit : firstEnd.kind = .semicolon)
      (ofTest : Derives .optionalExpression test testTrees)
      (endsTest : secondEnd.kind = .semicolon)
      (ofUpdate : Derives .optionalExpression update updateTrees)
      (closes : closing.kind = .closeParen)
      (ofBody : Derives .statement body [bodyTree]) :
      Derives .statement
        (forWord :: opening :: init ++ firstEnd :: test ++ secondEnd :: update
          ++ closing :: body)
        [.forLoop initTrees.head? testTrees.head? updateTrees.head? bodyTree]
  | function {defWord opening closing : Lexeme} {text : String}
      {params body : List Lexeme} {paramTrees : List Tree} {bodyTree : Tree}
      (defines : defWord.kind = .defWord)
      (opens : opening.kind = .openParen)
      (ofParams : Derives .parameters params paramTrees)
      (closes : closing.kind = .closeParen)
      (ofBody : Derives .block body [bodyTree]) :
      Derives .statement
        (defWord :: ⟨.identifier, text⟩ :: opening :: params ++ closing :: body)
        [.function (.identifier text) paramTrees bodyTree]
  | returning {returnWord semicolon : Lexeme} {argument : List Lexeme}
      {trees : List Tree}
      (returns : returnWord.kind = .returnWord)
      (ofArgument : Derives .optionalExpression argument trees)
      (ends : semicolon.kind = .semicolon) :
      Derives .statement (returnWord :: argument ++ [semicolon]) [.returning trees.head?]

  -- Lists of statements
  | noStatements :
      Derives .statements [] []
  | moreStatements {first others : List Lexeme} {tree : Tree} {trees : List Tree}
      (ofFirst : Derives .statement first [tree])
      (ofOthers : Derives .statements others trees) :
      Derives .statements (first ++ others) (tree :: trees)
  | program {lexemes : List Lexeme} {trees : List Tree}
      (ofStatements : Derives .statements lexemes trees) :
      Derives .program lexemes [.program trees]

end Script.Grammar
