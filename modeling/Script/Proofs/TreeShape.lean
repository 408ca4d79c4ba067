import Script.Proofs.Acceptance
import Script.Proofs.Lexing

/-!
# The shape of a tree that is read

A node can hold any nodes.  What keeps a tree in shape is the grammar, which puts
each tree into a place made for it, together with the lexer, which gives an
operator, a name or a string only such texts as its kind has.

The result is about nodes one by one: the places that a node has for its parts are
listed, and every node inside a tree that is read suits the place where it stands.
It is proved with the checks that descend into a tree, which every derived tree
passes and which a node passes on to its parts.
-/

namespace Script

open Script.Tree

/-! ## Places -/

/-- What a node is, by its type alone. -/
inductive Role where
  | program
  | statement
  | declaration
  | expression
  deriving DecidableEq, Repr

def Tree.role : Tree → Role
  | .program _ => .program
  | .block _ | .empty | .expression _ | .declarations _ | .conditional _ _ _
  | .whileLoop _ _ | .doWhileLoop _ _ | .forLoop _ _ _ _ | .function _ _ _
  | .returning _ => .statement
  | .declaration _ _ => .declaration
  | .assignment _ _ _ | .logical _ _ _ | .binary _ _ _ | .unary _ _ | .member _ _ _
  | .identifier _ | .number _ | .string _ | .boolean _ | .null => .expression

/-- A place that a node has for a part. -/
inductive Slot where
  | statement
  | functionBody
  | loopStart
  | declaration
  | expression
  | target
  | name
  deriving DecidableEq, Repr

/-- Which nodes a place is for.  There is no place for a program. -/
def Slot.Admits (slot : Slot) (node : Tree) : Prop :=
  match slot with
  | .statement => node.role = .statement
  | .functionBody => ∃ body, node = .block body
  | .loopStart => node.role = .expression ∨ ∃ items, node = .declarations items
  | .declaration => node.role = .declaration
  | .expression => node.role = .expression
  | .target =>
      (∃ name, node = .identifier name) ∨
        ∃ computed object property, node = .member computed object property
  | .name => ∃ name, node = .identifier name

namespace Tree

/-- The parts of a node, each with the place where it stands. -/
def parts : Tree → List (Slot × Tree)
  | .program body => body.map (.statement, ·)
  | .block body => body.map (.statement, ·)
  | .empty => []
  | .expression inner => [(.expression, inner)]
  | .declarations items => items.map (.declaration, ·)
  | .declaration id init => (.name, id) :: init.toList.map (.expression, ·)
  | .conditional test consequent alternate =>
      (.expression, test) :: (.statement, consequent)
        :: alternate.toList.map (.statement, ·)
  | .whileLoop test body => [(.expression, test), (.statement, body)]
  | .doWhileLoop body test => [(.statement, body), (.expression, test)]
  | .forLoop init test update body =>
      init.toList.map (.loopStart, ·) ++ test.toList.map (.expression, ·)
        ++ update.toList.map (.expression, ·) ++ [(.statement, body)]
  | .function name params body =>
      (.name, name) :: params.map (.name, ·) ++ [(.functionBody, body)]
  | .returning argument => argument.toList.map (.expression, ·)
  | .assignment _ left right => [(.target, left), (.expression, right)]
  | .logical _ left right => [(.expression, left), (.expression, right)]
  | .binary _ left right => [(.expression, left), (.expression, right)]
  | .unary _ argument => [(.expression, argument)]
  | .member true object property => [(.expression, object), (.expression, property)]
  | .member false object property => [(.expression, object), (.name, property)]
  | .identifier _ | .number _ | .string _ | .boolean _ | .null => []

/-- What a node holds besides nodes, and how many declarations it holds, suits its type. -/
def Proper : Tree → Prop
  | .declarations items => items ≠ []
  | .assignment operator _ _ => operator ∈ assignmentOperators
  | .logical operator _ _ => operator ∈ logicalOperators
  | .binary operator _ _ => operator ∈ binaryOperators
  | .unary operator _ => operator ∈ unaryOperators
  | .identifier name => isName name = true
  | .string value => ¬('"' ∈ value.toList ∧ '\x27' ∈ value.toList)
  | _ => True

/-- A node stands in a place somewhere inside a tree. -/
inductive Inside (tree : Tree) : Slot → Tree → Prop where
  | part {slot : Slot} {node : Tree} (isPart : (slot, node) ∈ tree.parts) :
      Inside tree slot node
  | deeper {outer slot : Slot} {whole node : Tree} (inside : Inside tree outer whole)
      (isPart : (slot, node) ∈ whole.parts) :
      Inside tree slot node

end Tree

/-! ## Checks pass to parts -/

/-- The check that descends from a place. -/
def Slot.checks : Slot → Tree → Bool
  | .statement, node => node.isStatement
  | .functionBody, node => node.isBlock && node.isStatement
  | .loopStart, node => isLoopStart (some node)
  | .declaration, node => node.isDeclaration
  | .expression, node => node.isExpression
  | .target, node => node.isAssignable && node.isExpression
  | .name, node => node.isIdentifier

/-- A node of some role is proper, and its parts pass the checks of their places. -/
structure Tree.Checked (role : Role) (node : Tree) : Prop where
  role_eq : node.role = role
  proper : node.Proper
  ofParts : (node.parts.all fun part => part.1.checks part.2) = true

theorem areStatements_eq_all (body : List Tree) : areStatements body = body.all isStatement := by
  induction body with
  | nil => rfl
  | cons first others inductionHypothesis =>
      rw [areStatements, List.all_cons, inductionHypothesis]

theorem isOptionalExpression_eq_all (part : Option Tree) :
    isOptionalExpression part = part.toList.all isExpression := by
  cases part <;> simp [isOptionalExpression]

theorem isOptionalStatement_eq_all (part : Option Tree) :
    isOptionalStatement part = part.toList.all isStatement := by
  cases part <;> simp [isOptionalStatement]

theorem isLoopStart_eq_all (part : Option Tree) :
    isLoopStart part = part.toList.all fun node => isLoopStart (some node) := by
  cases part <;> simp [isLoopStart, isOptionalExpression]

theorem Tree.checked_of_isExpression {node : Tree} (fits : node.isExpression = true) :
    node.Checked .expression := by
  cases node with
  | assignment | logical | binary | unary =>
      simp only [isExpression, Bool.and_eq_true, List.contains_iff_mem] at fits
      refine ⟨rfl, ?_, ?_⟩
      · simp only [Proper, fits]
      · simp only [parts, Slot.checks, List.all_cons, List.all_nil, fits, Bool.and_true]
  | member computed object property =>
      refine ⟨rfl, trivial, ?_⟩
      cases computed <;>
        simpa only [isExpression, parts, Slot.checks, List.all_cons, List.all_nil, Bool.and_true]
          using fits
  | identifier name => exact ⟨rfl, by rwa [isExpression] at fits, rfl⟩
  | string value =>
      refine ⟨rfl, ?_, rfl⟩
      rintro ⟨double, single⟩
      simp [isExpression, isQuotable, double, single] at fits
  | number | boolean | null => exact ⟨rfl, trivial, rfl⟩
  | _ => simp only [isExpression, Bool.false_eq_true] at fits

theorem Tree.checked_of_isDeclaration {node : Tree} (fits : node.isDeclaration = true) :
    node.Checked .declaration := by
  cases node with
  | declaration id init =>
      refine ⟨rfl, trivial, ?_⟩
      simpa [isDeclaration, isOptionalExpression_eq_all, parts, Slot.checks, Function.comp_def]
        using fits
  | _ => simp only [isDeclaration, Bool.false_eq_true] at fits

theorem Tree.checked_of_isStatement {node : Tree} (fits : node.isStatement = true) :
    node.Checked .statement := by
  cases node with
  | declarations items =>
      rw [isStatement, areDeclarations, Bool.and_eq_true] at fits
      refine ⟨rfl, by simpa [Proper] using fits.1, ?_⟩
      simpa [parts, Slot.checks] using fits.2
  | forLoop init test update body =>
      refine ⟨rfl, trivial, ?_⟩
      rw [isStatement, isLoopStart_eq_all] at fits
      simpa [isOptionalExpression_eq_all, parts, Slot.checks, Function.comp_def, and_assoc]
        using fits
  | empty => exact ⟨rfl, trivial, rfl⟩
  | block | expression | conditional | whileLoop | doWhileLoop | function | returning =>
      refine ⟨rfl, trivial, ?_⟩
      simpa [isStatement, areStatements_eq_all, isOptionalExpression_eq_all,
        isOptionalStatement_eq_all, parts, Slot.checks, Function.comp_def, and_assoc] using fits
  | _ => simp only [isStatement, Bool.false_eq_true] at fits

/-- A node that passes the check of its place belongs there, and its parts pass theirs. -/
theorem Slot.checked {slot : Slot} {node : Tree} (fits : slot.checks node = true) :
    slot.Admits node ∧ ∃ role, node.Checked role := by
  cases slot with
  | statement =>
      have checked := checked_of_isStatement fits
      exact ⟨checked.role_eq, _, checked⟩
  | functionBody =>
      rcases Bool.and_eq_true_iff.1 fits with ⟨isBlock, fits⟩
      refine ⟨?_, _, checked_of_isStatement fits⟩
      cases node <;> simp [Tree.isBlock] at isBlock
      exact ⟨_, rfl⟩
  | loopStart =>
      cases node with
      | declarations items =>
          have isStatement : (Tree.declarations items).isStatement = true := by
            rw [Tree.isStatement]
            exact fits
          exact ⟨.inr ⟨items, rfl⟩, _, checked_of_isStatement isStatement⟩
      | _ =>
          have checked := checked_of_isExpression fits
          exact ⟨.inl checked.role_eq, _, checked⟩
  | declaration =>
      have checked := checked_of_isDeclaration fits
      exact ⟨checked.role_eq, _, checked⟩
  | expression =>
      have checked := checked_of_isExpression fits
      exact ⟨checked.role_eq, _, checked⟩
  | target =>
      rcases Bool.and_eq_true_iff.1 fits with ⟨isAssignable, fits⟩
      refine ⟨?_, _, checked_of_isExpression fits⟩
      cases node <;> simp [Tree.isAssignable] at isAssignable
      · exact .inr ⟨_, _, _, rfl⟩
      · exact .inl ⟨_, rfl⟩
  | name =>
      cases node <;> simp [checks, Tree.isIdentifier] at fits
      exact ⟨⟨_, rfl⟩, _, checked_of_isExpression (by rw [isExpression, fits])⟩

/-- Inside a node whose parts pass their checks, all nodes pass theirs. -/
theorem Tree.Inside.checks {tree node : Tree} {slot : Slot} (inside : tree.Inside slot node)
    (ofParts : (tree.parts.all fun part => part.1.checks part.2) = true) :
    slot.checks node = true := by
  induction inside with
  | part isPart => exact List.all_eq_true.1 ofParts _ isPart
  | deeper _ isPart inductionHypothesis =>
      rcases (Slot.checked inductionHypothesis).2 with ⟨_, checked⟩
      exact List.all_eq_true.1 checked.ofParts _ isPart

/-! ## Lexemes have the texts that nodes need -/

/-- A lexeme as a text that is read to its end has it. -/
structure Lexeme.Genuine (lexeme : Lexeme) : Prop where
  spelled : lexeme.kind.Spells lexeme.text.toList
  unreserved : lexeme.kind = .identifier → Kind.ofReserved? lexeme.text = none

namespace Lexeme.Genuine

theorem isName {text : String} (genuine : Genuine ⟨.identifier, text⟩) :
    Tree.isName text = true := by
  rcases genuine.spelled with ⟨first, others, spelled, starts, continues⟩
  have unreserved : Kind.ofReserved? text = none := genuine.unreserved rfl
  have isWord : others.all continuesName = true := List.all_eq_true.2 continues
  rw [Tree.isName, show text.toList = first :: others from spelled]
  simp [starts, isWord, unreserved]

/-- A string has no mark of the sort that it stands between. -/
theorem isQuotable {text : String} (genuine : Genuine ⟨.string, text⟩) :
    Tree.isQuotable (unquoted text) = true := by
  rcases genuine.spelled with ⟨mark, inner, isMark, spelled, absent⟩
  have contents : (unquoted text).toList = inner := by
    rw [unquoted, show text.toList = mark :: inner ++ [mark] from spelled]
    simp
  rw [Tree.isQuotable, contents]
  rcases List.mem_pair.1 isMark with rfl | rfl <;> simp [absent]

theorem mem_texts {lexeme : Lexeme} (genuine : lexeme.Genuine)
    (short : lexeme.kind.isShort = true) : lexeme.text ∈ lexeme.kind.texts := by
  have spelled := (Kind.spells_iff_of_isShort short _).1 genuine.spelled
  rwa [String.ofList_toList] at spelled

theorem isUnaryOperator {lexeme : Lexeme} (genuine : lexeme.Genuine)
    (operates : lexeme.kind.isUnary = true) : lexeme.text ∈ unaryOperators := by
  have within : ∀ kind ∈ Kind.all, kind.isUnary = true →
      kind.isShort = true ∧ kind.texts ⊆ unaryOperators := by decide
  rcases within _ (Kind.mem_all _) operates with ⟨short, included⟩
  exact included (genuine.mem_texts short)

theorem isAssignmentOperator {lexeme : Lexeme} (genuine : lexeme.Genuine)
    (operates : lexeme.kind.isAssignment = true) : lexeme.text ∈ assignmentOperators := by
  have within : ∀ kind ∈ Kind.all, kind.isAssignment = true →
      kind.isShort = true ∧ kind.texts ⊆ assignmentOperators := by decide
  rcases within _ (Kind.mem_all _) operates with ⟨short, included⟩
  exact included (genuine.mem_texts short)

/-- The operators of the two loosest levels are logical, the others are not. -/
theorem isLevelOperator {lexeme : Lexeme} {level : Level} (genuine : lexeme.Genuine)
    (operates : lexeme.kind = level.operator) :
    lexeme.text ∈ if level.isLogical then logicalOperators else binaryOperators := by
  have within : level.operator.isShort = true ∧
      level.operator.texts ⊆ if level.isLogical then logicalOperators else binaryOperators := by
    cases level <;> decide
  rw [← operates] at within
  exact within.2 (genuine.mem_texts within.1)

end Lexeme.Genuine

/-! ## Derived trees pass the checks -/

namespace Grammar

/-- What a category promises of its trees. -/
def Category.fits : Category → List Tree → Bool
  | .program, trees => trees.all isProgram
  | .statements, trees | .statement, trees => trees.all isStatement
  | .block, trees => trees.all Slot.functionBody.checks
  | .declarations, trees => areDeclarations trees
  | .declaration, trees => trees.all isDeclaration
  | .parameters, trees | .names, trees => trees.all isIdentifier
  | .loopStart, trees => isLoopStart trees.head?
  | .optionalExpression, trees => isOptionalExpression trees.head?
  | .expression, trees | .binary _, trees | .unary, trees | .member, trees
  | .primary, trees => trees.all isExpression

theorem fits_operand (level : Level) (trees : List Tree) :
    (operand level).fits trees = trees.all isExpression := by
  cases level <;> rfl

theorem isExpression_binaryTree {level : Level} {operator : Lexeme} {left right : Tree}
    (genuine : operator.Genuine) (operates : operator.kind = level.operator)
    (ofLeft : left.isExpression = true) (ofRight : right.isExpression = true) :
    (binaryTree level operator.text left right).isExpression = true := by
  have belongs := genuine.isLevelOperator operates
  cases logical : level.isLogical <;>
    simp_all [binaryTree, isExpression]

theorem isExpression_of_literal {lexeme : Lexeme} {tree : Tree} (genuine : lexeme.Genuine)
    (literal : Literal lexeme tree) : tree.isExpression = true := by
  cases literal with
  | string text => rw [isExpression, genuine.isQuotable]
  | _ => rfl

/-- An expression may start a loop, and declarations are none. -/
theorem isLoopStart_of_isOptionalExpression {part : Option Tree}
    (fits : isOptionalExpression part = true) : isLoopStart part = true := by
  rcases part with _ | node
  · rfl
  · cases node with
    | declarations items => simp [isOptionalExpression, isExpression] at fits
    | _ => exact fits

/-- Lexemes of a text that is read to its end derive only trees that pass the checks. -/
theorem fits_of_derives {category : Category} {lexemes : List Lexeme} {trees : List Tree}
    (derives : Derives category lexemes trees)
    (genuine : ∀ lexeme ∈ lexemes, lexeme.Genuine) : category.fits trees = true := by
  induction derives with
  -- A lexeme puts its text into the tree.
  | literal literal =>
      have fits := isExpression_of_literal (genuine _ (by simp)) literal
      simp [Category.fits, fits]
  | name text | oneName text =>
      have isName := (genuine ⟨.identifier, text⟩ (by simp)).isName
      simp [Category.fits, isExpression, isIdentifier, isName]
  | @memberName _ _ _ text =>
      have isName := (genuine ⟨.identifier, text⟩ (by simp)).isName
      simp_all [Category.fits, isExpression, isIdentifier]
  | @unaryOperator operator _ _ operates =>
      have belongs := (genuine operator (by simp)).isUnaryOperator operates
      simp_all [Category.fits, isExpression]
  | @binaryOperator _ operator _ _ _ _ _ operates _ _ ofRight =>
      have isOperator := genuine operator (by simp)
      rw [fits_operand] at ofRight
      simp_all [Category.fits, isExpression_binaryTree isOperator operates]
  | @assignment operator _ _ _ _ _ _ operates =>
      have belongs := (genuine operator (by simp)).isAssignmentOperator operates
      simp_all [Category.fits, isExpression]
  | bareDeclaration text =>
      have isName := (genuine ⟨.identifier, text⟩ (by simp)).isName
      simp [Category.fits, isDeclaration, isIdentifier, isOptionalExpression, isName]
  | @fullDeclaration _ _ text =>
      have isName := (genuine ⟨.identifier, text⟩ (by simp)).isName
      simp_all [Category.fits, isDeclaration, isIdentifier, isOptionalExpression]
  | @moreNames _ text =>
      have isName := (genuine ⟨.identifier, text⟩ (by simp)).isName
      simp_all [Category.fits, isIdentifier]
  | @function _ _ _ text =>
      have isName := (genuine ⟨.identifier, text⟩ (by simp)).isName
      simp_all [Category.fits, isStatement, isIdentifier, Slot.checks]
  -- The tree is made of trees alone.
  | grouping | memberPrimary | memberIndex | unaryMember | expressionOperand =>
      simp_all [Category.fits, isExpression]
  | binaryOperand _ ofOperand =>
      rw [fits_operand] at ofOperand
      exact ofOperand genuine
  | noExpression | someExpression => simp_all [Category.fits, isOptionalExpression]
  | oneDeclaration | moreDeclarations => simp_all [Category.fits, areDeclarations]
  | startExpression _ ofExpression =>
      exact isLoopStart_of_isOptionalExpression (ofExpression genuine)
  | startDeclarations => simp_all [Category.fits, isLoopStart]
  | noParameters | someParameters => simp_all [Category.fits]
  | block | blockStatement =>
      simp_all [Category.fits, isStatement, areStatements_eq_all, Slot.checks, isBlock]
  | emptyStatement | expressionStatement | declarationStatement | conditional | conditionalElse
  | whileLoop | doWhileLoop | forLoop | returning =>
      simp_all [Category.fits, isStatement, isOptionalStatement]
  | noStatements | moreStatements => simp_all [Category.fits]
  | program => simp_all [Category.fits, isProgram, areStatements_eq_all]

end Grammar

namespace Parser

variable {source : String} {file : Option String} {tree : Tree}

/-- A tree that is read is a program that passes its check. -/
theorem isProgram_of_parse (accepts : parse source file = .ok tree) : tree.isProgram = true := by
  rcases parse_eq_ok_iff.1 accepts with ⟨tokens, lexes, derives⟩
  have ofText := tokenize_iff_lexes.1 ⟨tokens, lexes, rfl⟩
  have fits := Grammar.fits_of_derives derives fun lexeme member =>
    ⟨ofText.spells lexeme member, ofText.unreserved lexeme member⟩
  simpa [Grammar.Category.fits] using fits

/--
The shape of every tree that is read: the tree is a program, each node inside it
suits the place where it stands, and its operator, name, text or number of
declarations suits its type.
-/
theorem parsed_nodes_suit_slots (accepts : parse source file = .ok tree) :
    tree.role = .program ∧
      ∀ slot node, tree.Inside slot node → slot.Admits node ∧ node.Proper := by
  have fits := isProgram_of_parse accepts
  cases tree with
  | program body =>
      refine ⟨rfl, ?_⟩
      intro slot node inside
      have ofParts : ((Tree.program body).parts.all fun part => part.1.checks part.2) = true := by
        simpa [parts, Slot.checks, isProgram, areStatements_eq_all, Function.comp_def] using fits
      rcases Slot.checked (inside.checks ofParts) with ⟨admits, _, checked⟩
      exact ⟨admits, checked.proper⟩
  | _ => simp [isProgram] at fits

/-- A loop starts with declarations in one place and assigns to a member in another. -/
theorem parsed_loop_suits_slots :
    ∃ tree : Tree, parse "for (let i; ;) a.b /= 'c\"d';" none = .ok tree ∧
      tree.Inside .loopStart (.declarations [.declaration (.identifier "i") none]) ∧
        tree.role = .program ∧
          ∀ slot node, tree.Inside slot node → slot.Admits node ∧ node.Proper := by
  have accepts : parse "for (let i; ;) a.b /= 'c\"d';" none =
      .ok (Tree.program [.forLoop (some (.declarations [.declaration (.identifier "i") none]))
        none none
        (.expression (.assignment "/=" (.member false (.identifier "a") (.identifier "b"))
          (.string "c\"d")))]) := by
    decide +kernel
  exact ⟨_, accepts, .deeper (.part (.head _)) (.head _), parsed_nodes_suit_slots accepts⟩

end Parser

end Script
