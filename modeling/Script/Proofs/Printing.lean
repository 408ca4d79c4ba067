import Script.Proofs.Acceptance
import Script.Proofs.SpacedText

/-!
# Parsing undoes printing

The printed text of a program is read back as that program.  Its lexemes stand
alone, so the lexer finds them again, and the grammar derives the tree from them,
so the parser answers with that tree.

Both are shown together along the tree.  An expression is derived in the slot that
is as tight as the expression; in a looser slot it stands as it is, and in a
tighter one it stands in parentheses.
-/

open Script.Grammar Script.Tree

namespace Script

/-! ## Lexemes that are printed -/

/-- Whether a kind has one text, which is its name. -/
def Kind.isFixed (kind : Kind) : Bool :=
  kind.isShort && kind.texts = [kind.name]

namespace Lexeme

theorem standsAlone_of_mem_texts {kind : Kind} {text : String} (short : kind.isShort = true)
    (member : text ∈ kind.texts) :
    StandsAlone ⟨kind, text⟩ := by
  refine standsAlone_of_spells ?_ ?_
  · rw [Kind.spells_iff_of_isShort short, String.ofList_toList]
    exact member
  · rintro rfl
    cases short

theorem standsAlone_fixed {kind : Kind} (isFixed : kind.isFixed = true) :
    StandsAlone (fixedLexeme kind) := by
  rw [Kind.isFixed, Bool.and_eq_true, decide_eq_true_eq] at isFixed
  exact standsAlone_of_mem_texts isFixed.1 (by simp [isFixed.2])

theorem standsAlone_isName {name : String} (isName : Tree.isName name = true) :
    StandsAlone ⟨.identifier, name⟩ := by
  unfold Tree.isName at isName
  split at isName
  · cases isName
  · next first others whole =>
      simp only [Bool.and_eq_true, List.all_eq_true, Option.isNone_iff_eq_none] at isName
      rcases isName with ⟨⟨starts, continues⟩, unreserved⟩
      exact standsAlone_name ⟨first, others, whole, starts, continues⟩ unreserved

theorem standsAlone_integer (value : UInt64) :
    StandsAlone ⟨.number, Numeral.integerText value⟩ :=
  standsAlone_number (Numeral.spells_integerText value)

/-- A string that does not hold both marks has none of those that it is put between. -/
theorem standsAlone_quoted {value : String} (quotable : isQuotable value = true) :
    StandsAlone ⟨.string, quotedText value⟩ := by
  apply standsAlone_string
  rw [quotedText, String.toList_ofList]
  by_cases double : '"' ∈ value.toList
  · rw [if_pos (List.contains_iff_mem.2 double)]
    refine ⟨'\x27', value.toList, by simp, rfl, ?_⟩
    simpa [isQuotable, double] using quotable
  · rw [if_neg (by simpa using double)]
    exact ⟨'"', value.toList, by simp, rfl, double⟩

end Lexeme

/-- Taking the quotes off undoes putting them on. -/
theorem unquoted_quotedText (value : String) : unquoted (quotedText value) = value := by
  rw [unquoted, quotedText, String.toList_ofList]
  simp

/-- All of some lexemes stand alone. -/
def StandApart (lexemes : List Lexeme) : Prop :=
  ∀ lexeme ∈ lexemes, lexeme.StandsAlone

@[simp]
theorem standApart_nil : StandApart [] := by
  simp [StandApart]

@[simp]
theorem standApart_cons {lexeme : Lexeme} {others : List Lexeme} :
    StandApart (lexeme :: others) ↔ lexeme.StandsAlone ∧ StandApart others := by
  simp [StandApart]

@[simp]
theorem standApart_append {front back : List Lexeme} :
    StandApart (front ++ back) ↔ StandApart front ∧ StandApart back := by
  simp [StandApart, or_imp, forall_and]

/-- Lexemes that the lexer finds again, and from which the grammar derives some trees. -/
structure Written (category : Category) (lexemes : List Lexeme) (trees : List Tree) : Prop where
  derives : Derives category lexemes trees
  apart : StandApart lexemes

@[simp]
theorem kind_fixedLexeme (kind : Kind) : (fixedLexeme kind).kind = kind :=
  rfl

/-! ## Slots -/

/-- The category of the slot that asks for a tightness. -/
def slot : Nat → Category
  | 0 => .expression
  | 1 => .binary .logicalOr
  | 2 => .binary .logicalAnd
  | 3 => .binary .equality
  | 4 => .binary .relational
  | 5 => .binary .additive
  | 6 => .binary .multiplicative
  | 7 => .unary
  | _ => .member

section Slots

variable {lexemes : List Lexeme} {tree : Tree}

/-- What fits a slot fits the next looser one. -/
theorem derives_looser (tightness : Nat)
    (derives : Derives (slot (tightness + 1)) lexemes [tree]) :
    Derives (slot tightness) lexemes [tree] := by
  match tightness with
  | 0 => exact .expressionOperand derives
  | 1 | 2 | 3 | 4 | 5 | 6 => exact .binaryOperand derives
  | 7 => exact .unaryMember derives
  | _ + 8 => exact derives

theorem Written.loosen {asked tight : Nat} (written : Written (slot tight) lexemes [tree])
    (looser : asked ≤ tight) :
    Written (slot asked) lexemes [tree] := by
  refine ⟨?_, written.apart⟩
  induction looser with
  | refl => exact written.derives
  | @step tighter _ inductionHypothesis =>
      exact inductionHypothesis ⟨derives_looser tighter written.derives, written.apart⟩

/-- An expression fits every slot, in parentheses where it binds more loosely. -/
theorem Written.parenthesised (written : Written (slot tree.tightness) lexemes [tree])
    (asked : Nat) (within : asked ≤ memberTightness) :
    Written (slot asked) (parenthesised (tree.tightness < asked) lexemes) [tree] := by
  by_cases looser : tree.tightness < asked
  · have grouped : Written (slot memberTightness)
        ([fixedLexeme .openParen] ++ lexemes ++ [fixedLexeme .closeParen]) [tree] := by
      have inside := written.loosen (Nat.zero_le _)
      refine ⟨.memberPrimary (.grouping rfl inside.derives rfl), ?_⟩
      simp (disch := decide) [inside.apart, Lexeme.standsAlone_fixed]
    simpa [Tree.parenthesised, looser] using grouped.loosen within
  · simpa [Tree.parenthesised, looser] using written.loosen (Nat.le_of_not_lt looser)

end Slots

/-! ## Expressions -/

mutual

/-- Whether every number of a tree is an integer. -/
def Tree.isIntegral : Tree → Bool
  | .program body => areIntegral body
  | .block body => areIntegral body
  | .empty => true
  | .expression inner => isIntegral inner
  | .declarations items => areIntegral items
  | .declaration id init => isIntegral id && isOptionalIntegral init
  | .conditional test consequent alternate =>
      isIntegral test && isIntegral consequent && isOptionalIntegral alternate
  | .whileLoop test body => isIntegral test && isIntegral body
  | .doWhileLoop body test => isIntegral body && isIntegral test
  | .forLoop init test update body =>
      isOptionalIntegral init && isOptionalIntegral test && isOptionalIntegral update
        && isIntegral body
  | .function name params body => isIntegral name && areIntegral params && isIntegral body
  | .returning argument => isOptionalIntegral argument
  | .assignment _ left right => isIntegral left && isIntegral right
  | .logical _ left right => isIntegral left && isIntegral right
  | .binary _ left right => isIntegral left && isIntegral right
  | .unary _ argument => isIntegral argument
  | .member _ object property => isIntegral object && isIntegral property
  | .identifier _ => true
  | .number (.integer _) => true
  | .number (.real _) => false
  | .string _ => true
  | .boolean _ => true
  | .null => true

/-- Whether every number of several trees is an integer. -/
def Tree.areIntegral : List Tree → Bool
  | [] => true
  | node :: others => isIntegral node && areIntegral others

/-- Whether every number of a part is an integer, if the part is there. -/
def Tree.isOptionalIntegral : Option Tree → Bool
  | none => true
  | some node => isIntegral node

end

/-- What is printed for an operator that stands between two operands. -/
structure Joins (operator : String) (level : Level) : Prop where
  slot_eq : slot (operatorTightness operator) = .binary level
  operand_eq : slot (operatorTightness operator + 1) = operand level
  looser : operatorTightness operator < memberTightness
  kind_eq : binaryKind operator = level.operator
  alone : Lexeme.StandsAlone ⟨binaryKind operator, operator⟩

theorem joins_of_mem {operator : String} {level : Level}
    (member : operator ∈ level.operator.texts) : Joins operator level := by
  have short : level.operator.isShort = true := by cases level <;> rfl
  have settled : ∀ level ∈ Level.all, ∀ operator ∈ level.operator.texts,
      slot (operatorTightness operator) = .binary level ∧
        slot (operatorTightness operator + 1) = operand level ∧
          operatorTightness operator < memberTightness ∧
            binaryKind operator = level.operator := by
    decide
  have listed : level ∈ Level.all := by cases level <;> decide
  rcases settled level listed operator member with ⟨slot_eq, operand_eq, looser, kind_eq⟩
  refine ⟨slot_eq, operand_eq, looser, kind_eq, ?_⟩
  rw [kind_eq]
  exact Lexeme.standsAlone_of_mem_texts short member

/-- The operators of a node belong to the levels that make such nodes. -/
theorem exists_level_of_mem {operator : String} (logical : Bool)
    (member : operator ∈ if logical then logicalOperators else binaryOperators) :
    ∃ level : Level, Joins operator level ∧ level.isLogical = logical := by
  have settled : ∀ logical : Bool,
      ∀ operator ∈ if logical then logicalOperators else binaryOperators,
        ∃ level ∈ Level.all,
          operator ∈ level.operator.texts ∧ level.isLogical = logical := by
    decide
  rcases settled logical operator member with ⟨level, _, ofLevel, isLogical⟩
  exact ⟨level, joins_of_mem ofLevel, isLogical⟩

section Operators

variable {front back : List Lexeme} {left right : Tree} {operator : String}

theorem Joins.written {level : Level} (joins : Joins operator level)
    (ofLeft : Written (.binary level) front [left])
    (ofRight : Written (operand level) back [right]) :
    Written (.binary level) (front ++ [⟨binaryKind operator, operator⟩] ++ back)
      [binaryTree level operator left right] := by
  refine ⟨?_, by simp [ofLeft.apart, ofRight.apart, joins.alone]⟩
  have operates : (Lexeme.mk (binaryKind operator) operator).kind = level.operator :=
    joins.kind_eq
  rw [List.append_assoc]
  exact .binaryOperator ofLeft.derives operates ofRight.derives

/-- Operands that are printed for their slots may stand beside an operator. -/
theorem Joins.between {level : Level} (joins : Joins operator level)
    (ofLeft : Written (slot left.tightness) front [left])
    (ofRight : Written (slot right.tightness) back [right]) :
    Written (slot (operatorTightness operator))
      (Tree.parenthesised (left.tightness < operatorTightness operator) front
        ++ [⟨binaryKind operator, operator⟩]
        ++ Tree.parenthesised (right.tightness < operatorTightness operator + 1) back)
      [binaryTree level operator left right] := by
  have first := ofLeft.parenthesised _ (Nat.le_of_lt joins.looser)
  have second := ofRight.parenthesised _ joins.looser
  rw [joins.slot_eq] at first ⊢
  rw [joins.operand_eq] at second
  exact joins.written first second

theorem Written.assigned (ofLeft : Written (.binary .logicalOr) front [left])
    (ofRight : Written .expression back [right]) (assignable : left.isAssignable = true)
    (isOperator : operator ∈ assignmentOperators) :
    Written .expression (front ++ [⟨assignmentKind operator, operator⟩] ++ back)
      [.assignment operator left right] := by
  have settled : ∀ operator ∈ assignmentOperators,
      (assignmentKind operator).isAssignment = true ∧
        (assignmentKind operator).isShort = true ∧
          operator ∈ (assignmentKind operator).texts := by
    decide
  rcases settled operator isOperator with ⟨assigns, short, member⟩
  have alone := Lexeme.standsAlone_of_mem_texts short member
  refine ⟨?_, by simp [ofLeft.apart, ofRight.apart, alone]⟩
  rw [List.append_assoc]
  exact .assignment ofLeft.derives assignable assigns ofRight.derives

theorem Written.operated (ofArgument : Written .unary back [right])
    (isOperator : operator ∈ unaryOperators) :
    Written .unary ([⟨unaryKind operator, operator⟩] ++ back) [.unary operator right] := by
  have settled : ∀ operator ∈ unaryOperators,
      (unaryKind operator).isUnary = true ∧ (unaryKind operator).isShort = true ∧
        operator ∈ (unaryKind operator).texts := by
    decide
  rcases settled operator isOperator with ⟨operates, short, member⟩
  have alone := Lexeme.standsAlone_of_mem_texts short member
  exact ⟨.unaryOperator operates ofArgument.derives, by simp [ofArgument.apart, alone]⟩

theorem Written.indexed (ofObject : Written .member front [left])
    (ofProperty : Written .expression back [right]) :
    Written .member
      (front ++ ([fixedLexeme .openBracket] ++ back ++ [fixedLexeme .closeBracket]))
      [.member true left right] := by
  constructor
  · simpa using Derives.memberIndex ofObject.derives (kind_fixedLexeme .openBracket)
      ofProperty.derives (kind_fixedLexeme .closeBracket)
  · simp (disch := decide) [ofObject.apart, ofProperty.apart, Lexeme.standsAlone_fixed]

theorem Written.selected {name : String} (ofObject : Written .member front [left])
    (isName : Tree.isName name = true) :
    Written .member (front ++ ([fixedLexeme .dot] ++ [⟨.identifier, name⟩]))
      [.member false left (.identifier name)] := by
  refine ⟨.memberName ofObject.derives rfl, ?_⟩
  simp (disch := decide) [ofObject.apart, Lexeme.standsAlone_fixed,
    Lexeme.standsAlone_isName isName]

end Operators

theorem eq_identifier {tree : Tree} (isIdentifier : tree.isIdentifier = true) :
    ∃ name, tree = .identifier name ∧ isName name = true := by
  cases tree <;> first | exact ⟨_, rfl, isIdentifier⟩ | cases isIdentifier

/-- A literal is printed as one lexeme. -/
theorem written_literal {lexeme : Lexeme} {tree : Tree} (literal : Literal lexeme tree)
    (alone : lexeme.StandsAlone) :
    Written .member [lexeme] [tree] :=
  ⟨.memberPrimary (.literal literal), by simp [alone]⟩

/-- An expression is printed so that it fits its own slot. -/
theorem written_expression {tree : Tree} (fits : tree.isExpression = true)
    (integral : tree.isIntegral = true) :
    Written (slot tree.tightness) tree.lexemes [tree] := by
  fun_induction isExpression tree with
  | case1 operator left right ofLeft ofRight =>
      simp only [Bool.and_eq_true, Tree.isIntegral] at fits integral
      rcases fits with ⟨⟨⟨isOperator, assignable⟩, fitsLeft⟩, fitsRight⟩
      have first := (ofLeft fitsLeft integral.1).parenthesised 1 (by decide)
      have second := (ofRight fitsRight integral.2).loosen (Nat.zero_le _)
      rw [Tree.lexemes]
      exact first.assigned second assignable (List.contains_iff_mem.1 isOperator)
  | case2 operator left right ofLeft ofRight =>
      simp only [Bool.and_eq_true, Tree.isIntegral] at fits integral
      rcases fits with ⟨⟨isOperator, fitsLeft⟩, fitsRight⟩
      rcases exists_level_of_mem true (List.contains_iff_mem.1 isOperator) with
        ⟨level, joins, logical⟩
      have joined := joins.between (ofLeft fitsLeft integral.1) (ofRight fitsRight integral.2)
      rw [binaryTree, if_pos logical] at joined
      rw [Tree.lexemes]
      exact joined
  | case3 operator left right ofLeft ofRight =>
      simp only [Bool.and_eq_true, Tree.isIntegral] at fits integral
      rcases fits with ⟨⟨isOperator, fitsLeft⟩, fitsRight⟩
      rcases exists_level_of_mem false (List.contains_iff_mem.1 isOperator) with
        ⟨level, joins, logical⟩
      have joined := joins.between (ofLeft fitsLeft integral.1) (ofRight fitsRight integral.2)
      rw [binaryTree, logical, if_neg Bool.false_ne_true] at joined
      rw [Tree.lexemes]
      exact joined
  | case4 operator argument ofArgument =>
      simp only [Bool.and_eq_true, Tree.isIntegral] at fits integral
      have inside := (ofArgument fits.2 integral).parenthesised unaryTightness (by decide)
      rw [Tree.lexemes]
      exact inside.operated (List.contains_iff_mem.1 fits.1)
  | case5 object property ofObject ofProperty =>
      simp only [Bool.and_eq_true, Tree.isIntegral] at fits integral
      have first := (ofObject fits.1 integral.1).parenthesised memberTightness (by decide)
      have second := (ofProperty fits.2 integral.2).loosen (Nat.zero_le _)
      rw [Tree.lexemes, if_pos rfl]
      exact first.indexed second
  | case6 object property ofObject =>
      simp only [Bool.and_eq_true, Tree.isIntegral] at fits integral
      have first := (ofObject fits.1 integral.1).parenthesised memberTightness (by decide)
      rcases eq_identifier fits.2 with ⟨name, rfl, isName⟩
      rw [Tree.lexemes, if_neg Bool.false_ne_true]
      exact first.selected isName
  | case7 name =>
      exact ⟨.memberPrimary (.name name), by simp [Tree.lexemes, Lexeme.standsAlone_isName fits]⟩
  | case8 value =>
      cases value with
      | integer value =>
          rw [Tree.lexemes]
          exact written_literal (.number (Numeral.read_integerText value))
            (Lexeme.standsAlone_integer value)
      | real value => cases integral
  | case9 value =>
      have literal : Literal ⟨.string, quotedText value⟩ (.string value) := by
        have read := Literal.string (quotedText value)
        rwa [unquoted_quotedText] at read
      rw [Tree.lexemes]
      exact written_literal literal (Lexeme.standsAlone_quoted fits)
  | case10 value =>
      rw [Tree.lexemes]
      cases value with
      | true => exact written_literal (.isTrue _) (Lexeme.standsAlone_fixed rfl)
      | false => exact written_literal (.isFalse _) (Lexeme.standsAlone_fixed rfl)
  | case11 =>
      rw [Tree.lexemes]
      exact written_literal (.null _) (Lexeme.standsAlone_fixed rfl)
  | case12 => cases fits

/-- Where any expression may stand, one stands without parentheses. -/
theorem written_inside {tree : Tree} (fits : tree.isExpression = true)
    (integral : tree.isIntegral = true) :
    Written .expression tree.lexemes [tree] :=
  (written_expression fits integral).loosen (Nat.zero_le _)

/-! ## Parts of statements -/

theorem written_optional {part : Option Tree} (fits : isOptionalExpression part = true)
    (integral : isOptionalIntegral part = true) :
    Written .optionalExpression (optionLexemes part) part.toList := by
  cases part with
  | none => exact ⟨.noExpression, by simp [optionLexemes]⟩
  | some tree =>
      have written := written_inside fits integral
      exact ⟨.someExpression written.derives, written.apart⟩

theorem written_declaration {tree : Tree} (fits : tree.isDeclaration = true)
    (integral : tree.isIntegral = true) :
    Written .declaration tree.lexemes [tree] := by
  cases tree with
  | declaration id init =>
      simp only [isDeclaration, Bool.and_eq_true, Tree.isIntegral] at fits integral
      rcases eq_identifier fits.1 with ⟨name, rfl, isName⟩
      have alone := Lexeme.standsAlone_isName isName
      cases init with
      | none => exact ⟨.bareDeclaration name, by simp [Tree.lexemes, alone]⟩
      | some value =>
          have ofValue := written_inside fits.2 integral.2
          have assigns : Lexeme.StandsAlone ⟨.simpleAssign, "="⟩ :=
            Lexeme.standsAlone_of_mem_texts rfl (by decide)
          refine ⟨.fullDeclaration rfl ofValue.derives, ?_⟩
          simp [Tree.lexemes, alone, assigns, ofValue.apart]
  | _ => cases fits

theorem written_declarations {items : List Tree} (nonempty : items ≠ [])
    (fits : ∀ item ∈ items, item.isDeclaration = true)
    (integral : areIntegral items = true) :
    Written .declarations (separatedLexemes items) items := by
  induction items with
  | nil => exact absurd rfl nonempty
  | cons first others inductionHypothesis =>
      simp only [areIntegral, Bool.and_eq_true] at integral
      have ofFirst := written_declaration (fits first (by simp)) integral.1
      cases others with
      | nil => exact ⟨.oneDeclaration ofFirst.derives, ofFirst.apart⟩
      | cons second others =>
          have ofOthers := inductionHypothesis (by simp)
            (fun item member => fits item (by simp [member])) integral.2
          rw [separatedLexemes]
          constructor
          · simpa using Derives.moreDeclarations ofFirst.derives (kind_fixedLexeme .comma)
              ofOthers.derives
          · simp (disch := decide) [ofFirst.apart, ofOthers.apart, Lexeme.standsAlone_fixed]

theorem written_names {names : List Tree} (nonempty : names ≠ [])
    (fits : ∀ name ∈ names, name.isIdentifier = true) :
    Written .names (separatedLexemes names) names := by
  induction names with
  | nil => exact absurd rfl nonempty
  | cons first others inductionHypothesis =>
      rcases eq_identifier (fits first (by simp)) with ⟨name, rfl, isName⟩
      have alone := Lexeme.standsAlone_isName isName
      cases others with
      | nil => exact ⟨.oneName name, by simp [separatedLexemes, Tree.lexemes, alone]⟩
      | cons second others =>
          have ofOthers := inductionHypothesis (by simp)
            (fun item member => fits item (by simp [member]))
          rw [separatedLexemes, Tree.lexemes]
          refine ⟨.moreNames rfl ofOthers.derives, ?_⟩
          simp (disch := decide) [alone, ofOthers.apart, Lexeme.standsAlone_fixed]

theorem written_parameters {params : List Tree} (fits : params.all isIdentifier = true) :
    Written .parameters (separatedLexemes params) params := by
  cases params with
  | nil => exact ⟨.noParameters, by simp [separatedLexemes]⟩
  | cons first others =>
      have written := written_names (by simp) (List.all_eq_true.1 fits)
      exact ⟨.someParameters written.derives, written.apart⟩

theorem written_let {items : List Tree} (fits : areDeclarations items = true)
    (integral : areIntegral items = true) :
    Written .declarations (separatedLexemes items) items := by
  simp only [areDeclarations, Bool.and_eq_true, Bool.not_eq_true', List.isEmpty_eq_false_iff,
    List.all_eq_true] at fits
  exact written_declarations fits.1 fits.2 integral

theorem written_loopStart {part : Option Tree} (fits : isLoopStart part = true)
    (integral : isOptionalIntegral part = true) :
    Written .loopStart (optionLexemes part) part.toList := by
  unfold isLoopStart at fits
  split at fits
  · next items =>
      have ofItems := written_let fits integral
      rw [optionLexemes, Tree.lexemes]
      refine ⟨.startDeclarations rfl ofItems.derives, ?_⟩
      simp (disch := decide) [ofItems.apart, Lexeme.standsAlone_fixed]
  · have written := written_optional fits integral
    exact ⟨.startExpression written.derives, written.apart⟩

/-! ## Statements -/

section Statements

variable {first second third last : List Lexeme} {test body : Tree}

theorem Written.block {trees : List Tree} (ofBody : Written .statements last trees) :
    Written .statement ([fixedLexeme .openCurly] ++ last ++ [fixedLexeme .closeCurly])
      [.block trees] := by
  refine ⟨.blockStatement (.block rfl ofBody.derives rfl), ?_⟩
  simp (disch := decide) [ofBody.apart, Lexeme.standsAlone_fixed]

theorem Written.expressionStatement (ofInner : Written .expression first [test]) :
    Written .statement (first ++ [fixedLexeme .semicolon]) [.expression test] := by
  refine ⟨.expressionStatement ofInner.derives rfl, ?_⟩
  simp (disch := decide) [ofInner.apart, Lexeme.standsAlone_fixed]

theorem Written.declarationStatement {trees : List Tree}
    (ofItems : Written .declarations first trees) :
    Written .statement ([fixedLexeme .letWord] ++ first ++ [fixedLexeme .semicolon])
      [.declarations trees] := by
  refine ⟨.declarationStatement rfl ofItems.derives rfl, ?_⟩
  simp (disch := decide) [ofItems.apart, Lexeme.standsAlone_fixed]

theorem Written.conditional {consequent : Tree} (ofTest : Written .expression first [test])
    (ofConsequent : Written .statement second [consequent]) :
    Written .statement
      ([fixedLexeme .ifWord, fixedLexeme .openParen] ++ first ++ [fixedLexeme .closeParen]
        ++ second)
      [.conditional test consequent none] := by
  constructor
  · simpa using Derives.conditional (kind_fixedLexeme .ifWord) (kind_fixedLexeme .openParen)
      ofTest.derives (kind_fixedLexeme .closeParen) ofConsequent.derives
  · simp (disch := decide) [ofTest.apart, ofConsequent.apart, Lexeme.standsAlone_fixed]

theorem Written.conditionalElse {consequent alternate : Tree}
    (ofTest : Written .expression first [test])
    (ofConsequent : Written .statement second [consequent])
    (closed : consequent.endsOpen = false)
    (ofAlternate : Written .statement third [alternate]) :
    Written .statement
      ([fixedLexeme .ifWord, fixedLexeme .openParen] ++ first ++ [fixedLexeme .closeParen]
        ++ second ++ ([fixedLexeme .elseWord] ++ third))
      [.conditional test consequent (some alternate)] := by
  constructor
  · simpa using Derives.conditionalElse (kind_fixedLexeme .ifWord)
      (kind_fixedLexeme .openParen) ofTest.derives (kind_fixedLexeme .closeParen)
      ofConsequent.derives closed (kind_fixedLexeme .elseWord) ofAlternate.derives
  · simp (disch := decide) [ofTest.apart, ofConsequent.apart, ofAlternate.apart,
      Lexeme.standsAlone_fixed]

theorem Written.whileLoop (ofTest : Written .expression first [test])
    (ofBody : Written .statement last [body]) :
    Written .statement
      ([fixedLexeme .whileWord, fixedLexeme .openParen] ++ first ++ [fixedLexeme .closeParen]
        ++ last)
      [.whileLoop test body] := by
  constructor
  · simpa using Derives.whileLoop (kind_fixedLexeme .whileWord) (kind_fixedLexeme .openParen)
      ofTest.derives (kind_fixedLexeme .closeParen) ofBody.derives
  · simp (disch := decide) [ofTest.apart, ofBody.apart, Lexeme.standsAlone_fixed]

theorem Written.doWhileLoop (ofBody : Written .statement last [body])
    (ofTest : Written .expression first [test]) :
    Written .statement
      ([fixedLexeme .doWord] ++ last ++ [fixedLexeme .whileWord, fixedLexeme .openParen]
        ++ first ++ [fixedLexeme .closeParen, fixedLexeme .semicolon])
      [.doWhileLoop body test] := by
  constructor
  · simpa using Derives.doWhileLoop (kind_fixedLexeme .doWord) ofBody.derives
      (kind_fixedLexeme .whileWord) (kind_fixedLexeme .openParen) ofTest.derives
      (kind_fixedLexeme .closeParen) (kind_fixedLexeme .semicolon)
  · simp (disch := decide) [ofTest.apart, ofBody.apart, Lexeme.standsAlone_fixed]

theorem Written.forLoop {init test update : Option Tree}
    (ofInit : Written .loopStart first init.toList)
    (ofTest : Written .optionalExpression second test.toList)
    (ofUpdate : Written .optionalExpression third update.toList)
    (ofBody : Written .statement last [body]) :
    Written .statement
      ([fixedLexeme .forWord, fixedLexeme .openParen] ++ first ++ [fixedLexeme .semicolon]
        ++ second ++ [fixedLexeme .semicolon] ++ third ++ [fixedLexeme .closeParen] ++ last)
      [.forLoop init test update body] := by
  constructor
  · simpa using Derives.forLoop (kind_fixedLexeme .forWord) (kind_fixedLexeme .openParen)
      ofInit.derives (kind_fixedLexeme .semicolon) ofTest.derives (kind_fixedLexeme .semicolon)
      ofUpdate.derives (kind_fixedLexeme .closeParen) ofBody.derives
  · simp (disch := decide) [ofInit.apart, ofTest.apart, ofUpdate.apart, ofBody.apart,
      Lexeme.standsAlone_fixed]

/-- A block that is derived as a statement is derived as a block. -/
theorem derives_block {lexemes : List Lexeme} {trees : List Tree}
    (derives : Derives .statement lexemes [.block trees]) :
    Derives .block lexemes [.block trees] := by
  cases derives with
  | blockStatement ofBlock => exact ofBlock

theorem ended_of_isBlock (isBlock : body.isBlock = true) : ended body last = last := by
  cases body <;> first | rfl | cases isBlock

theorem Written.function {name : String} {params : List Tree}
    (ofParams : Written .parameters first params) (isName : isName name = true)
    (ofBody : Written .statement last [body]) (isBlock : body.isBlock = true) :
    Written .statement
      ([fixedLexeme .defWord] ++ [⟨.identifier, name⟩] ++ [fixedLexeme .openParen] ++ first
        ++ [fixedLexeme .closeParen] ++ last)
      [.function (.identifier name) params body] := by
  have ofBlock : Derives .block last [body] := by
    cases body with
    | block trees => exact derives_block ofBody.derives
    | _ => cases isBlock
  constructor
  · simpa using Derives.function (kind_fixedLexeme .defWord) (kind_fixedLexeme .openParen)
      ofParams.derives (kind_fixedLexeme .closeParen) ofBlock
  · simp (disch := decide) [ofParams.apart, ofBody.apart, Lexeme.standsAlone_fixed,
      Lexeme.standsAlone_isName isName]

theorem Written.returning {argument : Option Tree}
    (ofArgument : Written .optionalExpression first argument.toList) :
    Written .statement ([fixedLexeme .returnWord] ++ first ++ [fixedLexeme .semicolon])
      [.returning argument] := by
  constructor
  · simpa using Derives.returning (kind_fixedLexeme .returnWord) ofArgument.derives
      (kind_fixedLexeme .semicolon)
  · simp (disch := decide) [ofArgument.apart, Lexeme.standsAlone_fixed]

end Statements

mutual

/-- A statement is printed so that it is read back. -/
theorem written_statement : ∀ tree : Tree, tree.isStatement = true →
    tree.bindsNearest = true → tree.isIntegral = true →
      Written .statement (ended tree tree.lexemes) [tree]
  | .block body, fits, nearest, integral => by
      rw [Tree.lexemes]
      exact (written_statements body fits nearest integral).block
  | .empty, _, _, _ => by
      refine ⟨.emptyStatement rfl, ?_⟩
      simp (disch := decide) [ended, Tree.lexemes, Lexeme.standsAlone_fixed]
  | .expression inner, fits, _, integral => by
      rw [Tree.lexemes]
      exact (written_inside fits integral).expressionStatement
  | .declarations items, fits, _, integral => by
      rw [ended, Tree.lexemes]
      exact (written_let fits integral).declarationStatement
  | .conditional test consequent none, fits, nearest, integral => by
      simp only [isStatement, bindsNearest, Tree.isIntegral, Bool.and_eq_true]
        at fits nearest integral
      have ofTest := written_inside fits.1.1 integral.1.1
      have ofConsequent := written_statement consequent fits.1.2 nearest.1.2 integral.1.2
      rw [Tree.lexemes, alternateLexemes, List.append_nil]
      exact ofTest.conditional ofConsequent
  | .conditional test consequent (some alternate), fits, nearest, integral => by
      simp only [isStatement, bindsNearest, Tree.isIntegral, Bool.and_eq_true]
        at fits nearest integral
      have ofTest := written_inside fits.1.1 integral.1.1
      have ofConsequent := written_statement consequent fits.1.2 nearest.1.2 integral.1.2
      have ofAlternate := written_statement alternate fits.2 nearest.2 integral.2
      have closed : consequent.endsOpen = false := by simpa using nearest.1.1
      rw [Tree.lexemes, alternateLexemes]
      exact ofTest.conditionalElse ofConsequent closed ofAlternate
  | .whileLoop test body, fits, nearest, integral => by
      simp only [isStatement, Tree.isIntegral, Bool.and_eq_true] at fits integral
      have ofTest := written_inside fits.1 integral.1
      rw [Tree.lexemes]
      exact ofTest.whileLoop (written_statement body fits.2 nearest integral.2)
  | .doWhileLoop body test, fits, nearest, integral => by
      simp only [isStatement, Tree.isIntegral, Bool.and_eq_true] at fits integral
      have ofTest := written_inside fits.2 integral.2
      rw [Tree.lexemes]
      exact (written_statement body fits.1 nearest integral.1).doWhileLoop ofTest
  | .forLoop init test update body, fits, nearest, integral => by
      simp only [isStatement, Tree.isIntegral, Bool.and_eq_true] at fits integral
      have ofInit := written_loopStart fits.1.1.1 integral.1.1.1
      have ofTest := written_optional fits.1.1.2 integral.1.1.2
      have ofUpdate := written_optional fits.1.2 integral.1.2
      rw [Tree.lexemes]
      exact ofInit.forLoop ofTest ofUpdate (written_statement body fits.2 nearest integral.2)
  | .function name params body, fits, nearest, integral => by
      simp only [isStatement, Tree.isIntegral, Bool.and_eq_true] at fits integral
      rcases eq_identifier fits.1.1.1 with ⟨text, rfl, isName⟩
      have ofParams := written_parameters fits.1.1.2
      have ofBody := written_statement body fits.2 nearest integral.2
      rw [ended_of_isBlock fits.1.2] at ofBody
      rw [Tree.lexemes, Tree.lexemes]
      exact ofParams.function isName ofBody fits.1.2
  | .returning argument, fits, _, integral => by
      rw [Tree.lexemes]
      exact (written_optional fits integral).returning
  | .program _, fits, _, _ => by cases fits
  | .declaration _ _, fits, _, _ => by cases fits
  | .assignment _ _ _, fits, _, _ => by cases fits
  | .logical _ _ _, fits, _, _ => by cases fits
  | .binary _ _ _, fits, _, _ => by cases fits
  | .unary _ _, fits, _, _ => by cases fits
  | .member _ _ _, fits, _, _ => by cases fits
  | .identifier _, fits, _, _ => by cases fits
  | .number _, fits, _, _ => by cases fits
  | .string _, fits, _, _ => by cases fits
  | .boolean _, fits, _, _ => by cases fits
  | .null, fits, _, _ => by cases fits

/-- Several statements are printed so that they are read back. -/
theorem written_statements : ∀ trees : List Tree, areStatements trees = true →
    bindNearest trees = true → areIntegral trees = true →
      Written .statements (statementsLexemes trees) trees
  | [], _, _, _ => ⟨.noStatements, by simp [statementsLexemes]⟩
  | node :: others, fits, nearest, integral => by
      simp only [areStatements, bindNearest, areIntegral, Bool.and_eq_true]
        at fits nearest integral
      have ofFirst := written_statement node fits.1 nearest.1 integral.1
      have ofOthers := written_statements others fits.2 nearest.2 integral.2
      rw [statementsLexemes]
      exact ⟨.moreStatements ofFirst.derives ofOthers.derives,
        by simp [ofFirst.apart, ofOthers.apart]⟩

end

/-! ## Programs -/

/-- The lexemes of a program are found again in its text, and spell the program. -/
theorem written_program {tree : Tree} (fits : tree.isProgram = true)
    (nearest : tree.bindsNearest = true) (integral : tree.isIntegral = true) :
    Written .program tree.lexemes [tree] := by
  cases tree with
  | program body =>
      have ofBody := written_statements body fits nearest integral
      rw [Tree.lexemes]
      exact ⟨.program ofBody.derives, ofBody.apart⟩
  | _ => cases fits

/--
Parsing undoes printing: the text of a program whose parts fit, whose `else`s
belong to the nearest `if` and whose numbers are integers is read as that program.
-/
theorem Parser.parse_print {tree : Tree} (fits : tree.isProgram = true)
    (nearest : tree.bindsNearest = true) (integral : tree.isIntegral = true)
    (file : Option String) :
    parse tree.print file = .ok tree := by
  have written := written_program fits nearest integral
  rcases tokenize_spaced written.apart file with ⟨tokens, lexes, lexemes_eq⟩
  refine parse_eq_ok_iff.2 ⟨tokens, lexes, ?_⟩
  rw [lexemes_eq]
  exact written.derives

/-- Parentheses, an `else` and the choice of quotes are read back. -/
theorem Parser.parse_print_conditional :
    parse "if ( a ) \x7b \x7d else x = ( 1 + 2 ) * 'say \"hi\"' ;" none =
      .ok (Tree.program
        [.conditional (.identifier "a") (.block [])
          (some (.expression (.assignment "=" (.identifier "x")
            (.binary "*" (.binary "+" (.number (.integer 1)) (.number (.integer 2)))
              (.string "say \"hi\"")))))]) := by
  have printed : Tree.print (.program
      [.conditional (.identifier "a") (.block [])
        (some (.expression (.assignment "=" (.identifier "x")
          (.binary "*" (.binary "+" (.number (.integer 1)) (.number (.integer 2)))
            (.string "say \"hi\"")))))]) =
      "if ( a ) \x7b \x7d else x = ( 1 + 2 ) * 'say \"hi\"' ;" := by
    decide
  rw [← printed]
  exact Parser.parse_print (by decide) (by decide) (by decide) none

end Script
