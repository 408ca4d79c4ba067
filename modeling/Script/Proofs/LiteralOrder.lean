import Script.Output
import Script.Proofs.Forgetting
import Script.Proofs.LexicalFailure

/-!
# The numbers of a program

Every number token of an accepted source is one literal of the program.  Trees, list
expressions and JSON values keep the literals in the order of the source: listing the
numbers of any of the three gives the values of the number tokens, one after the other.

It is proved of trees by one induction over derivations, and of what is made of a tree
by going down the tree.
-/

namespace Script

/-! ## Listing numbers -/

namespace Tree

mutual

/-- The numbers of a tree, from left to right. -/
@[simp]
def numerals : Tree → List Numeral
  | .program body => numeralsOf body
  | .block body => numeralsOf body
  | .empty => []
  | .expression inner => numerals inner
  | .declarations items => numeralsOf items
  | .declaration id init => numerals id ++ numeralsOption init
  | .conditional test consequent alternate =>
      numerals test ++ numerals consequent ++ numeralsOption alternate
  | .whileLoop test body => numerals test ++ numerals body
  | .doWhileLoop body test => numerals body ++ numerals test
  | .forLoop init test update body =>
      numeralsOption init ++ numeralsOption test ++ numeralsOption update ++ numerals body
  | .function name params body => numerals name ++ numeralsOf params ++ numerals body
  | .returning argument => numeralsOption argument
  | .assignment _ left right => numerals left ++ numerals right
  | .logical _ left right => numerals left ++ numerals right
  | .binary _ left right => numerals left ++ numerals right
  | .unary _ argument => numerals argument
  | .member _ object property => numerals object ++ numerals property
  | .number value => [value]
  | .identifier _ | .string _ | .boolean _ | .null => []

/-- The numbers of several trees. -/
@[simp]
def numeralsOf : List Tree → List Numeral
  | [] => []
  | node :: others => numerals node ++ numeralsOf others

/-- The numbers of a part that may be absent. -/
@[simp]
def numeralsOption : Option Tree → List Numeral
  | none => []
  | some node => numerals node

end

end Tree

namespace SExpr

mutual

/-- The numbers of a list expression, from left to right. -/
@[simp]
def numerals : SExpr → List Numeral
  | .number value => [value]
  | .list items => numeralsOf items
  | .string _ | .symbol _ | .boolean _ | .nil => []

/-- The numbers of several list expressions. -/
@[simp]
def numeralsOf : List SExpr → List Numeral
  | [] => []
  | item :: others => numerals item ++ numeralsOf others

end

end SExpr

namespace Json

mutual

/-- The numbers of a JSON value, from left to right. -/
@[simp]
def numerals : Json → List Numeral
  | .number value => [value]
  | .array elements => numeralsOfElements elements
  | .object fields => numeralsOfFields fields
  | .null | .boolean _ | .string _ => []

/-- The numbers of several JSON values. -/
@[simp]
def numeralsOfElements : List Json → List Numeral
  | [] => []
  | element :: others => numerals element ++ numeralsOfElements others

/-- The numbers of several fields. -/
@[simp]
def numeralsOfFields : List (String × Json) → List Numeral
  | [] => []
  | (_, value) :: others => numerals value ++ numeralsOfFields others

end

end Json

/-- The value of a number among the lexemes. -/
def Lexeme.numeral? (lexeme : Lexeme) : Option Numeral :=
  if lexeme.kind = .number then (Numeral.read lexeme.text).toOption else none

/-! ## What is made of a tree keeps its numbers -/

mutual

/-- A list form has the numbers of its tree. -/
theorem numerals_listForm : ∀ tree : Tree, tree.listForm.numerals = tree.numerals
  | .program body | .block body => by
      simp [Tree.listForm, numerals_listForms body]
  | .empty | .identifier _ | .number _ | .string _ | .boolean _ | .null => rfl
  | .expression inner => numerals_listForm inner
  | .declarations items => by
      have ofItems := numerals_listForms items
      rcases items with _ | ⟨first, _ | ⟨second, others⟩⟩
      · rfl
      · simpa [Tree.listForm, Tree.listForms] using ofItems
      · simpa [listForm_several] using ofItems
  | .declaration id init => by
      simp [Tree.listForm, numerals_listForm id, numerals_listFormOrNil init]
  | .conditional test consequent alternate => by
      simp [Tree.listForm, numerals_listForm test, numerals_listForm consequent,
        numerals_listFormOrNil alternate]
  | .whileLoop first second | .doWhileLoop first second
  | .assignment _ first second | .logical _ first second | .binary _ first second
  | .member true first second | .member false first second => by
      simp [Tree.listForm, numerals_listForm first, numerals_listForm second]
  | .forLoop init test update body => by
      simp [Tree.listForm, numerals_listFormOrNil init, numerals_listFormOrNil test,
        numerals_listFormOrNil update, numerals_listForm body]
  | .function name params body => by
      simp [Tree.listForm, numerals_listForm name, numerals_listForms params,
        numerals_listForm body]
  | .returning argument => by
      simp [Tree.listForm, numerals_listFormOrNil argument]
  | .unary _ argument => by
      simp [Tree.listForm, numerals_listForm argument]

theorem numerals_listForms : ∀ trees : List Tree,
    SExpr.numeralsOf (Tree.listForms trees) = Tree.numeralsOf trees
  | [] => rfl
  | node :: others => by
      simp [Tree.listForms, numerals_listForm node, numerals_listForms others]

theorem numerals_listFormOrNil : ∀ part : Option Tree,
    (Tree.listFormOrNil part).numerals = Tree.numeralsOption part
  | none => rfl
  | some node => numerals_listForm node

end

mutual

/-- The JSON value of a list expression has its numbers. -/
theorem SExpr.numerals_toJson : ∀ expression : SExpr,
    expression.toJson.numerals = expression.numerals
  | .number _ | .string _ | .symbol _ | .boolean _ | .nil => rfl
  | .list items => SExpr.numerals_listToJson items

theorem SExpr.numerals_listToJson : ∀ items : List SExpr,
    Json.numeralsOfElements (SExpr.listToJson items) = SExpr.numeralsOf items
  | [] => rfl
  | item :: others => by
      simp [SExpr.listToJson, SExpr.numerals_toJson item, SExpr.numerals_listToJson others]

end

mutual

/-- The JSON value of a tree has its numbers. -/
theorem Tree.numerals_toJson : ∀ tree : Tree, tree.toJson.numerals = tree.numerals
  | .program items | .block items | .declarations items => by
      simp [Tree.toJson, Tree.numerals_listToJson items]
  | .empty | .identifier _ | .number _ | .string _ | .boolean _ | .null => rfl
  | .expression inner | .unary _ inner => by
      simp [Tree.toJson, Tree.numerals_toJson inner]
  | .declaration id init => by
      simp [Tree.toJson, Tree.numerals_toJson id, Tree.numerals_optionToJson init]
  | .conditional test consequent alternate => by
      simp [Tree.toJson, Tree.numerals_toJson test, Tree.numerals_toJson consequent,
        Tree.numerals_optionToJson alternate]
  | .whileLoop first second | .doWhileLoop first second
  | .assignment _ first second | .logical _ first second | .binary _ first second
  | .member _ first second => by
      simp [Tree.toJson, Tree.numerals_toJson first, Tree.numerals_toJson second]
  | .forLoop init test update body => by
      simp [Tree.toJson, Tree.numerals_optionToJson init, Tree.numerals_optionToJson test,
        Tree.numerals_optionToJson update, Tree.numerals_toJson body]
  | .function name params body => by
      simp [Tree.toJson, Tree.numerals_toJson name, Tree.numerals_listToJson params,
        Tree.numerals_toJson body]
  | .returning argument => by
      simp [Tree.toJson, Tree.numerals_optionToJson argument]

theorem Tree.numerals_listToJson : ∀ trees : List Tree,
    Json.numeralsOfElements (Tree.listToJson trees) = Tree.numeralsOf trees
  | [] => rfl
  | node :: others => by
      simp [Tree.listToJson, Tree.numerals_toJson node, Tree.numerals_listToJson others]

theorem Tree.numerals_optionToJson : ∀ part : Option Tree,
    (Tree.optionToJson part).numerals = Tree.numeralsOption part
  | none => rfl
  | some node => Tree.numerals_toJson node

end

/-! ## The numbers of a derivation -/

namespace Grammar

theorem numeral?_eq_none {lexeme : Lexeme} (other : lexeme.kind ≠ .number) :
    lexeme.numeral? = none :=
  if_neg other

theorem numerals_binaryTree (level : Level) (operator : String) (left right : Tree) :
    (binaryTree level operator left right).numerals = left.numerals ++ right.numerals := by
  unfold binaryTree
  split <;> rfl

/-- A part that may be absent is derived as one tree or as none. -/
theorem numeralsOption_head? {category : Category} {lexemes : List Lexeme} {trees : List Tree}
    (derives : Derives category lexemes trees)
    (optional : category = .loopStart ∨ category = .optionalExpression) :
    Tree.numeralsOption trees.head? = Tree.numeralsOf trees := by
  induction derives with
  | noExpression => rfl
  | someExpression | startDeclarations => simp
  | startExpression _ ofExpression => exact ofExpression (.inr rfl)
  | _ => simp at optional

/-- The trees that lexemes derive have the numbers among the lexemes, in their order. -/
theorem numerals_of_derives {category : Category} {lexemes : List Lexeme} {trees : List Tree}
    (derives : Derives category lexemes trees) :
    Tree.numeralsOf trees = lexemes.filterMap Lexeme.numeral? := by
  induction derives with
  -- A number is the only lexeme that leaves one.
  | literal literal =>
      cases literal with
      | number reads => simp [Lexeme.numeral?, reads, Except.toOption]
      | _ => simp [numeral?_eq_none]
  | @unaryOperator operator _ _ operates =>
      have noNumber : operator.kind ≠ .number := by
        intro isNumber
        simp [isNumber, Kind.isUnary] at operates
      simp_all [numeral?_eq_none]
  | @assignment operator _ _ _ _ _ _ operates =>
      have noNumber : operator.kind ≠ .number := by
        intro isNumber
        simp [isNumber, Kind.isAssignment] at operates
      simp_all [numeral?_eq_none]
  | @binaryOperator level operator _ _ _ _ _ operates =>
      have noNumber : operator.kind ≠ .number := by
        rw [operates]
        cases level <;> decide
      simp_all [numeral?_eq_none, numerals_binaryTree]
  -- Clauses that may be absent are listed as they are derived.
  | forLoop _ _ ofInit _ ofTest _ ofUpdate =>
      simp_all [numeral?_eq_none, numeralsOption_head? ofInit, numeralsOption_head? ofTest,
        numeralsOption_head? ofUpdate]
  | returning _ ofArgument => simp_all [numeral?_eq_none, numeralsOption_head? ofArgument]
  -- Everywhere else the numbers of the parts come one after the other.
  | name | oneName | bareDeclaration => simp [numeral?_eq_none]
  | _ => simp_all [numeral?_eq_none]

end Grammar

/-! ## The numbers of an accepted source -/

/-- What a parser of a mode makes of a source that has a tree. -/
def Mode.outputOf : Mode → Tree → Output
  | .tree, root => .tree root
  | .list, root => .list root.listForm

/-- A source that has a tree is accepted in either mode. -/
theorem parse_eq_outputOf {source : String} {file : Option String} {tree : Tree}
    (accepts : Parser.parse source file = .ok tree) (mode : Mode) :
    parse mode source file = .ok (mode.outputOf tree) := by
  cases mode with
  | tree => exact congrArg (Except.map Output.tree) accepts
  | list => exact congrArg (Except.map Output.list) (Parser.parse_listForm accepts)

/-- Both modes accept the same sources; in list mode the answer is the list form of the tree. -/
theorem exists_tree_of_parse {mode : Mode} {source : String} {file : Option String}
    {output : Output} (accepts : parse mode source file = .ok output) :
    ∃ tree, Parser.parse source file = .ok tree ∧ output = mode.outputOf tree := by
  have agree := Parser.parse_agrees_with_tree mode source file
  rw [accepts] at agree
  cases answer : (Parser.parse source file : Except Diagnostic Tree) with
  | error diagnostic =>
      rw [answer] at agree
      cases agree
  | ok root =>
      have gives := accepts.symm.trans (parse_eq_outputOf answer mode)
      exact ⟨root, rfl, Except.ok.inj gives⟩

/-- The number that the digits of a number token stand for. -/
def Token.value (token : Token) : Nat :=
  Decimal.digitsValue token.text.toList

/-- The number tokens among several tokens. -/
def numberTokens (tokens : List Token) : List Token :=
  tokens.filter fun token => token.kind = .number

/-- Every number token of a source is below a bound. -/
def NumbersBelow (bound : Nat) (source : String) (file : Option String) : Prop :=
  ∀ tokens, tokenize source file = .ok tokens →
    ∀ token ∈ numberTokens tokens, token.value < bound

/-- The number tokens of a source can be looked at one by one. -/
theorem numbersBelow_of_all {bound : Nat} {source : String} {file : Option String}
    (below : ((tokenize source file).toOption.all fun tokens =>
      (numberTokens tokens).all fun token => token.value < bound) = true) :
    NumbersBelow bound source file := by
  intro tokens lexes
  simpa [lexes, Except.toOption] using below

/-- Number tokens that are spelled in digits have the values that their digits stand for. -/
theorem filterMap_numeral? {tokens : List Token}
    (spelled : ∀ token ∈ tokens, token.kind.Spells token.text.toList) :
    (tokens.map Token.lexeme).filterMap Lexeme.numeral? =
      (numberTokens tokens).map fun token => Numeral.ofNat token.value := by
  induction tokens with
  | nil => rfl
  | cons token others inductionHypothesis =>
      rw [List.forall_mem_cons] at spelled
      rcases spelled with ⟨ofToken, ofOthers⟩
      have behind := inductionHypothesis ofOthers
      rw [numberTokens] at behind ⊢
      by_cases isNumber : token.kind = .number
      · rw [isNumber] at ofToken
        have reads : token.lexeme.numeral? = some (Numeral.ofNat token.value) := by
          have read := Numeral.read_of_spells ofToken
          simp [Lexeme.numeral?, Token.lexeme, Token.value, isNumber, read, Except.toOption]
        rw [List.map_cons, List.filterMap_cons_some reads, behind,
          List.filter_cons_of_pos (by simp [isNumber]), List.map_cons]
      · rw [List.map_cons, List.filterMap_cons_none (Grammar.numeral?_eq_none isNumber), behind,
          List.filter_cons_of_neg (by simp [isNumber])]

/-- The numbers that are written are the values of the number tokens, in their order. -/
theorem numerals_of_parse {mode : Mode} {source : String} {file : Option String}
    {output : Output} (accepts : parse mode source file = .ok output) :
    ∃ tokens, tokenize source file = .ok tokens ∧
      output.toJson.numerals =
        (numberTokens tokens).map fun token => Numeral.ofNat token.value := by
  rcases exists_tree_of_parse accepts with ⟨tree, acceptsTree, rfl⟩
  rcases Parser.parse_eq_ok_iff.1 acceptsTree with ⟨tokens, lexes, derives⟩
  have ofText := tokenize_iff_lexes.1 ⟨tokens, lexes, rfl⟩
  have ofTokens := filterMap_numeral? fun token member =>
    ofText.spells token.lexeme (List.mem_map_of_mem member)
  have ofTree := Grammar.numerals_of_derives derives
  refine ⟨tokens, lexes, ?_⟩
  rw [← ofTokens, ← ofTree]
  cases mode with
  | tree => simp [Mode.outputOf, Output.toJson, Tree.numerals_toJson]
  | list => simp [Mode.outputOf, Output.toJson, SExpr.numerals_toJson, numerals_listForm]

end Script
