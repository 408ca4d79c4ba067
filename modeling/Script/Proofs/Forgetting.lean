import Script.Proofs.Lockstep
import Script.Proofs.TreeShape
import Script.Tree.Normal

/-!
# What list expressions forget

Trees of all types become lists that are told apart by their heads and lengths alone.
Some trees become the same list: those with the same normal form, and no others.

That trees with one normal form have one list form is seen part by part.  For the
converse a list expression is read back into a tree.  The place where it stands says
whether it is a statement, an expression or what a loop starts with, and no operator is
spelled like the head of a statement.  So what is read back from the list form of a
tree is the normal form of that tree.
-/

namespace Script

open Script.Tree

/-! ## Reading list expressions back -/

namespace SExpr

/-- The expression that a list of a head and two operands stands for. -/
def applied (head : String) (left right : Tree) : Tree :=
  if head = "index" then .member true left right
  else if head = "prop" then .member false left right
  else if assignmentOperators.contains head then .assignment head left right
  else if logicalOperators.contains head then .logical head left right
  else .binary head left right

/-- The expression that a list expression stands for. -/
def asExpression : SExpr → Tree
  | .number value => .number value
  | .string value => .string value
  | .symbol name => .identifier name
  | .boolean value => .boolean value
  | .list [.symbol operator, argument] => .unary operator argument.asExpression
  | .list [.symbol head, left, right] => applied head left.asExpression right.asExpression
  | _ => .null

/-- The declaration that a list expression stands for. -/
def asDeclaration : SExpr → Tree
  | .list [_, id, init] => .declaration id.asExpression (some init.asExpression)
  | _ => .null

/-- What a list expression stands for at the start of a loop. -/
def asLoopStart : SExpr → Tree
  | .list [.symbol "begin", .list items] => .declarations (items.map asDeclaration)
  | .list [.symbol "var", id, init] =>
      .declarations [asDeclaration (.list [.symbol "var", id, init])]
  | other => other.asExpression

mutual

/-- The statement that a list expression stands for. -/
def asStatement : SExpr → Tree
  | .list [.symbol "begin", .list body] => .block (asStatements body)
  | .list [.symbol "var", id, init] =>
      .declarations [asDeclaration (.list [.symbol "var", id, init])]
  | .list [.symbol "if", test, consequent, alternate] =>
      .conditional test.asExpression consequent.asStatement (some alternate.asStatement)
  | .list [.symbol "while", test, body] => .whileLoop test.asExpression body.asStatement
  | .list [.symbol "do-while", body, test] => .doWhileLoop body.asStatement test.asExpression
  | .list [.symbol "for", init, test, update, body] =>
      .forLoop (some init.asLoopStart) (some test.asExpression) (some update.asExpression)
        body.asStatement
  | .list [.symbol "def", name, .list params, body] =>
      .function name.asExpression (params.map asExpression) body.asStatement
  | .list [.symbol "return", argument] => .returning (some argument.asExpression)
  | other => .expression other.asExpression

/-- The statements that list expressions stand for. -/
def asStatements : List SExpr → List Tree
  | [] => []
  | first :: others => first.asStatement :: asStatements others

end

/-- The heads of lists that stand for statements. -/
def statementHeads : List String :=
  ["begin", "var", "if", "while", "do-while", "for", "def", "return"]

/-- A list expression whose head is that of no statement. -/
def IsPlain (expression : SExpr) : Prop :=
  ∀ head, expression.head? = some head → head ∉ statementHeads

theorem asStatement_of_isPlain {expression : SExpr} (plain : expression.IsPlain) :
    expression.asStatement = .expression expression.asExpression := by
  unfold asStatement
  split <;> simp [IsPlain, head?, statementHeads] at plain
  rfl

theorem asLoopStart_of_isPlain {expression : SExpr} (plain : expression.IsPlain) :
    expression.asLoopStart = expression.asExpression := by
  unfold asLoopStart
  split <;> simp [IsPlain, head?, statementHeads] at plain
  rfl

end SExpr

open SExpr

theorem normals_eq_map (trees : List Tree) : normals trees = trees.map normal := by
  induction trees with
  | nil => rfl
  | cons first others inductionHypothesis =>
      rw [normals, inductionHypothesis, List.map_cons]

theorem asStatements_eq_map (items : List SExpr) : asStatements items = items.map asStatement := by
  induction items with
  | nil => rfl
  | cons first others inductionHypothesis =>
      rw [asStatements, inductionHypothesis, List.map_cons]

/-- Several list forms are read back if each one is. -/
theorem map_listForms (read : SExpr → Tree) (result : Tree → Tree) {check : Tree → Bool}
    (reads : ∀ node, check node = true → read node.listForm = result node.normal)
    {nodes : List Tree} (fit : nodes.all check = true) :
    (listForms nodes).map read = (normals nodes).map result := by
  rw [Parser.listForms_eq_map, normals_eq_map, List.map_map, List.map_map]
  apply List.map_congr_left
  intro node member
  exact reads node (List.all_eq_true.1 fit node member)

/-! ## Expressions and declarations -/

/-- An operator says of which type a node with two operands is. -/
theorem applied_operator (operator : String) (left right : Tree) :
    (operator ∈ assignmentOperators →
      applied operator left right = .assignment operator left right) ∧
    (operator ∈ logicalOperators →
      applied operator left right = .logical operator left right) ∧
    (operator ∈ binaryOperators →
      applied operator left right = .binary operator left right) := by
  have notMember : ∀ operator ∈ assignmentOperators ++ logicalOperators ++ binaryOperators,
      operator ≠ "index" ∧ operator ≠ "prop" := by decide
  have notAssignment : ∀ operator ∈ logicalOperators ++ binaryOperators,
      operator ∉ assignmentOperators := by decide
  have notLogical : ∀ operator ∈ binaryOperators, operator ∉ logicalOperators := by decide
  simp only [List.mem_append] at notMember notAssignment
  refine ⟨fun belongs => ?_, fun belongs => ?_, fun belongs => ?_⟩
  · simp [applied, notMember, belongs]
  · simp [applied, notMember, notAssignment, belongs]
  · simp [applied, notMember, notAssignment, notLogical, belongs]

theorem asExpression_name {node : Tree} (isName : node.isIdentifier = true) :
    node.listForm.asExpression = node.normal := by
  cases node <;> simp [isIdentifier] at isName
  rfl

/-- What is read back from the list form of an expression is its normal form. -/
theorem asExpression_listForm : ∀ tree : Tree, tree.isExpression = true →
    tree.listForm.asExpression = tree.normal
  | .assignment operator left right, fits => by
      simp only [isExpression, Bool.and_eq_true, List.contains_iff_mem] at fits
      rw [listForm, asExpression, asExpression_listForm left fits.1.2,
        asExpression_listForm right fits.2, (applied_operator _ _ _).1 fits.1.1.1, normal]
  | .logical operator left right, fits => by
      simp only [isExpression, Bool.and_eq_true, List.contains_iff_mem] at fits
      rw [listForm, asExpression, asExpression_listForm left fits.1.2,
        asExpression_listForm right fits.2, (applied_operator _ _ _).2.1 fits.1.1, normal]
  | .binary operator left right, fits => by
      simp only [isExpression, Bool.and_eq_true, List.contains_iff_mem] at fits
      rw [listForm, asExpression, asExpression_listForm left fits.1.2,
        asExpression_listForm right fits.2, (applied_operator _ _ _).2.2 fits.1.1, normal]
  | .unary operator argument, fits => by
      simp only [isExpression, Bool.and_eq_true] at fits
      rw [listForm, asExpression, asExpression_listForm argument fits.2, normal]
  | .member true object property, fits => by
      simp only [isExpression, Bool.and_eq_true] at fits
      rw [listForm, asExpression, asExpression_listForm object fits.1,
        asExpression_listForm property fits.2, normal]
      rfl
  | .member false object property, fits => by
      simp only [isExpression, Bool.and_eq_true] at fits
      rw [listForm, asExpression, asExpression_listForm object fits.1,
        asExpression_name fits.2, normal]
      rfl
  | .identifier _, _ => rfl
  | .number _, _ => rfl
  | .string _, _ => rfl
  | .boolean _, _ => rfl
  | .null, _ => rfl
  | .program _, fits => by cases fits
  | .block _, fits => by cases fits
  | .empty, fits => by cases fits
  | .expression _, fits => by cases fits
  | .declarations _, fits => by cases fits
  | .declaration _ _, fits => by cases fits
  | .conditional _ _ _, fits => by cases fits
  | .whileLoop _ _, fits => by cases fits
  | .doWhileLoop _ _, fits => by cases fits
  | .forLoop _ _ _ _, fits => by cases fits
  | .function _ _ _, fits => by cases fits
  | .returning _, fits => by cases fits

theorem asExpression_listFormOrNil {part : Option Tree}
    (fits : isOptionalExpression part = true) :
    (listFormOrNil part).asExpression = normalOr .null part := by
  cases part with
  | none => rfl
  | some node =>
      rw [listFormOrNil, normalOr]
      exact asExpression_listForm node fits

/-- The list form of a declaration is a list headed by `var`. -/
theorem listForm_of_isDeclaration {node : Tree} (fits : node.isDeclaration = true) :
    ∃ id init, node.listForm = .list [.symbol "var", id, init] ∧
      (SExpr.list [.symbol "var", id, init]).asDeclaration = node.normal := by
  cases node with
  | declaration id init =>
      rw [isDeclaration, Bool.and_eq_true] at fits
      refine ⟨_, _, by rw [listForm], ?_⟩
      rw [asDeclaration, asExpression_name fits.1, asExpression_listFormOrNil fits.2, normal]
  | _ => simp only [isDeclaration, Bool.false_eq_true] at fits

theorem asDeclaration_listForm {node : Tree} (fits : node.isDeclaration = true) :
    node.listForm.asDeclaration = node.normal := by
  rcases listForm_of_isDeclaration fits with ⟨id, init, isForm, reads⟩
  rw [isForm, reads]

/-- Several declarations make a sequence. -/
theorem listForm_several (first second : Tree) (others : List Tree) :
    (Tree.declarations (first :: second :: others)).listForm =
      .list [.symbol "begin", .list (listForms (first :: second :: others))] :=
  rfl

/-- No expression has a list form that is headed like that of a statement. -/
theorem isPlain_listForm {tree : Tree} (fits : tree.isExpression = true) :
    tree.listForm.IsPlain := by
  have plain : ∀ head ∈ assignmentOperators ++ logicalOperators ++ binaryOperators ++
      unaryOperators ++ ["index", "prop"], head ∉ statementHeads := by decide
  simp only [List.mem_append] at plain
  intro head heads
  apply plain
  cases tree with
  | assignment | logical | binary | unary =>
      simp only [isExpression, Bool.and_eq_true, List.contains_iff_mem] at fits
      cases heads
      simp [fits]
  | member computed => cases computed <;> cases heads <;> simp
  | identifier | number | string | boolean | null => cases heads
  | _ => cases fits

/-! ## Statements -/

theorem asStatement_of_isExpression {tree : Tree} (fits : tree.isExpression = true) :
    tree.listForm.asStatement = .expression tree.normal := by
  rw [asStatement_of_isPlain (isPlain_listForm fits), asExpression_listForm _ fits]

theorem asStatement_of_isDeclaration {node : Tree} (fits : node.isDeclaration = true) :
    node.listForm.asStatement = .declarations [node.normal] := by
  rcases listForm_of_isDeclaration fits with ⟨id, init, isForm, reads⟩
  rw [isForm, asStatement, reads]

theorem asStatement_declarations {items : List Tree} (fits : areDeclarations items = true) :
    (Tree.declarations items).listForm.asStatement = (Tree.declarations items).normal := by
  rw [areDeclarations, Bool.and_eq_true] at fits
  rcases items with _ | ⟨first, _ | ⟨second, others⟩⟩
  · cases fits.1
  · rw [List.all_cons, Bool.and_eq_true] at fits
    rw [listForm, asStatement_of_isDeclaration fits.2.1, normal]
    rfl
  · -- Each declaration is read back as a statement of its own.
    rw [listForm_several, asStatement, asStatements_eq_map,
      map_listForms asStatement (fun item => .declarations [item])
        (fun _ => asStatement_of_isDeclaration) fits.2, normal]
    rfl

/-- What a loop starts with is read back, and its declarations stay together. -/
theorem asLoopStart_listFormOrNil {part : Option Tree} (fits : isLoopStart part = true) :
    (listFormOrNil part).asLoopStart = normalStart part := by
  rcases part with _ | node
  · rfl
  cases node with
  | declarations items =>
      rw [isLoopStart, areDeclarations, Bool.and_eq_true] at fits
      rw [listFormOrNil, normalStart]
      rcases items with _ | ⟨first, _ | ⟨second, others⟩⟩
      · cases fits.1
      · rw [List.all_cons, Bool.and_eq_true] at fits
        rcases listForm_of_isDeclaration fits.2.1 with ⟨id, init, isForm, reads⟩
        rw [listForm, isForm, asLoopStart, reads, normals, normals]
      · have items_eq := map_listForms asDeclaration id (fun _ => asDeclaration_listForm) fits.2
        rw [listForm_several, asLoopStart, items_eq, List.map_id]
  | _ =>
      rw [listFormOrNil, asLoopStart_of_isPlain (isPlain_listForm fits),
        asExpression_listForm _ fits]
      simp [normalStart]

mutual

/-- What is read back from the list form of a statement is its normal form. -/
theorem asStatement_listForm : ∀ tree : Tree, tree.isStatement = true →
    tree.listForm.asStatement = tree.normal
  | .block body, fits => by
      rw [listForm, asStatement, asStatements_listForms body fits, normal]
  | .empty, _ => rfl
  | .expression inner, fits => by
      rw [listForm, asStatement_of_isExpression fits, normal]
  | .declarations items, fits => asStatement_declarations fits
  | .conditional test consequent alternate, fits => by
      simp only [isStatement, Bool.and_eq_true] at fits
      rw [listForm, asStatement, asExpression_listForm _ fits.1.1,
        asStatement_listForm consequent fits.1.2, asStatement_listFormOrNil alternate fits.2,
        normal]
  | .whileLoop test body, fits => by
      simp only [isStatement, Bool.and_eq_true] at fits
      rw [listForm, asStatement, asExpression_listForm _ fits.1, asStatement_listForm body fits.2,
        normal]
  | .doWhileLoop body test, fits => by
      simp only [isStatement, Bool.and_eq_true] at fits
      rw [listForm, asStatement, asStatement_listForm body fits.1, asExpression_listForm _ fits.2,
        normal]
  | .forLoop init test update body, fits => by
      simp only [isStatement, Bool.and_eq_true] at fits
      rw [listForm, asStatement, asLoopStart_listFormOrNil fits.1.1.1,
        asExpression_listFormOrNil fits.1.1.2, asExpression_listFormOrNil fits.1.2,
        asStatement_listForm body fits.2, normal]
  | .function name params body, fits => by
      simp only [isStatement, Bool.and_eq_true] at fits
      have params_eq := map_listForms asExpression id (fun _ => asExpression_name) fits.1.1.2
      rw [listForm, asStatement, asExpression_name fits.1.1.1, params_eq, List.map_id,
        asStatement_listForm body fits.2, normal]
  | .returning argument, fits => by
      rw [listForm, asStatement, asExpression_listFormOrNil fits, normal]
  | .program _, fits => by cases fits
  | .declaration _ _, fits => by cases fits
  | .assignment _ _ _, fits => by cases fits
  | .logical _ _ _, fits => by cases fits
  | .binary _ _ _, fits => by cases fits
  | .unary _ _, fits => by cases fits
  | .member _ _ _, fits => by cases fits
  | .identifier _, fits => by cases fits
  | .number _, fits => by cases fits
  | .string _, fits => by cases fits
  | .boolean _, fits => by cases fits
  | .null, fits => by cases fits

theorem asStatements_listForms : ∀ body : List Tree, areStatements body = true →
    asStatements (listForms body) = normals body
  | [], _ => rfl
  | first :: others, fits => by
      rw [areStatements, Bool.and_eq_true] at fits
      rw [listForms, asStatements, asStatement_listForm first fits.1,
        asStatements_listForms others fits.2, normals]

theorem asStatement_listFormOrNil : ∀ part : Option Tree, isOptionalStatement part = true →
    (listFormOrNil part).asStatement = normalOr nullStatement part
  | none, _ => rfl
  | some node, fits => asStatement_listForm node fits

end

/-! ## Trees of one normal form -/

theorem listForms_declarations (items : List Tree) :
    listForms (items.map fun item => .declarations [item]) = listForms items := by
  rw [Parser.listForms_eq_map, Parser.listForms_eq_map, List.map_map]
  rfl

/-- Declarations that stand alone or together have one list form. -/
theorem listForm_splitDeclarations (items : List Tree) :
    (splitDeclarations items).listForm = (Tree.declarations items).listForm := by
  rcases items with _ | ⟨first, _ | ⟨second, others⟩⟩
  · rfl
  · rfl
  · have split : splitDeclarations (first :: second :: others) =
        .block ((first :: second :: others).map fun item => .declarations [item]) := rfl
    rw [split, listForm, listForms_declarations, listForm_several]

/-- The list form of declarations is made of the list forms of each. -/
theorem listForm_declarations_congr {items others : List Tree}
    (same : listForms items = listForms others) :
    (Tree.declarations items).listForm = (Tree.declarations others).listForm := by
  have ofItems : _ = (Tree.declarations items).listForm := Parser.isListForm_declarations items
  have ofOthers : _ = (Tree.declarations others).listForm := Parser.isListForm_declarations others
  rw [Parser.listForms_eq_map, Parser.listForms_eq_map] at same
  rw [← ofItems, ← ofOthers, same]

mutual

/-- A tree has the list form of its normal form. -/
theorem listForm_normal : ∀ tree : Tree, tree.normal.listForm = tree.listForm
  | .program body => by rw [normal, listForm, listForms_normals body, listForm]
  | .block body => by rw [normal, listForm, listForms_normals body, listForm]
  | .empty => rfl
  | .expression inner => by rw [normal, listForm, listForm_normal inner, listForm]
  | .declarations items => by
      rw [normal, listForm_splitDeclarations]
      exact listForm_declarations_congr (listForms_normals items)
  | .declaration id init => by
      rw [normal, listForm, listForm_normal id, listFormOrNil, listForm_normalOr rfl init,
        listForm]
  | .conditional test consequent alternate => by
      rw [normal, listForm, listForm_normal test, listForm_normal consequent, listFormOrNil,
        listForm_normalOr rfl alternate, listForm]
  | .whileLoop test body => by
      rw [normal, listForm, listForm_normal test, listForm_normal body, listForm]
  | .doWhileLoop body test => by
      rw [normal, listForm, listForm_normal test, listForm_normal body, listForm]
  | .forLoop init test update body => by
      rw [normal, listForm, listFormOrNil, listForm_normalStart init, listFormOrNil,
        listForm_normalOr rfl test, listFormOrNil, listForm_normalOr rfl update,
        listForm_normal body, listForm]
  | .function name params body => by
      rw [normal, listForm, listForm_normal name, listForms_normals params,
        listForm_normal body, listForm]
  | .returning argument => by
      rw [normal, listForm, listFormOrNil, listForm_normalOr rfl argument, listForm]
  | .assignment operator left right => by
      rw [normal, listForm, listForm_normal left, listForm_normal right, listForm]
  | .logical operator left right => by
      rw [normal, listForm, listForm_normal left, listForm_normal right, listForm]
  | .binary operator left right => by
      rw [normal, listForm, listForm_normal left, listForm_normal right, listForm]
  | .unary operator argument => by rw [normal, listForm, listForm_normal argument, listForm]
  | .member true object property => by
      rw [normal, listForm, listForm_normal object, listForm_normal property, listForm]
  | .member false object property => by
      rw [normal, listForm, listForm_normal object, listForm_normal property, listForm]
  | .identifier _ => rfl
  | .number _ => rfl
  | .string _ => rfl
  | .boolean _ => rfl
  | .null => rfl

theorem listForms_normals : ∀ trees : List Tree, listForms (normals trees) = listForms trees
  | [] => rfl
  | first :: others => by
      rw [normals, listForms, listForm_normal first, listForms_normals others, listForms]

theorem listForm_normalOr {absent : Tree} (isNil : absent.listForm = .nil) :
    ∀ part : Option Tree, (normalOr absent part).listForm = listFormOrNil part
  | none => isNil
  | some node => listForm_normal node

theorem listForm_normalStart : ∀ part : Option Tree,
    (normalStart part).listForm = listFormOrNil part
  | none => rfl
  | some node => by
      have whole := listForm_normal node
      cases node with
      | declarations items =>
          rw [normal, listForm_splitDeclarations] at whole
          exact whole
      | _ => exact whole

end

/-- Programs have one list form exactly where they have one normal form. -/
theorem listForm_eq_iff_normal_eq {first second : Tree} (ofFirst : first.isProgram = true)
    (ofSecond : second.isProgram = true) :
    first.listForm = second.listForm ↔ first.normal = second.normal := by
  constructor
  · intro same
    cases first with
    | program firstBody =>
        cases second with
        | program secondBody =>
            simp only [listForm, SExpr.list.injEq, List.cons.injEq, and_true, true_and] at same
            have bodies_eq : normals firstBody = normals secondBody := by
              rw [← asStatements_listForms firstBody ofFirst, same,
                asStatements_listForms secondBody ofSecond]
            rw [normal, normal, bodies_eq]
        | _ => cases ofSecond
    | _ => cases ofFirst
  · intro same
    rw [← listForm_normal first, ← listForm_normal second, same]

namespace Parser

/-- A source that is accepted as a tree is accepted as the list form of that tree. -/
theorem parse_listForm {source : String} {file : Option String} {tree : Tree}
    (accepts : parse source file = .ok tree) : parse source file = .ok tree.listForm := by
  have genuine : (State.initial file).Genuine := State.genuine_of_none rfl
  have answers := (parseFrom_agrees genuine source).answers
  unfold parse at accepts ⊢
  rw [accepts] at answers
  cases list : (parseFrom (State.initial file) source : Outcome SExpr).answer with
  | error diagnostic =>
      rw [list] at answers
      cases answers
  | ok expression =>
      rw [list] at answers
      cases answers with
      | ok isListForm => rw [isListForm]

/--
What list expressions forget, exactly: two accepted sources are read into the same list
expression if and only if their trees have the same normal form.
-/
theorem same_list_iff_same_normal {firstSource secondSource : String}
    {firstFile secondFile : Option String} {first second : Tree}
    (acceptsFirst : parse firstSource firstFile = .ok first)
    (acceptsSecond : parse secondSource secondFile = .ok second) :
    ∃ firstList secondList : SExpr,
      parse firstSource firstFile = .ok firstList ∧
        parse secondSource secondFile = .ok secondList ∧
          (firstList = secondList ↔ first.normal = second.normal) :=
  ⟨first.listForm, second.listForm, parse_listForm acceptsFirst, parse_listForm acceptsSecond,
    listForm_eq_iff_normal_eq (isProgram_of_parse acceptsFirst)
      (isProgram_of_parse acceptsSecond)⟩

/--
Whether empty statements, absent parts and single declarations are written out is
forgotten; whether a sign stands before a name or before a difference is not.
-/
theorem absent_parts_forgotten :
    (∃ list : SExpr, parse "if (x) ; let a, b; return;" none = .ok list ∧
      parse "if (x) null; else ; \x7b let a = null; let b; \x7d return null;" none =
        .ok list) ∧
    ∃ first second : SExpr, parse "-x - y;" none = .ok first ∧
      parse "-(x - y);" none = .ok second ∧ first ≠ second := by
  constructor
  · have left : parse "if (x) ; let a, b; return;" none = .ok (Tree.program
        [.conditional (.identifier "x") .empty none,
          .declarations [.declaration (.identifier "a") none,
            .declaration (.identifier "b") none],
          .returning none]) := by
      decide +kernel
    have right : parse "if (x) null; else ; \x7b let a = null; let b; \x7d return null;" none =
        .ok (Tree.program
          [.conditional (.identifier "x") (.expression .null) (some .empty),
            .block [.declarations [.declaration (.identifier "a") (some .null)],
              .declarations [.declaration (.identifier "b") none]],
            .returning (some .null)]) := by
      decide +kernel
    rcases same_list_iff_same_normal left right with
      ⟨list, other, acceptsLeft, acceptsRight, agree⟩
    rw [← agree.2 (by decide)] at acceptsRight
    exact ⟨list, acceptsLeft, acceptsRight⟩
  · have left : parse "-x - y;" none = .ok (Tree.program [.expression
        (.binary "-" (.unary "-" (.identifier "x")) (.identifier "y"))]) := by
      decide +kernel
    have right : parse "-(x - y);" none = .ok (Tree.program [.expression
        (.unary "-" (.binary "-" (.identifier "x") (.identifier "y")))]) := by
      decide +kernel
    rcases same_list_iff_same_normal left right with
      ⟨first, second, acceptsLeft, acceptsRight, agree⟩
    refine ⟨first, second, acceptsLeft, acceptsRight, ?_⟩
    intro same
    exact absurd (agree.1 same) (by decide)

end Parser

end Script
