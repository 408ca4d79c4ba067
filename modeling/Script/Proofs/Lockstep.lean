import Script.Output
import Script.Proofs.Pending
import Script.Tree.ListForm

/-!
# The two modes go in step

A parser that builds trees and one that builds list expressions, asked for the
same things, take the same tokens, stop at the same places and give answers that
correspond: the list expression is the list form of the tree.

What is built decides in one place how parsing goes on: only some nodes may be
assigned to.  The two builders decide alike because no operator is spelled like
the head of a member access.  So each expression carries, beside its list form,
the agreement on whether it may be assigned to.
-/

namespace Script.Parser

variable {α β γ δ : Type} {bound final : Nat}

/-- The same diagnostic, but for the text of the target of an assignment. -/
def AgreeUpToTarget (first second : Diagnostic) : Prop :=
  first.position = second.position ∧
    (first.cause = second.cause ∨
      ∃ target other,
        first.cause = .invalidAssignmentTarget target ∧
          second.cause = .invalidAssignmentTarget other)

theorem AgreeUpToTarget.refl (diagnostic : Diagnostic) : AgreeUpToTarget diagnostic diagnostic :=
  ⟨rfl, .inl rfl⟩

/-- Two replies that leave one state, with values that correspond or with one diagnostic. -/
inductive InStep (Corresponds : α → β → Prop) : Reply α bound → Reply β bound → Prop where
  | ok {first : α} {second : β} {next : State} {lighter : next.weight < bound}
      (genuine : next.Genuine) (corresponds : Corresponds first second) :
      InStep Corresponds (.ok first next lighter) (.ok second next lighter)
  | fail {first second : Diagnostic} {next : State}
      (genuine : next.Genuine) (agree : AgreeUpToTarget first second) :
      InStep Corresponds (.fail first next) (.fail second next)

/-! ## Putting productions together -/

section Composition

variable {Before : α → β → Prop} {After : γ → δ → Prop}
  {first : Reply α bound} {second : Reply β bound}

theorem InStep.andThen
    {firstThen : (value : α) → (next : State) → next.weight < bound → Reply γ final}
    {secondThen : (value : β) → (next : State) → next.weight < bound → Reply δ final}
    (front : InStep Before first second)
    (back : ∀ value other next lighter, next.Genuine → Before value other →
      InStep After (firstThen value next lighter) (secondThen other next lighter)) :
    InStep After (first.andThen firstThen) (second.andThen secondThen) := by
  cases front with
  | ok genuine corresponds => exact back _ _ _ _ genuine corresponds
  | fail genuine agree => exact .fail genuine agree

theorem InStep.after {state : State} {first : Reply α state.weight}
    {second : Reply β state.weight} {moved : state.weight < final}
    (inStep : InStep Before first second) :
    InStep Before (first.after moved) (second.after moved) := by
  cases inStep with
  | ok genuine corresponds => exact .ok genuine corresponds
  | fail genuine agree => exact .fail genuine agree

theorem InStep.map {change : α → γ} {changeOther : β → δ} (inStep : InStep Before first second)
    (changes : ∀ value other, Before value other → After (change value) (changeOther other)) :
    InStep After (first.map change) (second.map changeOther) := by
  cases inStep with
  | ok genuine corresponds => exact .ok genuine (changes _ _ corresponds)
  | fail genuine agree => exact .fail genuine agree

theorem InStep.weaken {Wider : α → β → Prop} (inStep : InStep Before first second)
    (widens : ∀ value other, Before value other → Wider value other) :
    InStep Wider first second := by
  cases inStep with
  | ok genuine corresponds => exact .ok genuine (widens _ _ corresponds)
  | fail genuine agree => exact .fail genuine agree

end Composition

/-! ## Tokens -/

/-- One token of a kind, as the lexer made it. -/
def SameToken (kind : Kind) (token other : Token) : Prop :=
  token = other ∧ token.kind = kind ∧ token.Spelled

section Tokens

variable {state : State} {kind : Kind}

theorem advance_inStep (genuine : state.Genuine) (held : state.kind? = some kind) :
    InStep (SameToken kind) state.advance state.advance := by
  rcases Option.map_eq_some_iff.1 held with ⟨token, looked, isKind⟩
  rcases State.takes_or_starves looked with ⟨next, takes⟩ | ⟨diagnostic, next, starves⟩
  · have after := takes.genuine
    rcases takes with ⟨lighter, equation⟩
    rw [equation]
    exact .ok after ⟨rfl, isKind, genuine token looked⟩
  · rw [starves.fails]
    exact .fail (State.genuine_of_none starves.emptied) (.refl diagnostic)

theorem advance_inStep_of_genuine (genuine : state.Genuine) :
    InStep Eq state.advance state.advance := by
  cases held : state.lookahead with
  | none =>
      rw [State.advance_of_none held]
      exact .fail genuine (.refl _)
  | some token =>
      have looks : state.kind? = some token.kind := by rw [State.kind?, held]; rfl
      exact (advance_inStep genuine looks).weaken fun _ _ same => same.1

theorem expect_inStep (genuine : state.Genuine) :
    InStep (SameToken kind) (state.expect kind) (state.expect kind) := by
  unfold State.expect
  split
  next => exact .fail genuine (.refl _)
  next token held =>
    split
    next same =>
      exact advance_inStep genuine (by rw [State.kind?, held, ← same]; rfl)
    next => exact .fail genuine (.refl _)

theorem unexpected_inStep {Corresponds : α → β → Prop} {expected : String}
    (genuine : state.Genuine) :
    InStep Corresponds (state.unexpected expected : Reply α bound)
      (state.unexpected expected : Reply β bound) := by
  unfold State.unexpected
  split <;> exact .fail genuine (.refl _)

end Tokens

/-! ## Nodes that correspond -/

/-- A list expression is the list form of a tree. -/
def IsListForm (tree : Tree) (list : SExpr) : Prop :=
  list = tree.listForm

/-- A list expression is the list form of a tree, and may be assigned to like it. -/
structure Mirrors (tree : Tree) (list : SExpr) : Prop where
  isListForm : list = tree.listForm
  isAssignable_eq : list.isAssignable = tree.isAssignable

/-- List expressions are the list forms of trees. -/
def AreListForms (trees : List Tree) (lists : List SExpr) : Prop :=
  lists = trees.map Tree.listForm

/-- A part is absent from both modes, or its list expression is the list form of its tree. -/
def IsListFormOption (tree : Option Tree) (list : Option SExpr) : Prop :=
  list = tree.map Tree.listForm

theorem listForms_eq_map (trees : List Tree) : Tree.listForms trees = trees.map Tree.listForm := by
  induction trees with
  | nil => rfl
  | cons first others inductionHypothesis =>
      rw [Tree.listForms, inductionHypothesis, List.map_cons]

/-- No token of a fixed text is spelled like the head of a member access. -/
theorem text_ne_member {token : Token} (spelled : token.Spelled)
    (short : token.kind.isShort = true) :
    token.text ≠ "prop" ∧ token.text ≠ "index" := by
  have member := (Kind.spells_iff_of_isShort short _).1 spelled
  rw [String.ofList_toList] at member
  have apart : ∀ text ∈ token.kind.texts, text ≠ "prop" ∧ text ≠ "index" := by
    cases token.kind <;> decide
  exact apart _ member

/-- A list headed by the text of an operator may not be assigned to. -/
theorem isAssignable_form {token : Token} (spelled : token.Spelled)
    (short : token.kind.isShort = true) (items : List SExpr) :
    (SExpr.form token.text items).isAssignable = false := by
  rcases text_ne_member spelled short with ⟨notProp, notIndex⟩
  unfold SExpr.form SExpr.isAssignable
  split
  next equation => cases equation
  next equation => simp_all
  next => rfl

/-- The node of an operator mirrors that of the other mode. -/
theorem mirrors_operator {token : Token} {tree left right : Tree} {list : SExpr}
    (spelled : token.Spelled) (short : token.kind.isShort = true)
    (isList : list = SExpr.form token.text [left.listForm, right.listForm])
    (isForm : tree.listForm = SExpr.form token.text [left.listForm, right.listForm])
    (notAssignable : tree.isAssignable = false) :
    Mirrors tree list := by
  refine ⟨isList.trans isForm.symm, ?_⟩
  rw [isList, isAssignable_form spelled short, notAssignable]

/-! ## Expressions -/

section Expressions

theorem identifier_inStep (state : State) (genuine : state.Genuine) :
    InStep Mirrors (identifier state) (identifier state) := by
  unfold identifier
  apply (expect_inStep genuine).map
  rintro token _ ⟨rfl, _⟩
  exact ⟨rfl, rfl⟩

theorem literal_inStep (state : State) (genuine : state.Genuine) :
    InStep Mirrors (literal state) (literal state) := by
  unfold literal
  split
  next held =>
    apply (advance_inStep genuine held).andThen
    rintro token _ next _ genuine ⟨rfl, _⟩
    split
    next => exact .ok genuine ⟨rfl, rfl⟩
    next => exact .fail genuine (.refl _)
  next held =>
    apply (advance_inStep genuine held).map
    rintro token _ ⟨rfl, _⟩
    exact ⟨rfl, rfl⟩
  next held => exact (advance_inStep genuine held).map fun _ _ _ => ⟨rfl, rfl⟩
  next held => exact (advance_inStep genuine held).map fun _ _ _ => ⟨rfl, rfl⟩
  next held => exact (advance_inStep genuine held).map fun _ _ _ => ⟨rfl, rfl⟩
  next => exact unexpected_inStep genuine

/-- Expressions are read in step. -/
def ExpressionInStep (state : State) : Prop :=
  state.Genuine → InStep Mirrors (assignment state) (assignment state)

theorem grouping_inStep (state : State) (ofInner : state.Later ExpressionInStep)
    (genuine : state.Genuine) :
    InStep Mirrors (grouping state) (grouping state) := by
  rw [grouping, grouping]
  apply (expect_inStep genuine).andThen
  rintro _ _ afterOpen opened genuine _
  apply (ofInner afterOpen opened genuine).after.andThen
  rintro inner innerList afterInner _ genuine mirrors
  apply (expect_inStep genuine).after.andThen
  rintro _ _ afterClose _ genuine _
  exact .ok genuine mirrors

theorem primary_inStep (state : State)
    (ofGrouping : state.Genuine → InStep Mirrors (grouping state) (grouping state))
    (genuine : state.Genuine) :
    InStep Mirrors (primary state) (primary state) := by
  unfold primary
  split
  next => exact ofGrouping genuine
  next => exact identifier_inStep state genuine
  next =>
    split
    next => exact literal_inStep state genuine
    next => exact unexpected_inStep genuine
  next => exact unexpected_inStep genuine

/-- The accesses that follow an object are read in step. -/
def MemberRestInStep (state : State) : Prop :=
  ∀ (object : Tree) (objectList : SExpr) (bound : Nat) (moved : state.weight < bound),
    state.Genuine → Mirrors object objectList →
      InStep Mirrors (memberRest object state moved) (memberRest objectList state moved)

theorem memberRest_inStep (state : State) (ofIndex : state.Later ExpressionInStep)
    (ofRest : state.Later MemberRestInStep) :
    MemberRestInStep state := by
  intro object objectList bound moved genuine mirrors
  rcases mirrors with ⟨rfl, _⟩
  unfold memberRest
  split
  next held =>
    apply (advance_inStep genuine held).andThen
    rintro _ _ afterDot _ genuine _
    apply (identifier_inStep afterDot genuine).after.andThen
    rintro property _ afterProperty taken genuine ⟨rfl, _⟩
    exact ofRest afterProperty taken _ _ bound _ genuine ⟨rfl, rfl⟩
  next held =>
    apply (advance_inStep genuine held).andThen
    rintro _ _ afterOpen opened genuine _
    apply (ofIndex afterOpen opened genuine).after.andThen
    rintro property _ afterProperty _ genuine ⟨rfl, _⟩
    apply (expect_inStep genuine).after.andThen
    rintro _ _ afterClose taken genuine _
    exact ofRest afterClose taken _ _ bound _ genuine ⟨rfl, rfl⟩
  next => exact .ok genuine ⟨rfl, ‹_›⟩

theorem member_inStep (state : State)
    (ofObject : state.Genuine → InStep Mirrors (primary state) (primary state))
    (ofRest : state.Later MemberRestInStep) (genuine : state.Genuine) :
    InStep Mirrors (member state) (member state) := by
  rw [member, member]
  apply (ofObject genuine).andThen
  rintro object objectList afterObject taken genuine mirrors
  exact ofRest afterObject taken object objectList _ taken genuine mirrors

theorem unary_inStep (state : State)
    (ofMember : state.Genuine → InStep Mirrors (member state) (member state))
    (ofArgument : state.Later fun next =>
      next.Genuine → InStep Mirrors (unary next) (unary next))
    (genuine : state.Genuine) :
    InStep Mirrors (unary state) (unary state) := by
  rw [unary, unary]
  split
  next operates =>
    rcases (Option.any_eq_true ..).1 operates with ⟨kind, held, _⟩
    apply (advance_inStep genuine held).andThen
    rintro operator _ afterOperator taken genuine ⟨rfl, _⟩
    apply (ofArgument afterOperator taken genuine).after.andThen
    rintro argument _ afterArgument _ genuine ⟨rfl, _⟩
    exact .ok genuine ⟨rfl, rfl⟩
  next => exact ofMember genuine

/-- What stands between the operators of a level is read in step. -/
def OperandInStep (level : Level) (state : State) : Prop :=
  state.Genuine → InStep Mirrors (operand level state) (operand level state)

/-- A level of binary operators is read in step. -/
def BinaryInStep (level : Level) (state : State) : Prop :=
  state.Genuine → InStep Mirrors (binary level state) (binary level state)

/-- The operators that follow an operand are read in step. -/
def BinaryRestInStep (level : Level) (state : State) : Prop :=
  ∀ (left : Tree) (leftList : SExpr) (bound : Nat) (moved : state.weight < bound),
    state.Genuine → Mirrors left leftList →
      InStep Mirrors (binaryRest level left state moved) (binaryRest level leftList state moved)

theorem mirrors_binaryNode {level : Level} {token : Token} {left right : Tree}
    (isOperator : token.kind = level.operator) (spelled : token.Spelled) :
    Mirrors (binaryNode level token.text left right)
      (binaryNode level token.text left.listForm right.listForm) := by
  have short : token.kind.isShort = true := by
    rw [isOperator]
    cases level <;> rfl
  unfold binaryNode
  split <;> exact mirrors_operator spelled short rfl rfl rfl

theorem binaryRest_inStep (level : Level) (state : State)
    (ofOperand : state.Later (OperandInStep level))
    (ofRest : state.Later (BinaryRestInStep level)) :
    BinaryRestInStep level state := by
  intro left leftList bound moved genuine mirrors
  rw [binaryRest, binaryRest]
  split
  next operates =>
    rcases Option.bind_eq_some_iff.1 operates with ⟨kind, held, ofLevel⟩
    rw [Level.ofKind?_eq_some.1 ofLevel] at held
    apply (advance_inStep genuine held).andThen
    rintro operator _ afterOperator taken genuine ⟨rfl, isOperator, spelled⟩
    apply (ofOperand afterOperator taken genuine).after.andThen
    rintro right _ afterRight taken genuine ⟨rfl, _⟩
    rcases mirrors with ⟨rfl, _⟩
    exact ofRest afterRight taken _ _ bound _ genuine (mirrors_binaryNode isOperator spelled)
  next => exact .ok genuine mirrors

theorem binary_inStep (level : Level) (state : State) (ofOperand : OperandInStep level state)
    (ofRest : state.Later (BinaryRestInStep level)) :
    BinaryInStep level state := by
  intro genuine
  rw [binary, binary]
  apply (ofOperand genuine).andThen
  rintro left leftList afterLeft taken genuine mirrors
  exact ofRest afterLeft taken left leftList _ taken genuine mirrors

theorem assignment_inStep (state : State) (ofLeft : BinaryInStep .logicalOr state)
    (ofRight : state.Later ExpressionInStep) :
    ExpressionInStep state := by
  intro genuine
  rw [assignment, assignment]
  apply (ofLeft genuine).andThen
  rintro left leftList afterLeft taken genuine ⟨rfl, sameAssignable⟩
  split
  next => exact .ok genuine ⟨rfl, sameAssignable⟩
  next token held =>
    split
    next assigns =>
      -- Both modes decide alike whether the operand may be assigned to.
      have decides : Builder.isAssignable left.listForm = Builder.isAssignable left :=
        sameAssignable
      rw [decides]
      split
      next =>
        have looks : afterLeft.kind? = some token.kind := by rw [State.kind?, held]; rfl
        apply (advance_inStep genuine looks).after.andThen
        rintro operator _ afterOperator taken genuine ⟨rfl, isKind, spelled⟩
        have short : operator.kind.isShort = true := by
          rw [isKind]
          revert assigns
          cases token.kind <;> decide
        apply (ofRight afterOperator taken genuine).after.andThen
        rintro right _ afterRight _ genuine ⟨rfl, _⟩
        exact .ok genuine (mirrors_operator spelled short rfl rfl rfl)
      next => exact .fail genuine ⟨rfl, .inr ⟨_, _, rfl, rfl⟩⟩
    next => exact .ok genuine ⟨rfl, sameAssignable⟩

/-- All expressions are read in step. -/
theorem expressions_inStep (state : State) :
    ExpressionInStep state ∧ (∀ level, BinaryInStep level state) ∧
      (∀ level, OperandInStep level state) ∧
      (state.Genuine → InStep Mirrors (unary state) (unary state)) ∧
      (state.Genuine → InStep Mirrors (member state) (member state)) ∧
      (state.Genuine → InStep Mirrors (primary state) (primary state)) ∧
      (state.Genuine → InStep Mirrors (grouping state) (grouping state)) := by
  refine State.expression_induction grouping_inStep primary_inStep memberRest_inStep
    member_inStep unary_inStep ?_ ?_ binaryRest_inStep binary_inStep assignment_inStep state
  · intro level state next ofUnary
    rw [OperandInStep, operand_of_tightest next, operand_of_tightest next]
    exact ofUnary
  · intro level tighter state next ofBinary
    rw [OperandInStep, operand_of_tighter next, operand_of_tighter next]
    exact ofBinary

theorem expression_inStep (state : State) : ExpressionInStep state :=
  (expressions_inStep state).1

end Expressions

/-! ## Parts of statements -/

section Parts

variable {treeItem : (state : State) → Reply Tree state.weight}
  {listItem : (state : State) → Reply SExpr state.weight}

theorem afterCommas_inStep
    (ofItem : ∀ state : State, state.Genuine →
      InStep IsListForm (treeItem state) (listItem state))
    (state : State) :
    ∀ (bound : Nat) (moved : state.weight < bound), state.Genuine →
      InStep AreListForms (afterCommas treeItem state moved)
        (afterCommas listItem state moved) := by
  induction state using State.descend with
  | step state later =>
      intro bound moved genuine
      rw [afterCommas, afterCommas]
      split
      next held =>
        apply (advance_inStep genuine (State.isAt_iff.1 held)).andThen
        rintro _ _ afterComma _ genuine _
        apply (ofItem afterComma genuine).after.andThen
        rintro first _ afterFirst taken genuine rfl
        apply (later afterFirst taken bound _ genuine).andThen
        rintro others _ afterOthers _ genuine rfl
        exact .ok genuine rfl
      next => exact .ok genuine rfl

theorem commaSeparated_inStep
    (ofItem : ∀ state : State, state.Genuine →
      InStep IsListForm (treeItem state) (listItem state))
    (state : State) (genuine : state.Genuine) :
    InStep AreListForms (commaSeparated treeItem state) (commaSeparated listItem state) := by
  unfold commaSeparated
  apply (ofItem state genuine).andThen
  rintro first _ afterFirst taken genuine rfl
  apply (afterCommas_inStep ofItem afterFirst _ taken genuine).andThen
  rintro others _ afterOthers _ genuine rfl
  exact .ok genuine rfl

variable {state : State} {moved : state.weight < bound}

theorem expressionUnless_inStep {stop : Kind} (genuine : state.Genuine) :
    InStep IsListFormOption (expressionUnless stop state moved)
      (expressionUnless stop state moved) := by
  unfold expressionUnless
  split
  next => exact .ok genuine rfl
  next =>
    apply (expression_inStep state genuine).after.map
    rintro tree _ ⟨rfl, _⟩
    rfl

theorem condition_inStep (genuine : state.Genuine) :
    InStep IsListForm (condition state) (condition state) := by
  unfold condition
  apply (expect_inStep genuine).andThen
  rintro _ _ afterOpen _ genuine _
  apply (expression_inStep afterOpen genuine).after.andThen
  rintro test _ afterTest _ genuine ⟨rfl, _⟩
  apply (expect_inStep genuine).after.andThen
  rintro _ _ afterClose _ genuine _
  exact .ok genuine rfl

theorem declaration_inStep (state : State) (genuine : state.Genuine) :
    InStep IsListForm (declaration state) (declaration state) := by
  unfold declaration
  apply (identifier_inStep state genuine).andThen
  rintro name _ afterName _ genuine ⟨rfl, _⟩
  split
  next => exact .ok genuine rfl
  next =>
    apply (expect_inStep genuine).after.andThen
    rintro _ _ afterAssign _ genuine _
    apply (expression_inStep afterAssign genuine).after.andThen
    rintro value _ afterValue _ genuine ⟨rfl, _⟩
    exact .ok genuine rfl

/-- One declaration stands for itself, and several make a sequence. -/
theorem isListForm_declarations (items : List Tree) :
    IsListForm (Builder.declarations items) (Builder.declarations (items.map Tree.listForm)) := by
  cases items with
  | nil => rfl
  | cons first others =>
      cases others with
      | nil => rfl
      | cons second rest =>
          have forms : Tree.listForm (.declarations (first :: second :: rest)) =
              SExpr.begin (Tree.listForms (first :: second :: rest)) := rfl
          rw [listForms_eq_map] at forms
          exact forms.symm

theorem declarations_inStep (genuine : state.Genuine) :
    InStep IsListForm (declarations state) (declarations state) := by
  unfold declarations
  apply (expect_inStep genuine).andThen
  rintro _ _ afterLet _ genuine _
  apply (commaSeparated_inStep declaration_inStep afterLet genuine).after.andThen
  rintro items _ afterItems _ genuine rfl
  exact .ok genuine (isListForm_declarations items)

theorem loopStart_inStep (genuine : state.Genuine) :
    InStep IsListFormOption (loopStart state moved) (loopStart state moved) := by
  unfold loopStart
  split
  next =>
    apply (declarations_inStep genuine).after.map
    rintro tree _ rfl
    rfl
  next => exact expressionUnless_inStep genuine

theorem parameters_inStep (genuine : state.Genuine) :
    InStep AreListForms (parameters state moved) (parameters state moved) := by
  unfold parameters
  split
  next => exact .ok genuine rfl
  next =>
    refine (commaSeparated_inStep (fun next genuine => ?_) state genuine).after
    exact (identifier_inStep next genuine).weaken fun _ _ mirrors => mirrors.isListForm

theorem returnedValue_inStep (genuine : state.Genuine) :
    InStep IsListFormOption (returnedValue state moved) (returnedValue state moved) := by
  unfold returnedValue
  split
  next => exact .ok genuine rfl
  next => exact expressionUnless_inStep genuine

end Parts

/-! ## Statements -/

section Statements

variable {state : State}

theorem emptyStatement_inStep (genuine : state.Genuine) :
    InStep IsListForm (emptyStatement state) (emptyStatement state) := by
  unfold emptyStatement
  exact (expect_inStep genuine).map fun _ _ _ => rfl

theorem expressionStatement_inStep (genuine : state.Genuine) :
    InStep IsListForm (expressionStatement state) (expressionStatement state) := by
  unfold expressionStatement
  apply InStep.andThen (expression_inStep state genuine)
  rintro value _ afterValue _ genuine ⟨rfl, _⟩
  apply (expect_inStep genuine).after.andThen
  rintro _ _ afterEnd _ genuine _
  exact .ok genuine rfl

theorem declarationStatement_inStep (genuine : state.Genuine) :
    InStep IsListForm (declarationStatement state) (declarationStatement state) := by
  unfold declarationStatement
  apply (declarations_inStep genuine).andThen
  rintro node nodeList afterDeclarations _ genuine isListForm
  apply (expect_inStep genuine).after.andThen
  rintro _ _ afterEnd _ genuine _
  exact .ok genuine isListForm

theorem returnStatement_inStep (genuine : state.Genuine) :
    InStep IsListForm (returnStatement state) (returnStatement state) := by
  unfold returnStatement
  apply (expect_inStep genuine).andThen
  rintro _ _ afterReturn _ genuine _
  apply (returnedValue_inStep genuine).andThen
  rintro argument _ afterArgument _ genuine rfl
  apply (expect_inStep genuine).after.andThen
  rintro _ _ afterEnd _ genuine _
  refine .ok genuine ?_
  cases argument <;> rfl

/-- Statements are read in step. -/
def StatementInStep (state : State) : Prop :=
  state.Genuine → InStep IsListForm (statement state) (statement state)

/-- Blocks are read in step. -/
def BlockInStep (state : State) : Prop :=
  state.Genuine → InStep IsListForm (block state) (block state)

/-- Lists of statements are read in step. -/
def StatementsInStep (stop : Option Kind) (state : State) : Prop :=
  ∀ (bound : Nat) (moved : state.weight < bound), state.Genuine →
    InStep AreListForms (statements stop state moved) (statements stop state moved)

theorem isListForm_block (body : List Tree) :
    IsListForm (Builder.block body) (Builder.block (body.map Tree.listForm)) := by
  rw [← listForms_eq_map]
  rfl

theorem block_inStep (state : State)
    (ofBody : state.Later (StatementsInStep (some .closeCurly))) :
    BlockInStep state := by
  intro genuine
  rw [block, block]
  apply (expect_inStep genuine).andThen
  rintro _ _ afterOpen opened genuine _
  apply (ofBody afterOpen opened _ _ genuine).andThen
  rintro body _ afterBody _ genuine rfl
  apply (expect_inStep genuine).after.andThen
  rintro _ _ afterClose _ genuine _
  exact .ok genuine (isListForm_block body)

theorem conditional_inStep (ofStatement : state.Later StatementInStep)
    (genuine : state.Genuine) :
    InStep IsListForm (conditional state) (conditional state) := by
  rw [conditional, conditional]
  apply (expect_inStep genuine).andThen
  rintro _ _ afterIf _ genuine _
  apply (condition_inStep genuine).after.andThen
  rintro test _ afterTest taken genuine rfl
  apply (ofStatement afterTest taken genuine).after.andThen
  rintro consequent _ afterConsequent taken genuine rfl
  split
  next held =>
    apply (advance_inStep genuine (State.isAt_iff.1 held)).after.andThen
    rintro _ _ afterElse taken genuine _
    apply (ofStatement afterElse taken genuine).after.andThen
    rintro alternate _ afterAlternate _ genuine rfl
    exact .ok genuine rfl
  next => exact .ok genuine rfl

theorem whileLoop_inStep (ofStatement : state.Later StatementInStep)
    (genuine : state.Genuine) :
    InStep IsListForm (whileLoop state) (whileLoop state) := by
  rw [whileLoop, whileLoop]
  apply (expect_inStep genuine).andThen
  rintro _ _ afterWhile _ genuine _
  apply (condition_inStep genuine).after.andThen
  rintro test _ afterTest taken genuine rfl
  apply (ofStatement afterTest taken genuine).after.andThen
  rintro body _ afterBody _ genuine rfl
  exact .ok genuine rfl

theorem doWhileLoop_inStep (ofStatement : state.Later StatementInStep)
    (genuine : state.Genuine) :
    InStep IsListForm (doWhileLoop state) (doWhileLoop state) := by
  rw [doWhileLoop, doWhileLoop]
  apply (expect_inStep genuine).andThen
  rintro _ _ afterDo taken genuine _
  apply (ofStatement afterDo taken genuine).after.andThen
  rintro body _ afterBody _ genuine rfl
  apply (expect_inStep genuine).after.andThen
  rintro _ _ afterWhile _ genuine _
  apply (condition_inStep genuine).after.andThen
  rintro test _ afterTest _ genuine rfl
  apply (expect_inStep genuine).after.andThen
  rintro _ _ afterEnd _ genuine _
  exact .ok genuine rfl

/-- The parts of a loop that are absent are `nil`. -/
theorem isListForm_forLoop (init test update : Option Tree) (body : Tree) :
    IsListForm (Builder.forLoop init test update body)
      (Builder.forLoop (init.map Tree.listForm) (test.map Tree.listForm)
        (update.map Tree.listForm) body.listForm) := by
  cases init <;> cases test <;> cases update <;> rfl

theorem forLoop_inStep (ofStatement : state.Later StatementInStep) (genuine : state.Genuine) :
    InStep IsListForm (forLoop state) (forLoop state) := by
  rw [forLoop, forLoop]
  apply (expect_inStep genuine).andThen
  rintro _ _ afterFor _ genuine _
  apply (expect_inStep genuine).after.andThen
  rintro _ _ afterOpen _ genuine _
  apply (loopStart_inStep genuine).andThen
  rintro init _ afterInit _ genuine rfl
  apply (expect_inStep genuine).after.andThen
  rintro _ _ afterFirst _ genuine _
  apply (expressionUnless_inStep genuine).andThen
  rintro test _ afterTest _ genuine rfl
  apply (expect_inStep genuine).after.andThen
  rintro _ _ afterSecond _ genuine _
  apply (expressionUnless_inStep genuine).andThen
  rintro update _ afterUpdate _ genuine rfl
  apply (expect_inStep genuine).after.andThen
  rintro _ _ afterClose taken genuine _
  apply (ofStatement afterClose taken genuine).after.andThen
  rintro body _ afterBody _ genuine rfl
  exact .ok genuine (isListForm_forLoop init test update body)

theorem isListForm_function (name : Tree) (params : List Tree) (body : Tree) :
    IsListForm (Builder.function name params body)
      (Builder.function name.listForm (params.map Tree.listForm) body.listForm) := by
  rw [← listForms_eq_map]
  rfl

theorem function_inStep (ofBlock : state.Later BlockInStep) (genuine : state.Genuine) :
    InStep IsListForm (function state) (function state) := by
  rw [function, function]
  apply (expect_inStep genuine).andThen
  rintro _ _ afterDef _ genuine _
  apply (identifier_inStep afterDef genuine).after.andThen
  rintro name _ afterName _ genuine ⟨rfl, _⟩
  apply (expect_inStep genuine).after.andThen
  rintro _ _ afterOpen _ genuine _
  apply (parameters_inStep genuine).andThen
  rintro params _ afterParams _ genuine rfl
  apply (expect_inStep genuine).after.andThen
  rintro _ _ afterClose taken genuine _
  apply (ofBlock afterClose taken genuine).after.andThen
  rintro body _ afterBody _ genuine rfl
  exact .ok genuine (isListForm_function name params body)

theorem statement_inStep (state : State) (ofBlock : BlockInStep state)
    (laterBlock : state.Later BlockInStep) (laterStatement : state.Later StatementInStep) :
    StatementInStep state := by
  intro genuine
  rw [statement, statement]
  split
  next => exact emptyStatement_inStep genuine
  next => exact ofBlock genuine
  next => exact declarationStatement_inStep genuine
  next => exact conditional_inStep laterStatement genuine
  next => exact whileLoop_inStep laterStatement genuine
  next => exact doWhileLoop_inStep laterStatement genuine
  next => exact forLoop_inStep laterStatement genuine
  next => exact returnStatement_inStep genuine
  next => exact function_inStep laterBlock genuine
  next => exact expressionStatement_inStep genuine

theorem statements_inStep (stop : Option Kind) (state : State)
    (ofFirst : StatementInStep state) (ofOthers : state.Later (StatementsInStep stop)) :
    StatementsInStep stop state := by
  intro bound moved genuine
  rw [statements, statements]
  split
  next => exact .ok genuine rfl
  next =>
    apply (ofFirst genuine).andThen
    rintro first _ afterFirst taken genuine rfl
    apply (ofOthers afterFirst taken _ _ genuine).andThen
    rintro others _ afterOthers _ genuine rfl
    exact .ok genuine rfl

/-- All statements are read in step. -/
theorem allStatements_inStep (state : State) :
    (∀ stop, StatementsInStep stop state) ∧ StatementInStep state ∧ BlockInStep state :=
  State.statement_induction block_inStep statement_inStep statements_inStep state

theorem isListForm_program (body : List Tree) :
    IsListForm (Builder.program body) (Builder.program (body.map Tree.listForm)) := by
  rw [← listForms_eq_map]
  rfl

theorem program_inStep (genuine : state.Genuine) :
    InStep IsListForm (program state) (program state) := by
  unfold program
  apply ((allStatements_inStep state).1 none _ _ genuine).map
  rintro body _ rfl
  exact isListForm_program body

end Statements

/-! ## Requests -/

section Requests

/-- Two answers that correspond, or one diagnostic. -/
inductive AnswersAgree (Corresponds : α → β → Prop) :
    Except Diagnostic α → Except Diagnostic β → Prop where
  | ok {first : α} {second : β} (corresponds : Corresponds first second) :
      AnswersAgree Corresponds (.ok first) (.ok second)
  | error {first second : Diagnostic} (agree : AgreeUpToTarget first second) :
      AnswersAgree Corresponds (.error first) (.error second)

/-- Two outcomes that leave one state, with answers that agree. -/
structure OutcomesAgree (Corresponds : α → β → Prop) (first : Outcome α)
    (second : Outcome β) : Prop where
  next_eq : first.next = second.next
  genuine : first.next.Genuine
  answers : AnswersAgree Corresponds first.answer second.answer

variable {Before : α → β → Prop} {After : γ → δ → Prop}

theorem InStep.outcome {first : Reply α bound} {second : Reply β bound}
    (inStep : InStep Before first second) :
    OutcomesAgree Before first.outcome second.outcome := by
  cases inStep with
  | ok genuine corresponds => exact ⟨rfl, genuine, .ok corresponds⟩
  | fail genuine agree => exact ⟨rfl, genuine, .error agree⟩

theorem OutcomesAgree.map {first : Outcome α} {second : Outcome β} {change : α → γ}
    {changeOther : β → δ} (agree : OutcomesAgree Before first second)
    (changes : ∀ value other, Before value other → After (change value) (changeOther other)) :
    OutcomesAgree After (first.map change) (second.map changeOther) := by
  rcases first with ⟨answer, next⟩
  rcases second with ⟨otherAnswer, _⟩
  rcases agree with ⟨rfl, genuine, answers⟩
  refine ⟨rfl, genuine, ?_⟩
  cases answers with
  | ok corresponds => exact .ok (changes _ _ corresponds)
  | error agree => exact .error agree

theorem Mirrors.outcome {first : Reply Tree bound} {second : Reply SExpr bound}
    (inStep : InStep Mirrors first second) :
    OutcomesAgree IsListForm first.outcome second.outcome :=
  (inStep.weaken fun _ _ mirrors => mirrors.isListForm).outcome

theorem produce_agrees (production : Production) {state : State} (genuine : state.Genuine) :
    OutcomesAgree IsListForm (produce production state) (produce production state) := by
  rcases expressions_inStep state with
    ⟨ofExpression, ofBinary, ofOperand, ofUnary, ofMember, ofPrimary, ofGrouping⟩
  rcases allStatements_inStep state with ⟨_, ofStatement, ofBlock⟩
  have later : state.Later StatementInStep :=
    fun next _ => (allStatements_inStep next).2.1
  cases production with
  | expression => exact Mirrors.outcome (ofExpression genuine)
  | assignment => exact Mirrors.outcome (ofExpression genuine)
  | binary level => exact Mirrors.outcome (ofBinary level genuine)
  | operand level => exact Mirrors.outcome (ofOperand level genuine)
  | unary => exact Mirrors.outcome (ofUnary genuine)
  | member => exact Mirrors.outcome (ofMember genuine)
  | primary => exact Mirrors.outcome (ofPrimary genuine)
  | grouping => exact Mirrors.outcome (ofGrouping genuine)
  | identifier => exact Mirrors.outcome (identifier_inStep state genuine)
  | literal => exact Mirrors.outcome (literal_inStep state genuine)
  | program => exact (program_inStep genuine).outcome
  | statement => exact (ofStatement genuine).outcome
  | emptyStatement => exact (emptyStatement_inStep genuine).outcome
  | block => exact (ofBlock genuine).outcome
  | expressionStatement => exact (expressionStatement_inStep genuine).outcome
  | declarationStatement => exact (declarationStatement_inStep genuine).outcome
  | declarations => exact (declarations_inStep genuine).outcome
  | declaration => exact (declaration_inStep state genuine).outcome
  | condition => exact (condition_inStep genuine).outcome
  | conditional => exact (conditional_inStep later genuine).outcome
  | whileLoop => exact (whileLoop_inStep later genuine).outcome
  | doWhileLoop => exact (doWhileLoop_inStep later genuine).outcome
  | forLoop => exact (forLoop_inStep later genuine).outcome
  | function =>
      have laterBlock : state.Later BlockInStep :=
        fun next _ => (allStatements_inStep next).2.2
      exact (function_inStep laterBlock genuine).outcome
  | returnStatement => exact (returnStatement_inStep genuine).outcome

/-- What two modes give corresponds. -/
inductive Answer.Corresponds : Answer Tree → Answer SExpr → Prop where
  | node (tree : Tree) : Corresponds (.node tree) (.node tree.listForm)
  | nodes (trees : List Tree) : Corresponds (.nodes trees) (.nodes (trees.map Tree.listForm))
  | token (token : Token) : Corresponds (.token token) (.token token)

theorem load_genuine {state : State} (genuine : state.Genuine) (source : String) :
    (load state source).next.Genuine := by
  unfold load
  split
  next pulled =>
    rintro _ ⟨⟩
    exact Lexer.spelled_of_next pulled
  next => exact State.genuine_of_none rfl
  next => exact genuine

theorem parseFrom_agrees {state : State} (genuine : state.Genuine) (source : String) :
    OutcomesAgree IsListForm (parseFrom state source) (parseFrom state source) := by
  have loadedGenuine := load_genuine genuine source
  unfold parseFrom
  revert loadedGenuine
  rcases load state source with ⟨answer, loaded⟩
  intro loadedGenuine
  cases answer with
  | ok => exact produce_agrees .program loadedGenuine
  | error diagnostic => exact ⟨rfl, loadedGenuine, .error (.refl diagnostic)⟩

/-- Every request is answered in step. -/
theorem respond_agrees (request : Request) {state : State} (genuine : state.Genuine) :
    OutcomesAgree Answer.Corresponds (respond request state) (respond request state) := by
  cases request with
  | parse source =>
      apply (parseFrom_agrees genuine source).map
      rintro tree _ rfl
      exact .node tree
  | produce production =>
      apply (produce_agrees production genuine).map
      rintro tree _ rfl
      exact .node tree
  | statements stop =>
      apply ((allStatements_inStep state).1 stop _ _ genuine).outcome.map
      rintro trees _ rfl
      exact .nodes trees
  | advance =>
      apply (advance_inStep_of_genuine genuine).outcome.map
      rintro token _ rfl
      exact .token token
  | expect kind =>
      apply (expect_inStep genuine).outcome.map
      rintro token _ ⟨rfl, _⟩
      exact .token token

/-- The state of a parser after some requests. -/
def stateAfter (Node : Type) [Builder Node] (state : State) (requests : List Request) : State :=
  requests.foldl (fun state request => (respond request state : Outcome (Answer Node)).next)
    state

/-- The same requests lead both modes to the same state. -/
theorem stateAfter_agrees {state : State} (genuine : state.Genuine) (requests : List Request) :
    stateAfter Tree state requests = stateAfter SExpr state requests ∧
      (stateAfter Tree state requests).Genuine := by
  induction requests generalizing state with
  | nil => exact ⟨rfl, genuine⟩
  | cons request others inductionHypothesis =>
      have agrees := respond_agrees request genuine
      have rest := inductionHypothesis agrees.genuine
      refine ⟨rest.1.trans ?_, rest.2⟩
      rw [agrees.next_eq]
      rfl

/-- The root of a source that is accepted is a program. -/
theorem parseFrom_eq_program {state : State} {source : String} {tree : Tree}
    (accepts : (parseFrom state source).answer = .ok tree) :
    ∃ body, tree = .program body := by
  rcases parseFrom_cases Tree state source with
    ⟨diagnostic, _, answers⟩ | ⟨loaded, _, answers⟩
  · rw [answers] at accepts
    cases accepts
  · rw [answers, program] at accepts
    cases reply : (statements none loaded loaded.weight_lt_succ :
      Reply (List Tree) (loaded.weight + 1)) with
    | ok body next lighter =>
        rw [reply] at accepts
        cases accepts
        exact ⟨body, rfl⟩
    | fail diagnostic next =>
        rw [reply] at accepts
        cases accepts

theorem answer_of_map_node {outcome : Outcome Tree} {tree : Tree}
    (answers : (outcome.map Answer.node).answer = .ok (.node tree)) :
    outcome.answer = .ok tree := by
  rcases outcome with ⟨answer, next⟩
  cases answer with
  | ok value =>
      cases answers
      rfl
  | error diagnostic => cases answers

/-- A program has as many statements in list form. -/
theorem statementCount_listForm (body : List Tree) :
    (Output.tree (.program body)).statementCount? = some body.length ∧
      (Output.list (Tree.program body).listForm).statementCount? = some body.length := by
  refine ⟨rfl, ?_⟩
  have count : (Output.list (Tree.program body).listForm).statementCount? =
      some (Tree.listForms body).length := by
    simp [Output.statementCount?, Tree.listForm, SExpr.beginBody?]
  rw [count, listForms_eq_map, List.length_map]

/-- What two modes answer to a request. -/
structure StepsAgree (request : Request) (tree : Outcome (Answer Tree))
    (list : Outcome (Answer SExpr)) : Prop where
  /-- The lexer, the token looked at and the file are the same. -/
  next_eq : tree.next = list.next
  /-- Both succeed with what corresponds, or both fail alike. -/
  answers : AnswersAgree Answer.Corresponds tree.answer list.answer
  /-- A source that is accepted has the same number of statements in both modes. -/
  counts : ∀ source root expression, request = .parse source →
    tree.answer = .ok (.node root) → list.answer = .ok (.node expression) →
      ∃ count, (Output.tree root).statementCount? = some count ∧
        (Output.list expression).statementCount? = some count

/--
Two parsers of the same file, one of each mode, that were asked for the same
things answer the next request alike.
-/
theorem modes_step_together (file : Option String) (earlier : List Request)
    (request : Request) :
    StepsAgree request
      (respond request (stateAfter Tree (State.initial file) earlier))
      (respond request (stateAfter SExpr (State.initial file) earlier)) := by
  have started : (State.initial file).Genuine := State.genuine_of_none rfl
  rcases stateAfter_agrees started earlier with ⟨same, genuine⟩
  rw [← same]
  have agrees := respond_agrees request genuine
  refine ⟨agrees.next_eq, agrees.answers, ?_⟩
  rintro source root expression rfl accepts acceptsList
  have corresponds := agrees.answers
  rw [accepts, acceptsList] at corresponds
  rcases corresponds with ⟨⟨⟩⟩
  have parses := answer_of_map_node accepts
  rcases parseFrom_eq_program parses with ⟨body, rfl⟩
  exact ⟨body.length, statementCount_listForm body⟩

end Requests

end Script.Parser
