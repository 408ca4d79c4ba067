import Script.Parser.Expression

/-!
# Statements

The productions of statements.  All of them but a list of statements take at
least one token when they succeed.  A list of statements ends at a given kind of
token or where no token is left.
-/

namespace Script.Parser

/-! ## Items with commas between them -/

/-- The items that follow commas. -/
def afterCommas
    {α : Type}
    (item : (state : State) → Reply α state.weight)
    (state : State)
    {bound : Nat}
    (moved : state.weight < bound) :
    Reply (List α) bound :=
  if state.isAt .comma then
    state.advance |>.andThen fun _ afterComma taken =>
    item afterComma |>.after taken |>.andThen fun first afterFirst taken =>
    afterCommas item afterFirst (State.below taken moved) |>.andThen fun others afterOthers moved =>
    .ok (first :: others) afterOthers moved
  else
    .ok [] state moved
termination_by state.weight

/-- One or more items with commas between them. -/
def commaSeparated
    {α : Type}
    (item : (state : State) → Reply α state.weight)
    (state : State) :
    Reply (List α) state.weight :=
  item state |>.andThen fun first afterFirst taken =>
  afterCommas item afterFirst taken |>.andThen fun others afterOthers taken =>
  .ok (first :: others) afterOthers taken

variable {Node : Type} [Builder Node]

/-! ## Parts of statements -/

/-- An expression, unless a token of a kind stands in its place. -/
def expressionUnless
    (stop : Kind)
    (state : State)
    {bound : Nat}
    (moved : state.weight < bound) :
    Reply (Option Node) bound :=
  if state.isAt stop then
    .ok none state moved
  else
    expression state |>.after moved |>.map some

/-- An expression in parentheses. -/
def condition (state : State) : Reply Node state.weight :=
  state.expect .openParen |>.andThen fun _ afterOpen taken =>
  expression afterOpen |>.after taken |>.andThen fun test afterTest taken =>
  afterTest.expect .closeParen |>.after taken |>.andThen fun _ afterClose taken =>
  .ok test afterClose taken

/-- A name, and its first value unless a comma or a semicolon follows. -/
def declaration (state : State) : Reply Node state.weight :=
  identifier state |>.andThen fun name afterName taken =>
    if afterName.isAt .semicolon || afterName.isAt .comma then
      .ok (Builder.declaration name none) afterName taken
    else
      afterName.expect .simpleAssign |>.after taken |>.andThen fun _ afterAssign taken =>
      assignment afterAssign |>.after taken |>.andThen fun value afterValue taken =>
      .ok (Builder.declaration name (some value)) afterValue taken

/-- Declarations after `let`, without the semicolon at their end. -/
def declarations (state : State) : Reply Node state.weight :=
  state.expect .letWord |>.andThen fun _ afterLet taken =>
  commaSeparated declaration afterLet |>.after taken |>.andThen fun items afterItems taken =>
  .ok (Builder.declarations items) afterItems taken

/-- What a loop starts with: nothing, declarations or an expression. -/
def loopStart (state : State) {bound : Nat} (moved : state.weight < bound) :
    Reply (Option Node) bound :=
  if state.isAt .letWord then
    declarations state |>.after moved |>.map some
  else
    expressionUnless .semicolon state moved

/-- The names of a function's parameters, up to the closing parenthesis. -/
def parameters (state : State) {bound : Nat} (moved : state.weight < bound) :
    Reply (List Node) bound :=
  if state.isAt .closeParen then
    .ok [] state moved
  else
    commaSeparated identifier state |>.after moved

/-- The value that a function returns; none before a semicolon or the end of the source. -/
def returnedValue (state : State) {bound : Nat} (moved : state.weight < bound) :
    Reply (Option Node) bound :=
  if state.lookahead.isNone then
    .ok none state moved
  else
    expressionUnless .semicolon state moved

/-! ## Statements without statements in them -/

/-- A semicolon alone. -/
def emptyStatement (state : State) : Reply Node state.weight :=
  state.expect .semicolon |>.map fun _ => Builder.empty

/-- An expression and a semicolon. -/
def expressionStatement (state : State) : Reply Node state.weight :=
  expression state |>.andThen fun value afterValue taken =>
  afterValue.expect .semicolon |>.after taken |>.andThen fun _ afterEnd taken =>
  .ok (Builder.expression value) afterEnd taken

/-- Declarations and a semicolon. -/
def declarationStatement (state : State) : Reply Node state.weight :=
  declarations state |>.andThen fun node afterDeclarations taken =>
  afterDeclarations.expect .semicolon |>.after taken |>.andThen fun _ afterEnd taken =>
  .ok node afterEnd taken

/-- A `return`, perhaps a value, and a semicolon. -/
def returnStatement (state : State) : Reply Node state.weight :=
  state.expect .returnWord |>.andThen fun _ afterReturn taken =>
  returnedValue afterReturn taken |>.andThen fun argument afterArgument taken =>
  afterArgument.expect .semicolon |>.after taken |>.andThen fun _ afterEnd taken =>
  .ok (Builder.returning argument) afterEnd taken

/-! ## Statements with statements in them -/

mutual

/-- Statements up to a token of the stopping kind or the end of the source. -/
def statements
    (stop : Option Kind)
    (state : State)
    {bound : Nat}
    (moved : state.weight < bound) :
    Reply (List Node) bound :=
  if state.lookahead.isNone || state.kind? = stop then
    .ok [] state moved
  else
    statement state |>.andThen fun first afterFirst taken =>
    statements stop afterFirst (State.below taken moved) |>.andThen fun others afterOthers moved =>
    .ok (first :: others) afterOthers moved
termination_by 4 * state.weight + 3

/-- One statement; its first token says of which form it is. -/
def statement (state : State) : Reply Node state.weight :=
  match state.kind? with
  | some .semicolon => emptyStatement state
  | some .openCurly => block state
  | some .letWord => declarationStatement state
  | some .ifWord => conditional state
  | some .whileWord => whileLoop state
  | some .doWord => doWhileLoop state
  | some .forWord => forLoop state
  | some .returnWord => returnStatement state
  | some .defWord => function state
  | _ => expressionStatement state
termination_by 4 * state.weight + 2

/-- Statements in curly brackets. -/
def block (state : State) : Reply Node state.weight :=
  state.expect .openCurly |>.andThen fun _ afterOpen taken =>
  statements (some .closeCurly) afterOpen taken |>.andThen fun body afterBody taken =>
  afterBody.expect .closeCurly |>.after taken |>.andThen fun _ afterClose taken =>
  .ok (Builder.block body) afterClose taken
termination_by 4 * state.weight

/-- An `if` with a condition and a statement, and perhaps `else` with another. -/
def conditional (state : State) : Reply Node state.weight :=
  state.expect .ifWord |>.andThen fun _ afterIf taken =>
  condition afterIf |>.after taken |>.andThen fun test afterTest taken =>
  statement afterTest |>.after taken |>.andThen fun consequent afterConsequent taken =>
    if afterConsequent.isAt .elseWord then
      afterConsequent.advance |>.after taken |>.andThen fun _ afterElse taken =>
      statement afterElse |>.after taken |>.andThen fun alternate afterAlternate taken =>
      .ok (Builder.conditional test consequent (some alternate)) afterAlternate taken
    else
      .ok (Builder.conditional test consequent none) afterConsequent taken
termination_by 4 * state.weight

/-- A `while` with a condition and a statement. -/
def whileLoop (state : State) : Reply Node state.weight :=
  state.expect .whileWord |>.andThen fun _ afterWhile taken =>
  condition afterWhile |>.after taken |>.andThen fun test afterTest taken =>
  statement afterTest |>.after taken |>.andThen fun body afterBody taken =>
  .ok (Builder.whileLoop test body) afterBody taken
termination_by 4 * state.weight

/-- A `do` with a statement, then `while` with a condition and a semicolon. -/
def doWhileLoop (state : State) : Reply Node state.weight :=
  state.expect .doWord |>.andThen fun _ afterDo taken =>
  statement afterDo |>.after taken |>.andThen fun body afterBody taken =>
  afterBody.expect .whileWord |>.after taken |>.andThen fun _ afterWhile taken =>
  condition afterWhile |>.after taken |>.andThen fun test afterTest taken =>
  afterTest.expect .semicolon |>.after taken |>.andThen fun _ afterEnd taken =>
  .ok (Builder.doWhileLoop body test) afterEnd taken
termination_by 4 * state.weight

/-- A `for` with three clauses, each of which may be absent, and a statement. -/
def forLoop (state : State) : Reply Node state.weight :=
  state.expect .forWord |>.andThen fun _ afterFor taken =>
  afterFor.expect .openParen |>.after taken |>.andThen fun _ afterOpen taken =>
  loopStart afterOpen taken |>.andThen fun init afterInit taken =>
  afterInit.expect .semicolon |>.after taken |>.andThen fun _ afterFirst taken =>
  expressionUnless .semicolon afterFirst taken |>.andThen fun test afterTest taken =>
  afterTest.expect .semicolon |>.after taken |>.andThen fun _ afterSecond taken =>
  expressionUnless .closeParen afterSecond taken |>.andThen fun update afterUpdate taken =>
  afterUpdate.expect .closeParen |>.after taken |>.andThen fun _ afterClose taken =>
  statement afterClose |>.after taken |>.andThen fun body afterBody taken =>
  .ok (Builder.forLoop init test update body) afterBody taken
termination_by 4 * state.weight

/-- A `def` with a name, parameters in parentheses and a block. -/
def function (state : State) : Reply Node state.weight :=
  state.expect .defWord |>.andThen fun _ afterDef taken =>
  identifier afterDef |>.after taken |>.andThen fun name afterName taken =>
  afterName.expect .openParen |>.after taken |>.andThen fun _ afterOpen taken =>
  parameters afterOpen taken |>.andThen fun params afterParams taken =>
  afterParams.expect .closeParen |>.after taken |>.andThen fun _ afterClose taken =>
  block afterClose |>.after taken |>.andThen fun body afterBody taken =>
  .ok (Builder.function name params body) afterBody taken
termination_by 4 * state.weight

end

/-- Statements up to the end of the source. -/
def program (state : State) : Reply Node (state.weight + 1) :=
  statements none state state.weight_lt_succ |>.map Builder.program

end Script.Parser
