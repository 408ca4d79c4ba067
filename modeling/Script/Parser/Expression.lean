import Script.Builder
import Script.Level
import Script.Parser.State

/-!
# Expressions

The productions of expressions, from assignments down to literals.  Every one of
them takes at least one token when it succeeds, so the recursion ends: a call on
the same state goes to a production of lower rank, and a call on a later state
goes to a lighter one.
-/

namespace Script.Parser

variable {Node : Type} [Builder Node]

/-- A name. -/
def identifier (state : State) : Reply Node state.weight :=
  (state.expect .identifier).map fun token => Builder.identifier token.text

/-- A number, a string, a truth value or `null`. -/
def literal (state : State) : Reply Node state.weight :=
  match state.kind? with
  | some .number =>
      state.advance.andThen fun token next lighter =>
        match Numeral.read token.text with
        | .ok value => .ok (Builder.number value) next lighter
        | .error _ => .fail ⟨.numberParseError token.text, token.start⟩ next
  | some .string =>
      state.advance.map fun token => Builder.string (unquoted token.text)
  | some .trueWord =>
      state.advance.map fun _ => Builder.boolean true
  | some .falseWord =>
      state.advance.map fun _ => Builder.boolean false
  | some .nullWord =>
      state.advance.map fun _ => Builder.null
  | _ =>
      state.unexpected "literal"

/-- The node of a binary operator. -/
def binaryNode (level : Level) (operator : String) (left right : Node) : Node :=
  if level.isLogical then
    Builder.logical operator left right
  else
    Builder.binary operator left right

mutual

/--
An operand of the loosest level, and then perhaps an assignment operator and
another assignment.  Whether the operand may be assigned to is settled before
anything right of the operator is read.
-/
def assignment (state : State) : Reply Node state.weight :=
  binary .logicalOr state |>.andThen fun left afterLeft taken =>
    match afterLeft.lookahead with
    | none =>
        .ok left afterLeft taken
    | some token =>
        if token.kind.isAssignment then
          if Builder.isAssignable left then
            afterLeft.advance |>.after taken |>.andThen fun operator afterOperator taken =>
            assignment afterOperator |>.after taken |>.andThen fun right afterRight taken =>
            .ok (Builder.assignment operator.text left right) afterRight taken
          else
            .fail ⟨.invalidAssignmentTarget (Builder.describe left), token.start⟩ afterLeft
        else
          .ok left afterLeft taken
termination_by 20 * state.weight + 16
decreasing_by
  all_goals have bounded := Level.looseness_le .logicalOr
  all_goals omega

/-- Operands of a level with the operators of that level between them. -/
def binary (level : Level) (state : State) : Reply Node state.weight :=
  operand level state |>.andThen fun left afterLeft taken =>
  binaryRest level left afterLeft taken
termination_by 20 * state.weight + (2 * level.looseness + 5)
decreasing_by all_goals omega

/-- The operators of a level that follow an operand, folded from the left. -/
def binaryRest
    (level : Level)
    (left : Node)
    (state : State)
    {bound : Nat}
    (moved : state.weight < bound) :
    Reply Node bound :=
  if state.kind?.bind Level.ofKind? = some level then
    state.advance |>.andThen fun operator afterOperator taken =>
    operand level afterOperator |>.after taken |>.andThen fun right afterRight taken =>
    binaryRest level (binaryNode level operator.text left right) afterRight (State.below taken moved)
  else
    .ok left state moved
termination_by 20 * state.weight
decreasing_by
  all_goals have bounded := Level.looseness_le level
  all_goals omega

/-- What the operators of a level stand between. -/
def operand (level : Level) (state : State) : Reply Node state.weight :=
  match _next : level.tighter? with
  | some tighter => binary tighter state
  | none => unary state
termination_by 20 * state.weight + (2 * level.looseness + 4)
decreasing_by
  · have tightens := Level.looseness_lt_of_tighter? _next
    omega
  · omega

/-- Any number of signs and negations before a member expression. -/
def unary (state : State) : Reply Node state.weight :=
  if state.kind?.any Kind.isUnary then
    state.advance |>.andThen fun operator afterOperator taken =>
    unary afterOperator |>.after taken |>.andThen fun argument afterArgument taken =>
    .ok (Builder.unary operator.text argument) afterArgument taken
  else
    member state
termination_by 20 * state.weight + 3

/-- A primary expression with any number of member accesses. -/
def member (state : State) : Reply Node state.weight :=
  primary state |>.andThen fun object afterObject taken =>
  memberRest object afterObject taken
termination_by 20 * state.weight + 2

/-- The member accesses that follow an object, the first one innermost. -/
def memberRest
    (object : Node)
    (state : State)
    {bound : Nat}
    (moved : state.weight < bound) :
    Reply Node bound :=
  match state.kind? with
  | some .dot =>
      state.advance |>.andThen fun _ afterDot taken =>
      identifier afterDot |>.after taken |>.andThen fun property afterProperty taken =>
      memberRest (Builder.member false object property) afterProperty (State.below taken moved)
  | some .openBracket =>
      state.advance |>.andThen fun _ afterOpen taken =>
      assignment afterOpen |>.after taken |>.andThen fun property afterProperty taken =>
      afterProperty.expect .closeBracket |>.after taken |>.andThen fun _ afterClose taken =>
      memberRest (Builder.member true object property) afterClose (State.below taken moved)
  | _ =>
      .ok object state moved
termination_by 20 * state.weight

/-- A literal, a name, or an expression in parentheses. -/
def primary (state : State) : Reply Node state.weight :=
  match state.kind? with
  | some .openParen => grouping state
  | some .identifier => identifier state
  | some kind => if kind.isLiteral then literal state else state.unexpected "expression"
  | none => state.unexpected "expression"
termination_by 20 * state.weight + 1

/-- An expression in parentheses, which leave no trace. -/
def grouping (state : State) : Reply Node state.weight :=
  state.expect .openParen |>.andThen fun _ afterOpen taken =>
  assignment afterOpen |>.after taken |>.andThen fun inner afterInner taken =>
  afterInner.expect .closeParen |>.after taken |>.andThen fun _ afterClose taken =>
  .ok inner afterClose taken
termination_by 20 * state.weight

end

/-- An expression is an assignment. -/
def expression (state : State) : Reply Node state.weight :=
  assignment state

end Script.Parser
