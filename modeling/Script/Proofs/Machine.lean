import Mathlib.Computability.StateTransition
import Script.Grammar
import Script.Level

/-!
# A stack machine for the grammar

The machine keeps a stack of what it still has to read.  It looks at one token at
a time and replaces the goal on top of its stack by the parts of that goal, takes
a token that its stack asks for, or refuses the token.  Which of these it does
depends on kinds only: of an expression it has read it remembers no more than
whether it may be assigned to.

The values that are built on the way are kept apart from the control of the
machine.  Run on kinds, it builds nothing; run on lexemes, it builds trees.
-/

namespace Script.Machine

/-- A part of a program that is still to be read. -/
inductive Goal where
  | program
  | statements (stop : Option Kind)
  | statement
  | emptyStatement
  | block
  | expressionStatement
  | declarationStatement
  | conditional
  | alternate
  | whileLoop
  | doWhileLoop
  | forLoop
  | function
  | returnStatement
  | condition
  | declarations
  | separated (item : Goal)
  | afterCommas (item : Goal)
  | declaration
  | initialiser
  | loopStart
  | expressionUnless (stop : Kind)
  | returnedValue
  | parameters
  | expression
  | assigned
  | binary (level : Level)
  | binaryRest (level : Level)
  | unary
  | member
  | memberRest
  | primary
  | grouping
  | name
  | literal
  deriving DecidableEq, Repr

/-- What is made of the values read last. -/
inductive Build where
  | nothing
  | cons
  | program
  | block
  | empty
  | expression
  | declarations
  | declaration
  | conditional
  | whileLoop
  | doWhileLoop
  | forLoop
  | function
  | returning
  | assignment
  | binary (level : Level)
  | unary
  | member (computed : Bool)
  | name
  | literal
  deriving DecidableEq, Repr

/-- Whether what was read last may be assigned to, after something was made of it. -/
def Build.leaves : Build → Bool → Bool
  | .name, _ => true
  | .member _, _ => true
  | .literal, _ => false
  | .unary, _ => false
  | .binary _, _ => false
  | .assignment, _ => false
  | _, assignable => assignable

/-- An entry of the stack. -/
inductive Symbol where
  /-- A token of a kind, of which nothing is kept. -/
  | take (kind : Kind)
  /-- A token of a kind, which is kept as a value. -/
  | keep (kind : Kind)
  | goal (goal : Goal)
  | build (build : Build)
  deriving DecidableEq, Repr

/-- Why the machine cannot go on. -/
inductive Refusal where
  /-- A token of this kind had to stand here. -/
  | kind (expected : Kind)
  /-- An expression had to start here. -/
  | expression
  /-- A literal had to stand here. -/
  | literal
  /-- What stands before the operator cannot be assigned to. -/
  | target
  deriving DecidableEq, Repr

/-- The form of the statement that starts with a token. -/
def statementForm : Option Kind → Goal
  | some .semicolon => .emptyStatement
  | some .openCurly => .block
  | some .letWord => .declarationStatement
  | some .ifWord => .conditional
  | some .whileWord => .whileLoop
  | some .doWord => .doWhileLoop
  | some .forWord => .forLoop
  | some .returnWord => .returnStatement
  | some .defWord => .function
  | _ => .expressionStatement

/-- What the operators of a level stand between. -/
def operand (level : Level) : Goal :=
  match level.tighter? with
  | some tighter => .binary tighter
  | none => .unary

/-- The parts of a goal, in view of the token looked at. -/
def Goal.expand (assignable : Bool) (look : Option Kind) :
    Goal → Except Refusal (List Symbol)
  | .program => .ok [.goal (.statements none), .build .program]
  | .statements stop =>
      if look = none ∨ look = stop then
        .ok [.build .nothing]
      else
        .ok [.goal .statement, .goal (.statements stop), .build .cons]
  | .statement => .ok [.goal (statementForm look)]
  | .emptyStatement => .ok [.take .semicolon, .build .empty]
  | .block =>
      .ok [.take .openCurly, .goal (.statements (some .closeCurly)), .take .closeCurly,
        .build .block]
  | .expressionStatement => .ok [.goal .expression, .take .semicolon, .build .expression]
  | .declarationStatement => .ok [.goal .declarations, .take .semicolon]
  | .conditional =>
      .ok [.take .ifWord, .goal .condition, .goal .statement, .goal .alternate,
        .build .conditional]
  | .alternate =>
      if look = some .elseWord then
        .ok [.take .elseWord, .goal .statement]
      else
        .ok [.build .nothing]
  | .whileLoop => .ok [.take .whileWord, .goal .condition, .goal .statement, .build .whileLoop]
  | .doWhileLoop =>
      .ok [.take .doWord, .goal .statement, .take .whileWord, .goal .condition,
        .take .semicolon, .build .doWhileLoop]
  | .forLoop =>
      .ok [.take .forWord, .take .openParen, .goal .loopStart, .take .semicolon,
        .goal (.expressionUnless .semicolon), .take .semicolon,
        .goal (.expressionUnless .closeParen), .take .closeParen, .goal .statement,
        .build .forLoop]
  | .function =>
      .ok [.take .defWord, .goal .name, .take .openParen, .goal .parameters,
        .take .closeParen, .goal .block, .build .function]
  | .returnStatement =>
      .ok [.take .returnWord, .goal .returnedValue, .take .semicolon, .build .returning]
  | .condition => .ok [.take .openParen, .goal .expression, .take .closeParen]
  | .declarations => .ok [.take .letWord, .goal (.separated .declaration), .build .declarations]
  | .separated item => .ok [.goal item, .goal (.afterCommas item), .build .cons]
  | .afterCommas item =>
      if look = some .comma then
        .ok [.take .comma, .goal item, .goal (.afterCommas item), .build .cons]
      else
        .ok [.build .nothing]
  | .declaration => .ok [.goal .name, .goal .initialiser, .build .declaration]
  | .initialiser =>
      if look = some .semicolon ∨ look = some .comma then
        .ok [.build .nothing]
      else
        .ok [.take .simpleAssign, .goal .expression]
  | .loopStart =>
      if look = some .letWord then
        .ok [.goal .declarations]
      else
        .ok [.goal (.expressionUnless .semicolon)]
  | .expressionUnless stop =>
      if look = some stop then .ok [.build .nothing] else .ok [.goal .expression]
  | .returnedValue =>
      if look = none then
        .ok [.build .nothing]
      else
        .ok [.goal (.expressionUnless .semicolon)]
  | .parameters =>
      if look = some .closeParen then
        .ok [.build .nothing]
      else
        .ok [.goal (.separated .name)]
  | .expression => .ok [.goal (.binary .logicalOr), .goal .assigned]
  | .assigned =>
      match look with
      | none => .ok []
      | some kind =>
          if kind.isAssignment then
            if assignable then
              .ok [.keep kind, .goal .expression, .build .assignment]
            else
              .error .target
          else
            .ok []
  | .binary level => .ok [.goal (operand level), .goal (.binaryRest level)]
  | .binaryRest level =>
      if look.bind Level.ofKind? = some level then
        .ok [.keep level.operator, .goal (operand level), .build (.binary level),
          .goal (.binaryRest level)]
      else
        .ok []
  | .unary =>
      match look with
      | none => .ok [.goal .member]
      | some kind =>
          if kind.isUnary then
            .ok [.keep kind, .goal .unary, .build .unary]
          else
            .ok [.goal .member]
  | .member => .ok [.goal .primary, .goal .memberRest]
  | .memberRest =>
      match look with
      | some .dot => .ok [.take .dot, .goal .name, .build (.member false), .goal .memberRest]
      | some .openBracket =>
          .ok [.take .openBracket, .goal .expression, .take .closeBracket,
            .build (.member true), .goal .memberRest]
      | _ => .ok []
  | .primary =>
      match look with
      | some .openParen => .ok [.goal .grouping]
      | some .identifier => .ok [.goal .name]
      | some kind => if kind.isLiteral then .ok [.goal .literal] else .error .expression
      | none => .error .expression
  | .grouping => .ok [.take .openParen, .goal .expression, .take .closeParen]
  | .name => .ok [.keep .identifier, .build .name]
  | .literal =>
      match look with
      | none => .error .literal
      | some kind =>
          if kind.isLiteral then .ok [.keep kind, .build .literal] else .error .literal

/-- What the machine still has to read, and whether what it read last may be assigned to. -/
structure Control where
  assignable : Bool
  stack : List Symbol
  deriving DecidableEq, Repr

/-- What the machine does next. -/
inductive Move where
  /-- It takes the token looked at. -/
  | shift (next : Control)
  /-- It goes on without taking a token. -/
  | idle (next : Control)
  | refuse (refusal : Refusal)
  /-- It has nothing left to read. -/
  | finish
  deriving DecidableEq, Repr

/-- What the machine does when it looks at a token of a kind, or at none. -/
def Control.move (control : Control) (look : Option Kind) : Move :=
  match control.stack with
  | [] => .finish
  | .take kind :: others | .keep kind :: others =>
      if look = some kind then .shift ⟨control.assignable, others⟩ else .refuse (.kind kind)
  | .build build :: others => .idle ⟨build.leaves control.assignable, others⟩
  | .goal goal :: others =>
      match goal.expand control.assignable look with
      | .ok parts => .idle ⟨control.assignable, parts ++ others⟩
      | .error refusal => .refuse refusal

section Move

variable {assignable : Bool} {symbol : Symbol} {stack : List Symbol} {look : Option Kind}
  {next : Control}

/-- The machine goes on without taking a kind where it builds something or expands a goal. -/
theorem next_of_idle
    (moves : (Control.mk assignable (symbol :: stack)).move look = .idle next) :
    (∃ build, symbol = .build build ∧ next = ⟨build.leaves assignable, stack⟩) ∨
      ∃ goal parts, symbol = .goal goal ∧ goal.expand assignable look = .ok parts ∧
        next = ⟨assignable, parts ++ stack⟩ := by
  cases symbol with
  | take kind | keep kind =>
      simp only [Control.move] at moves
      split at moves <;> cases moves
  | build build =>
      cases moves
      exact .inl ⟨build, rfl, rfl⟩
  | goal goal =>
      simp only [Control.move] at moves
      split at moves <;> cases moves
      next parts expands => exact .inr ⟨goal, parts, rfl, expands, rfl⟩

/-- The machine takes a kind where its stack asks for that kind. -/
theorem next_of_shift
    (moves : (Control.mk assignable (symbol :: stack)).move look = .shift next) :
    ∃ kind, look = some kind ∧ (symbol = .take kind ∨ symbol = .keep kind) ∧
      next = ⟨assignable, stack⟩ := by
  cases symbol with
  | take kind | keep kind =>
      simp only [Control.move] at moves
      split at moves <;> cases moves
      next looks => exact ⟨kind, looks, by simp, rfl⟩
  | build build => cases moves
  | goal goal =>
      simp only [Control.move] at moves
      split at moves <;> cases moves

/-- At the end there is nothing to take. -/
theorem move_none_ne_shift (control next : Control) : control.move none ≠ .shift next := by
  rcases control with ⟨assignable, _ | ⟨symbol, stack⟩⟩
  · rintro ⟨⟩
  · intro moves
    rcases next_of_shift moves with ⟨kind, looks, _⟩
    cases looks

end Move

/-- What the tokens of an input are, and what is made of them. -/
structure Semantics (Input Values : Type) where
  kind : Input → Kind
  keep : Input → Values → Values
  build : Build → Values → Values

variable {Input Values : Type}

/-- A machine in the middle of an input. -/
structure Config (Input Values : Type) where
  control : Control
  values : Values
  rest : List Input

/-- What becomes of the values when the top of the stack is dealt with. -/
def Semantics.effect (semantics : Semantics Input Values) (stack : List Symbol)
    (rest : List Input) (values : Values) : Values :=
  match stack, rest with
  | .keep _ :: _, first :: _ => semantics.keep first values
  | .build build :: _, _ => semantics.build build values
  | _, _ => values

/-- One step of the machine; there is none after a refusal or at the end. -/
def Semantics.step (semantics : Semantics Input Values) (config : Config Input Values) :
    Option (Config Input Values) :=
  let values := semantics.effect config.control.stack config.rest config.values
  match config.control.move (config.rest.head?.map semantics.kind) with
  | .shift next => some ⟨next, values, config.rest.tail⟩
  | .idle next => some ⟨next, values, config.rest⟩
  | .refuse _ => none
  | .finish => none

/-- Some number of steps of the machine. -/
def Semantics.Reaches (semantics : Semantics Input Values) :
    Config Input Values → Config Input Values → Prop :=
  StateTransition.Reaches semantics.step

/-! ## Single steps -/

namespace Semantics

variable {semantics : Semantics Input Values} {assignable : Bool} {values : Values}
  {stack : List Symbol} {rest : List Input}

theorem Reaches.refl (config : Config Input Values) : semantics.Reaches config config :=
  Relation.ReflTransGen.refl

theorem Reaches.trans {first second third : Config Input Values}
    (front : semantics.Reaches first second) (back : semantics.Reaches second third) :
    semantics.Reaches first third :=
  Relation.ReflTransGen.trans front back

theorem Reaches.of_step {config next : Config Input Values}
    (steps : semantics.step config = some next) :
    semantics.Reaches config next :=
  Relation.ReflTransGen.single steps

theorem reaches_take {kind : Kind} {first : Input} (fits : semantics.kind first = kind) :
    semantics.Reaches ⟨⟨assignable, .take kind :: stack⟩, values, first :: rest⟩
      ⟨⟨assignable, stack⟩, values, rest⟩ := by
  apply Reaches.of_step
  simp [step, Control.move, effect, fits]

theorem reaches_keep {kind : Kind} {first : Input} (fits : semantics.kind first = kind) :
    semantics.Reaches ⟨⟨assignable, .keep kind :: stack⟩, values, first :: rest⟩
      ⟨⟨assignable, stack⟩, semantics.keep first values, rest⟩ := by
  apply Reaches.of_step
  simp [step, Control.move, effect, fits]

theorem reaches_build {build : Build} :
    semantics.Reaches ⟨⟨assignable, .build build :: stack⟩, values, rest⟩
      ⟨⟨build.leaves assignable, stack⟩, semantics.build build values, rest⟩ := by
  apply Reaches.of_step
  simp [step, Control.move, effect]

theorem reaches_goal {goal : Goal} {parts : List Symbol}
    (expands : goal.expand assignable (rest.head?.map semantics.kind) = .ok parts) :
    semantics.Reaches ⟨⟨assignable, .goal goal :: stack⟩, values, rest⟩
      ⟨⟨assignable, parts ++ stack⟩, values, rest⟩ := by
  apply Reaches.of_step
  simp [step, Control.move, effect, expands]

theorem step_of_refuse {control : Control} {refusal : Refusal}
    (refuses : control.move (rest.head?.map semantics.kind) = .refuse refusal) :
    semantics.step ⟨control, values, rest⟩ = none := by
  simp [step, refuses]

/-- A machine that cannot go on has come to the only place it can come to. -/
theorem Reaches.unique {start first second : Config Input Values}
    (toFirst : semantics.Reaches start first) (firstStops : semantics.step first = none)
    (toSecond : semantics.Reaches start second) (secondStops : semantics.step second = none) :
    first = second :=
  Part.mem_unique (StateTransition.mem_eval.2 ⟨toFirst, firstStops⟩)
    (StateTransition.mem_eval.2 ⟨toSecond, secondStops⟩)

end Semantics

/-! ## The machine on kinds -/

/-- Kinds stand for themselves, and nothing is made of them. -/
def onKinds : Semantics Kind Unit where
  kind kind := kind
  keep _ _ := ()
  build _ _ := ()

@[simp]
theorem map_kind_onKinds (look : Option Kind) : look.map onKinds.kind = look := by
  cases look <;> rfl

/-- The machine comes from one control to another while it takes the first of some kinds. -/
def Runs (control : Control) (kinds : List Kind) (next : Control) (rest : List Kind) : Prop :=
  onKinds.Reaches ⟨control, (), kinds⟩ ⟨next, (), rest⟩

/-- A step on kinds takes none of them, or the first. -/
theorem step_onKinds_cases {control : Control} {kinds : List Kind} {next : Config Kind Unit}
    (steps : onKinds.step ⟨control, (), kinds⟩ = some next) :
    (∃ further, control.move kinds.head? = .idle further ∧ next = ⟨further, (), kinds⟩) ∨
      ∃ kind others further, kinds = kind :: others ∧
        control.move (some kind) = .shift further ∧ next = ⟨further, (), others⟩ := by
  simp only [Semantics.step, map_kind_onKinds] at steps
  cases moves : control.move kinds.head? with
  | idle further =>
      rw [moves] at steps
      cases steps
      exact .inl ⟨further, rfl, rfl⟩
  | shift further =>
      rw [moves] at steps
      cases steps
      cases kinds with
      | nil => exact absurd moves (move_none_ne_shift control further)
      | cons kind others => exact .inr ⟨kind, others, further, rfl, moves, rfl⟩
  | refuse refusal => simp [moves] at steps
  | finish => simp [moves] at steps

/-- The kinds of an input that is half read. -/
def Semantics.forget (semantics : Semantics Input Values) (config : Config Input Values) :
    Config Kind Unit :=
  ⟨config.control, (), config.rest.map semantics.kind⟩

/-- The machine does the same on the kinds of an input as on the input. -/
theorem Semantics.Reaches.runs {semantics : Semantics Input Values}
    {first second : Config Input Values} (reaches : semantics.Reaches first second) :
    onKinds.Reaches (semantics.forget first) (semantics.forget second) := by
  induction reaches with
  | refl => exact .refl _
  | @tail middle last _ steps inductionHypothesis =>
      refine inductionHypothesis.trans (.of_step ?_)
      rcases middle with ⟨control, values, rest⟩
      have steps : semantics.step ⟨control, values, rest⟩ = some last := steps
      simp only [Semantics.step, Semantics.forget, map_kind_onKinds, List.head?_map]
        at steps ⊢
      cases moves : control.move (rest.head?.map semantics.kind) <;>
        simp only [moves, Option.some.injEq, reduceCtorEq] at steps ⊢
      · rw [← steps, List.map_tail]
      · rw [← steps]

end Script.Machine
