import Script.Parser.Statement

/-!
# Requests

Everything a parser can be asked for: to start on a source, to run one of its
productions where it stands, to read a list of statements, or to take a token.
A request is answered in any state, and the state it leaves takes the next one.
-/

namespace Script.Parser

/--
The productions that build a node, also those that only other productions run: what
stands between operators, a condition in its parentheses, and declarations.
-/
inductive Production where
  | expression
  | assignment
  | binary (level : Level)
  | operand (level : Level)
  | unary
  | member
  | primary
  | grouping
  | identifier
  | literal
  | program
  | statement
  | emptyStatement
  | block
  | expressionStatement
  | declarationStatement
  | declarations
  | declaration
  | condition
  | conditional
  | whileLoop
  | doWhileLoop
  | forLoop
  | function
  | returnStatement
  deriving DecidableEq, Repr

/-- What a parser can be asked for. -/
inductive Request where
  /-- Start on a source and read all of it. -/
  | parse (source : String)
  /-- Run a production. -/
  | produce (production : Production)
  /-- Read statements up to a kind of token. -/
  | statements (stop : Option Kind)
  /-- Take the token looked at. -/
  | advance
  /-- Take the token looked at if it is of a kind. -/
  | expect (kind : Kind)
  deriving DecidableEq, Repr

/-- What a request that succeeds gives. -/
inductive Answer (Node : Type) where
  | node (node : Node)
  | nodes (nodes : List Node)
  | token (token : Token)
  deriving Repr

namespace Outcome

/-- The same outcome with another value. -/
def map {α β : Type} (change : α → β) (outcome : Outcome α) : Outcome β :=
  ⟨outcome.answer.map change, outcome.next⟩

end Outcome

/--
Put a state at the start of a source and look at its first token.  If no rule
accepts the first character, the state keeps the token it looked at before.
-/
def load (state : State) (source : String) : Outcome Unit :=
  match (Lexer.start source state.file).next with
  | .token first lexer _ =>
      ⟨.ok (), { state with lexer := lexer, lookahead := some first }⟩
  | .finished lexer _ =>
      ⟨.ok (), { state with lexer := lexer, lookahead := none }⟩
  | .rejected diagnostic lexer _ =>
      ⟨.error diagnostic, { state with lexer := lexer }⟩

variable {Node : Type} [Builder Node]

/-- Run a production in a state. -/
def produce (production : Production) (state : State) : Outcome Node :=
  match production with
  | .expression => (expression state).outcome
  | .assignment => (assignment state).outcome
  | .binary level => (binary level state).outcome
  | .operand level => (operand level state).outcome
  | .unary => (unary state).outcome
  | .member => (member state).outcome
  | .primary => (primary state).outcome
  | .grouping => (grouping state).outcome
  | .identifier => (identifier state).outcome
  | .literal => (literal state).outcome
  | .program => (program state).outcome
  | .statement => (statement state).outcome
  | .emptyStatement => (emptyStatement state).outcome
  | .block => (block state).outcome
  | .expressionStatement => (expressionStatement state).outcome
  | .declarationStatement => (declarationStatement state).outcome
  | .declarations => (declarations state).outcome
  | .declaration => (declaration state).outcome
  | .condition => (condition state).outcome
  | .conditional => (conditional state).outcome
  | .whileLoop => (whileLoop state).outcome
  | .doWhileLoop => (doWhileLoop state).outcome
  | .forLoop => (forLoop state).outcome
  | .function => (function state).outcome
  | .returnStatement => (returnStatement state).outcome

/-- Start on a source and read all of it. -/
def parseFrom (state : State) (source : String) : Outcome Node :=
  match load state source with
  | ⟨.ok (), loaded⟩ => produce .program loaded
  | ⟨.error diagnostic, loaded⟩ => ⟨.error diagnostic, loaded⟩

/-- Answer a request in a state. -/
def respond (request : Request) (state : State) : Outcome (Answer Node) :=
  match request with
  | .parse source => (parseFrom state source).map .node
  | .produce production => (produce production state).map .node
  | .statements stop => (statements stop state state.weight_lt_succ).outcome.map .nodes
  | .advance => state.advance.outcome.map .token
  | .expect kind => (state.expect kind).outcome.map .token

/-- The node of a whole source. -/
def parse (source : String) (file : Option String) : Except Diagnostic Node :=
  (parseFrom (State.initial file) source).answer

end Script.Parser
