import Script.Lexer

/-!
# Parser states and replies

A parser owns a lexer and the one token it has looked at ahead of the grammar.
Every production maps a state to a reply: a value or a diagnostic, and in both
cases the state it leaves.

States have a weight, which bounds what is left to read.  A reply that succeeds
carries evidence that the state it leaves weighs less than a bound; the
productions recurse on that evidence.  A production that may take nothing is
given evidence that something was taken before it.
-/

namespace Script.Parser

/-- What a parser knows between two productions. -/
structure State where
  lexer : Lexer
  /-- The next token of the source, unless there is none. -/
  lookahead : Option Token
  /-- The name that sources are read under. -/
  file : Option String
  deriving DecidableEq

namespace State

/-- A parser that has not been given a source. -/
def initial (file : Option String) : State where
  lexer := Lexer.start "" none
  lookahead := none
  file := file

/-- Twice what the lexer has left, and one for a token looked at. -/
def weight (state : State) : Nat :=
  2 * state.lexer.rest.length + (if state.lookahead.isSome then 1 else 0)

/-- The kind of the token looked at. -/
def kind? (state : State) : Option Kind :=
  state.lookahead.map Token.kind

/-- Whether the token looked at is of a kind. -/
def isAt (state : State) (kind : Kind) : Bool :=
  state.kind? = some kind

/-- Where the token looked at starts, or where the lexer stands without one. -/
def position (state : State) : Position :=
  match state.lookahead with
  | some token => token.start
  | none => state.lexer.position

end State

/-- A value or a diagnostic, and the state left behind. -/
structure Outcome (α : Type) where
  answer : Except Diagnostic α
  next : State

/-- A reply whose success leaves a state that weighs less than `bound`. -/
inductive Reply (α : Type) (bound : Nat) where
  | ok (value : α) (next : State) (lighter : next.weight < bound)
  | fail (diagnostic : Diagnostic) (next : State)

/-- What weighs less than a state weighs less than whatever that state does. -/
theorem State.below
    {next state : State}
    {bound : Nat}
    (lighter : next.weight < state.weight)
    (moved : state.weight < bound) :
    next.weight < bound :=
  Nat.lt_trans lighter moved

/-- The bound of a reply that may leave its state as it was. -/
theorem State.weight_lt_succ (state : State) : state.weight < state.weight + 1 :=
  Nat.lt_succ_self _

namespace Reply

variable {α β : Type}

/-- A reply without its evidence. -/
def outcome {bound : Nat} : Reply α bound → Outcome α
  | .ok value next _ => ⟨.ok value, next⟩
  | .fail diagnostic next => ⟨.error diagnostic, next⟩

/-- Go on after a success; a failure stays as it is. -/
@[inline]
def andThen
    {bound final : Nat}
    (reply : Reply α bound)
    (continuation : (value : α) → (next : State) → next.weight < bound → Reply β final) :
    Reply β final :=
  match reply with
  | .ok value next lighter => continuation value next lighter
  | .fail diagnostic next => .fail diagnostic next

/-- A reply from a state, within a bound that the state itself lies below. -/
@[inline]
def after
    {state : State}
    {bound : Nat}
    (reply : Reply α state.weight)
    (moved : state.weight < bound) :
    Reply α bound :=
  match reply with
  | .ok value next lighter => .ok value next (State.below lighter moved)
  | .fail diagnostic next => .fail diagnostic next

/-- The same reply with another value. -/
@[inline]
def map {bound : Nat} (change : α → β) (reply : Reply α bound) : Reply β bound :=
  match reply with
  | .ok value next lighter => .ok (change value) next lighter
  | .fail diagnostic next => .fail diagnostic next

end Reply

namespace State

/--
Take the token looked at and look at the one after it.  A character that no rule
accepts leaves no token to look at.
-/
def advance (state : State) : Reply Token state.weight :=
  match held : state.lookahead with
  | none =>
      .fail ⟨.unexpectedEndOfInput "token", state.position⟩ state
  | some token =>
      match state.lexer.next with
      | .token following lexer shorter =>
          .ok token { state with lexer := lexer, lookahead := some following } (by
            simp only [weight, held, Option.isSome_some, if_true]
            omega)
      | .finished lexer notLonger =>
          .ok token { state with lexer := lexer, lookahead := none } (by
            simp only [weight, held, Option.isSome_some, Option.isSome_none, if_true]
            simp
            omega)
      | .rejected diagnostic lexer _ =>
          .fail diagnostic { state with lexer := lexer, lookahead := none }

/-- Take the token looked at if it is of a kind. -/
def expect (state : State) (kind : Kind) : Reply Token state.weight :=
  match state.lookahead with
  | none =>
      .fail ⟨.unexpectedEndOfInput kind.name, state.position⟩ state
  | some token =>
      if token.kind = kind then
        state.advance
      else
        .fail ⟨.unexpectedToken token.text kind.name, token.start⟩ state

/-- The failure of a production that the token looked at cannot start. -/
def unexpected {α : Type} {bound : Nat} (state : State) (expected : String) : Reply α bound :=
  match state.lookahead with
  | some token => .fail ⟨.unexpectedLiteral token.text, token.start⟩ state
  | none => .fail ⟨.unexpectedEndOfInput expected, state.position⟩ state

end State

end Script.Parser
