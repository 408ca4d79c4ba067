import Script.Position
import Script.Token.Kind

/-!
# Tokens

A token keeps the exact text it was read from; a string keeps its quotes.  What
the grammar sees of a token is its lexeme, without its place.
-/

namespace Script

/-- What the grammar sees of a token. -/
structure Lexeme where
  kind : Kind
  text : String
  deriving DecidableEq, Repr, Inhabited

/-- The contents of a quoted text, which is one character longer at both ends. -/
def unquoted (text : String) : String :=
  String.ofList (text.toList.drop 1).dropLast

/-- A significant piece of a source. -/
structure Token where
  kind : Kind
  text : String
  span : Span
  deriving DecidableEq, Repr, Inhabited

namespace Token

/-- The position where a token starts. -/
def start (token : Token) : Position :=
  token.span.startPosition

/-- A token without its place. -/
def lexeme (token : Token) : Lexeme :=
  ⟨token.kind, token.text⟩

/-- A token in words, for a reader of the token stream. -/
def summary (token : Token) : String :=
  "Token \x7b\nkind: " ++ token.kind.name ++ ",\nvalue: " ++ token.text ++ "\x7d"

end Token

end Script
