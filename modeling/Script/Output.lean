import Script.Mode
import Script.Parser.Request
import Script.SExpr.Builder
import Script.Tree.Json

/-!
# Outputs

What a source was read into, in the mode that was asked for.
-/

namespace Script

/-- A program in one of the two modes. -/
inductive Output where
  | tree (tree : Tree)
  | list (expression : SExpr)
  deriving Repr

namespace Output

/-- How many statements a program has, where the root is a sequence. -/
def statementCount? : Output → Option Nat
  | .tree root => root.body?.map List.length
  | .list root => root.beginBody?.map List.length

/-- The JSON value of a program. -/
def toJson : Output → Json
  | .tree root => root.toJson
  | .list root => root.toJson

end Output

/-- A parser of a fixed mode, between two sources. -/
structure Session where
  mode : Mode
  state : Parser.State
  deriving DecidableEq

namespace Session

/-- A parser that has read nothing. -/
def start (mode : Mode) (file : Option String) : Session :=
  ⟨mode, Parser.State.initial file⟩

/-- Read a source, and go on with the next one. -/
def parse (session : Session) (source : String) : Except Diagnostic Output × Session :=
  match session.mode with
  | .tree =>
      let outcome := Parser.parseFrom session.state source
      (outcome.answer.map .tree, { session with state := outcome.next })
  | .list =>
      let outcome := Parser.parseFrom session.state source
      (outcome.answer.map .list, { session with state := outcome.next })

/-- Read several sources, one after the other. -/
def parseAll (session : Session) : List String → List (Except Diagnostic Output)
  | [] => []
  | source :: others =>
      let (answer, next) := session.parse source
      answer :: next.parseAll others

end Session

/-- Read one source in a mode. -/
def parse (mode : Mode) (source : String) (file : Option String) : Except Diagnostic Output :=
  ((Session.start mode file).parse source).1

/-! ## Tokens as JSON -/

/-- The JSON object of a token: its kind and its text. -/
def Token.toJson (token : Token) : Json :=
  .object [("type", .string token.kind.name), ("value", .string token.text)]

/-- The JSON array of several tokens. -/
def Token.listToJson (tokens : List Token) : Json :=
  .array (tokens.map Token.toJson)

end Script
