import Script.Position
import Script.Text.Quoted

/-!
# Diagnostics

Why a source was refused, and where.  Each cause has a name, a message and, but
for an unrecognised character, a tip.
-/

namespace Script

/-- Why a source was refused. -/
inductive Cause where
  /-- No lexical rule accepts the text that starts with this character. -/
  | unrecognisedToken (token : String)
  /-- A token stands where another kind had to stand. -/
  | unexpectedToken (token expected : String)
  /-- The source ended where something had to stand. -/
  | unexpectedEndOfInput (expected : String)
  /-- A token stands where an expression had to start. -/
  | unexpectedLiteral (token : String)
  /-- What stands left of an assignment operator cannot be assigned to. -/
  | invalidAssignmentTarget (target : String)
  /-- A number token has no value. -/
  | numberParseError (token : String)
  deriving DecidableEq, Repr

/-- Which stage refused a source. -/
inductive Stage where
  | lexical
  | grammatical
  deriving DecidableEq, Repr

namespace Stage

/-- The name of a stage. -/
def name : Stage → String
  | .lexical => "Lexical"
  | .grammatical => "Syntax"

end Stage

namespace Cause

/-- The name of a cause. -/
def name : Cause → String
  | .unrecognisedToken _ => "UnrecognisedToken"
  | .unexpectedToken _ _ => "UnexpectedToken"
  | .unexpectedEndOfInput _ => "UnexpectedEndOfInput"
  | .unexpectedLiteral _ => "UnexpectedLiteral"
  | .invalidAssignmentTarget _ => "InvalidAssignmentTarget"
  | .numberParseError _ => "NumberParseError"

/-- The stage that a cause belongs to. -/
def stage : Cause → Stage
  | .unrecognisedToken _ => .lexical
  | _ => .grammatical

/-- What happened, with the source text in quotes. -/
def message : Cause → String
  | .unrecognisedToken token =>
      "unrecognised token: " ++ Text.quoted token
  | .unexpectedToken token expected =>
      "unexpected token: " ++ Text.quoted token ++ ", expected: " ++ Text.quoted expected
  | .unexpectedEndOfInput expected =>
      "unexpected end of input, expected: " ++ Text.quoted expected
  | .unexpectedLiteral token =>
      "unexpected literal production: " ++ Text.quoted token
  | .invalidAssignmentTarget target =>
      "invalid left-hand side in assignment expression: " ++ target
  | .numberParseError token =>
      "error parsing number: " ++ Text.quoted token

/-- What the writer of the source may do about it. -/
def tip? : Cause → Option String
  | .unrecognisedToken _ =>
      none
  | .unexpectedToken token expected =>
      if expected = ";" then
        some ("Unexpected token: `" ++ token ++ "`, did you miss a semicolon?")
      else
        some ("Unexpected token: `" ++ token ++ "`, expected `" ++ expected ++ "`")
  | .unexpectedEndOfInput expected =>
      some ("Input ended while `" ++ expected ++ "` was still expected")
  | .unexpectedLiteral token =>
      some ("Unexpected token: `" ++ token ++ "`, expected an expression")
  | .invalidAssignmentTarget target =>
      some ("Cannot assign to " ++ target
        ++ ", only identifiers and member expressions can be assigned")
  | .numberParseError token =>
      some ("Invalid number: `" ++ token ++ "`, only decimal digits are allowed")

end Cause

/-- A cause and the position it was found at. -/
structure Diagnostic where
  cause : Cause
  position : Position
  deriving DecidableEq, Repr

end Script
