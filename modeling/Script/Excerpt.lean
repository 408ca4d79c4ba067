import Script.Diagnostic
import Script.Text.Lines
import Script.Text.WhiteSpace

/-!
# Excerpts

A diagnostic is shown with the source line it belongs to.  The line loses its
indentation and the white space at its end, and a caret stands under the column
of the diagnostic:

    Error: UnrecognisedToken (unrecognised token: "#")
    -> shell
      |
    1 | let a = #;
      | --------^
-/

namespace Script.Excerpt

open Script.Text

/-- Whether a character indents a line. -/
def isIndent (character : Char) : Bool :=
  character = ' ' || character = '\t'

/-- A line without its indentation. -/
def dedented (line : List Char) : List Char :=
  line.dropWhile isIndent

/-- How many characters indent a line. -/
def indentation (line : List Char) : Nat :=
  (line.takeWhile isIndent).length

/-- A line without the white space at its end. -/
def trimmedEnd (line : List Char) : List Char :=
  (line.reverse.dropWhile isWhiteSpace).reverse

/-- The text of a line as an excerpt shows it. -/
def shownLine (line : List Char) : List Char :=
  trimmedEnd (dedented line)

/-- The rule left of a line that carries no number, as wide as a numbered one. -/
def margin (number : Nat) : List Char :=
  List.replicate ((Nat.toDigits 10 number).length + 1) ' ' ++ ['|']

/-- The caret under a column, with dashes leading up to it. -/
def caret (place : Place) : List Char :=
  List.replicate (place.column - indentation place.line) '-' ++ ['^']

/-- The parenthesised explanation: the tip where there is one, else the message. -/
def explanation (cause : Cause) : String :=
  cause.tip?.getD cause.message

/-- The lines of an excerpt, from the heading to the caret. -/
def rows (diagnostic : Diagnostic) (source : List Char) : List (List Char) :=
  let place := Text.place source diagnostic.position.offset.toNat
  [ ("Error: " ++ diagnostic.cause.name ++ " ("
      ++ explanation diagnostic.cause ++ ")").toList,
    ("-> " ++ diagnostic.position.file).toList,
    margin place.number,
    Nat.toDigits 10 place.number ++ " | ".toList ++ shownLine place.line,
    margin place.number ++ [' '] ++ caret place ]

/-- A diagnostic with the source line it belongs to. -/
def render (diagnostic : Diagnostic) (source : String) : String :=
  String.ofList ((rows diagnostic source.toList).flatMap (· ++ ['\n']))

end Script.Excerpt
