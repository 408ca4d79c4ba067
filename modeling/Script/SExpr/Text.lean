import Script.Json.Basic
import Script.SExpr.Basic

/-!
# Texts of list expressions

A list expression is written as Lisp text or as nested JSON arrays.  In both a
string keeps its double quotes; in JSON a symbol is a string without them.
-/

namespace Script.SExpr

/-- A string in double quotes, with a backslash before each quote and backslash in it. -/
def quote (value : String) : String :=
  String.ofList
    (['"'] ++ value.toList.flatMap (fun character =>
      if character = '"' || character = '\\' then ['\\', character] else [character]) ++ ['"'])

mutual

/-- The Lisp text of an expression, and the text after it. -/
def lispThen : SExpr → List Char → List Char
  | .number value, after => value.plainText.toList ++ after
  | .string value, after => (quote value).toList ++ after
  | .symbol name, after => name.toList ++ after
  | .boolean value, after => Json.booleanText value ++ after
  | .nil, after => "nil".toList ++ after
  | .list items, after => '(' :: lispItemsThen items (')' :: after)

/-- The items of a list with spaces between them, and the text after them. -/
def lispItemsThen : List SExpr → List Char → List Char
  | [], after => after
  | [last], after => lispThen last after
  | item :: next :: others, after =>
      lispThen item (' ' :: lispItemsThen (next :: others) after)

end

/-- The Lisp text of an expression. -/
def lisp (expression : SExpr) : String :=
  String.ofList (expression.lispThen [])

mutual

/-- The JSON value of an expression: lists are arrays, and strings keep their quotes. -/
def toJson : SExpr → Json
  | .number value => .number value
  | .string value => .string (quote value)
  | .symbol name => .string name
  | .boolean value => .boolean value
  | .nil => .null
  | .list items => .array (listToJson items)

/-- The JSON values of several expressions. -/
def listToJson : List SExpr → List Json
  | [] => []
  | item :: others => toJson item :: listToJson others

end

end Script.SExpr
