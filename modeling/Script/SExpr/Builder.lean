import Script.Builder
import Script.SExpr.Text

/-!
# Building list expressions

What each production of the grammar builds in list form.
-/

namespace Script.SExpr

/-- A part that may be absent. -/
def orNil (item : Option SExpr) : SExpr :=
  item.getD .nil

instance : Builder SExpr where
  program := begin
  block := begin
  empty := .nil
  expression expression := expression
  declarations items :=
    match items with
    | [item] => item
    | _ => begin items
  declaration id init := form "var" [id, orNil init]
  conditional test consequent alternate := form "if" [test, consequent, orNil alternate]
  whileLoop test body := form "while" [test, body]
  doWhileLoop body test := form "do-while" [body, test]
  forLoop init test update body := form "for" [orNil init, orNil test, orNil update, body]
  function name params body := form "def" [name, .list params, body]
  returning argument := form "return" [orNil argument]
  assignment operator left right := form operator [left, right]
  logical operator left right := form operator [left, right]
  binary operator left right := form operator [left, right]
  unary operator argument := form operator [argument]
  member computed object property := form (if computed then "index" else "prop") [object, property]
  identifier := .symbol
  number := .number
  string := .string
  boolean := .boolean
  null := .nil
  isAssignable := isAssignable
  describe := lisp

end Script.SExpr
