import Script.SExpr.Basic
import Script.Tree.Basic

/-!
# The list form of a tree

A program and a block become sequences, a statement of one expression becomes
that expression, and every other node becomes a list headed by what it is or by
its operator.  An absent part becomes `nil`, and so does an empty statement.
-/

namespace Script.Tree

mutual

/-- The list expression of a node. -/
def listForm : Tree → SExpr
  | .program body => .list [.symbol "begin", .list (listForms body)]
  | .block body => .list [.symbol "begin", .list (listForms body)]
  | .empty => .nil
  | .expression inner => listForm inner
  | .declarations [item] => listForm item
  | .declarations items => .list [.symbol "begin", .list (listForms items)]
  | .declaration id init => .list [.symbol "var", listForm id, listFormOrNil init]
  | .conditional test consequent alternate =>
      .list [.symbol "if", listForm test, listForm consequent, listFormOrNil alternate]
  | .whileLoop test body => .list [.symbol "while", listForm test, listForm body]
  | .doWhileLoop body test => .list [.symbol "do-while", listForm body, listForm test]
  | .forLoop init test update body =>
      .list
        [.symbol "for", listFormOrNil init, listFormOrNil test, listFormOrNil update,
          listForm body]
  | .function name params body =>
      .list [.symbol "def", listForm name, .list (listForms params), listForm body]
  | .returning argument => .list [.symbol "return", listFormOrNil argument]
  | .assignment operator left right => .list [.symbol operator, listForm left, listForm right]
  | .logical operator left right => .list [.symbol operator, listForm left, listForm right]
  | .binary operator left right => .list [.symbol operator, listForm left, listForm right]
  | .unary operator argument => .list [.symbol operator, listForm argument]
  | .member true object property => .list [.symbol "index", listForm object, listForm property]
  | .member false object property => .list [.symbol "prop", listForm object, listForm property]
  | .identifier name => .symbol name
  | .number value => .number value
  | .string value => .string value
  | .boolean value => .boolean value
  | .null => .nil

/-- The list expressions of several nodes. -/
def listForms : List Tree → List SExpr
  | [] => []
  | node :: others => listForm node :: listForms others

/-- The list expression of a part that may be absent. -/
def listFormOrNil : Option Tree → SExpr
  | none => .nil
  | some node => listForm node

end

end Script.Tree
