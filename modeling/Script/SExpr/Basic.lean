import Script.Numeral

/-!
# List expressions

The nested-list form of a program.  A sequence is `(begin (…))`, a literal stands
for itself, and every other construct is a list headed by a symbol.  An absent
part is `nil`.
-/

namespace Script

/-- A list expression. -/
inductive SExpr where
  | number (value : Numeral)
  /-- The contents of a string, its quotes left out. -/
  | string (value : String)
  | symbol (name : String)
  | boolean (value : Bool)
  | nil
  | list (items : List SExpr)
  deriving Repr, Inhabited

namespace SExpr

/-- A list headed by a symbol. -/
def form (head : String) (items : List SExpr) : SExpr :=
  .list (.symbol head :: items)

/-- A sequence of expressions. -/
def begin (body : List SExpr) : SExpr :=
  form "begin" [.list body]

/-- The symbol at the head of a list. -/
def head? : SExpr → Option String
  | .list (.symbol head :: _) => some head
  | _ => none

/-- The expressions of a sequence. -/
def beginBody? : SExpr → Option (List SExpr)
  | .list [.symbol head, .list body] => if head = "begin" then some body else none
  | _ => none

/-- Only symbols and the two forms of member access may be assigned to. -/
def isAssignable : SExpr → Bool
  | .symbol _ => true
  | .list [.symbol head, _, _] => head = "prop" || head = "index"
  | _ => false

end SExpr

end Script
