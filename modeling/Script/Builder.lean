import Script.Numeral

/-!
# Builders

The grammar does not fix what its productions build.  A builder gives one node
for each production, and says which nodes may be assigned to and how a node is
named in a message.
-/

namespace Script

/-- What the productions of the grammar build. -/
class Builder (Node : Type) where
  program (body : List Node) : Node
  block (body : List Node) : Node
  empty : Node
  expression (expression : Node) : Node
  declarations (items : List Node) : Node
  declaration (id : Node) (init : Option Node) : Node
  conditional (test consequent : Node) (alternate : Option Node) : Node
  whileLoop (test body : Node) : Node
  doWhileLoop (body test : Node) : Node
  forLoop (init test update : Option Node) (body : Node) : Node
  function (name : Node) (params : List Node) (body : Node) : Node
  returning (argument : Option Node) : Node
  assignment (operator : String) (left right : Node) : Node
  logical (operator : String) (left right : Node) : Node
  binary (operator : String) (left right : Node) : Node
  unary (operator : String) (argument : Node) : Node
  member (computed : Bool) (object property : Node) : Node
  identifier (name : String) : Node
  number (value : Numeral) : Node
  /-- A string, its quotes left out. -/
  string (value : String) : Node
  boolean (value : Bool) : Node
  null : Node
  /-- Whether a node may stand left of an assignment operator. -/
  isAssignable (node : Node) : Bool
  /-- A node in a message. -/
  describe (node : Node) : String

end Script
