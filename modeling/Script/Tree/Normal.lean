import Script.Tree.Basic

/-!
# Normal forms of trees

List expressions do not tell an empty statement from the statement `null;`, an
absent part from `null`, or several declarations after one `let` from a block of
single declarations.  The normal form of a tree fills and splits these in one way
and leaves everything else as it is.
-/

namespace Script.Tree

/-- A statement that does nothing, in normal form. -/
def nullStatement : Tree :=
  .expression .null

/-- Declarations in the place of a statement: several ones become a block of single ones. -/
def splitDeclarations : List Tree → Tree
  | [] => .declarations []
  | [item] => .declarations [item]
  | items => .block (items.map fun item => .declarations [item])

mutual

/-- The normal form of a node. -/
def normal : Tree → Tree
  | .program body => .program (normals body)
  | .block body => .block (normals body)
  | .empty => nullStatement
  | .expression inner => .expression (normal inner)
  | .declarations items => splitDeclarations (normals items)
  | .declaration id init => .declaration (normal id) (some (normalOr .null init))
  | .conditional test consequent alternate =>
      .conditional (normal test) (normal consequent) (some (normalOr nullStatement alternate))
  | .whileLoop test body => .whileLoop (normal test) (normal body)
  | .doWhileLoop body test => .doWhileLoop (normal body) (normal test)
  | .forLoop init test update body =>
      .forLoop (some (normalStart init)) (some (normalOr .null test))
        (some (normalOr .null update)) (normal body)
  | .function name params body => .function (normal name) (normals params) (normal body)
  | .returning argument => .returning (some (normalOr .null argument))
  | .assignment operator left right => .assignment operator (normal left) (normal right)
  | .logical operator left right => .logical operator (normal left) (normal right)
  | .binary operator left right => .binary operator (normal left) (normal right)
  | .unary operator argument => .unary operator (normal argument)
  | .member computed object property => .member computed (normal object) (normal property)
  | .identifier name => .identifier name
  | .number value => .number value
  | .string value => .string value
  | .boolean value => .boolean value
  | .null => .null

/-- The normal forms of several nodes. -/
def normals : List Tree → List Tree
  | [] => []
  | node :: others => normal node :: normals others

/-- The normal form of a part, or what stands for it where it is absent. -/
def normalOr (absent : Tree) : Option Tree → Tree
  | none => absent
  | some node => normal node

/-- The normal form of what a loop starts with, where declarations stay together. -/
def normalStart : Option Tree → Tree
  | none => .null
  | some (.declarations items) => .declarations (normals items)
  | some node => normal node

end

end Script.Tree
