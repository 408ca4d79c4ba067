import Script.Json.Basic
import Script.Tree.Basic

/-!
# Syntax trees as JSON

A node is written as an object whose first field is the name of its type; its
parts follow in order, and an absent part is `null`.
-/

namespace Script.Tree

mutual

/-- The JSON object of a node: its type, then its parts in order. -/
def toJson : Tree → Json
  | .program body =>
      .object [("type", .string "Program"), ("body", .array (listToJson body))]
  | .block body =>
      .object [("type", .string "BlockStatement"), ("body", .array (listToJson body))]
  | .empty =>
      .object [("type", .string "EmptyStatement")]
  | .expression inner =>
      .object [("type", .string "ExpressionStatement"), ("expression", toJson inner)]
  | .declarations items =>
      .object [("type", .string "VariableStatement"), ("declarations", .array (listToJson items))]
  | .declaration id init =>
      .object
        [("type", .string "VariableDeclaration"), ("id", toJson id), ("init", optionToJson init)]
  | .conditional test consequent alternate =>
      .object
        [("type", .string "IfStatement"), ("test", toJson test),
          ("consequent", toJson consequent), ("alternate", optionToJson alternate)]
  | .whileLoop test body =>
      .object [("type", .string "WhileStatement"), ("test", toJson test), ("body", toJson body)]
  | .doWhileLoop body test =>
      .object [("type", .string "DoWhileStatement"), ("body", toJson body), ("test", toJson test)]
  | .forLoop init test update body =>
      .object
        [("type", .string "ForStatement"), ("init", optionToJson init),
          ("test", optionToJson test), ("update", optionToJson update), ("body", toJson body)]
  | .function name params body =>
      .object
        [("type", .string "FunctionDeclaration"), ("name", toJson name),
          ("params", .array (listToJson params)), ("body", toJson body)]
  | .returning argument =>
      .object [("type", .string "ReturnStatement"), ("argument", optionToJson argument)]
  | .assignment operator left right =>
      .object
        [("type", .string "AssignmentExpression"), ("operator", .string operator),
          ("left", toJson left), ("right", toJson right)]
  | .logical operator left right =>
      .object
        [("type", .string "LogicalExpression"), ("operator", .string operator),
          ("left", toJson left), ("right", toJson right)]
  | .binary operator left right =>
      .object
        [("type", .string "BinaryExpression"), ("operator", .string operator),
          ("left", toJson left), ("right", toJson right)]
  | .unary operator argument =>
      .object
        [("type", .string "UnaryExpression"), ("operator", .string operator),
          ("argument", toJson argument)]
  | .member computed object property =>
      .object
        [("type", .string "MemberExpression"), ("computed", .boolean computed),
          ("object", toJson object), ("property", toJson property)]
  | .identifier name =>
      .object [("type", .string "Identifier"), ("name", .string name)]
  | .number value =>
      .object [("type", .string "NumericLiteral"), ("value", .number value)]
  | .string value =>
      .object [("type", .string "StringLiteral"), ("value", .string value)]
  | .boolean value =>
      .object [("type", .string "BooleanLiteral"), ("value", .boolean value)]
  | .null =>
      .object [("type", .string "NullLiteral")]

/-- The JSON values of several nodes. -/
def listToJson : List Tree → List Json
  | [] => []
  | node :: others => toJson node :: listToJson others

/-- The JSON value of a part that may be absent. -/
def optionToJson : Option Tree → Json
  | none => .null
  | some node => toJson node

end

end Script.Tree
