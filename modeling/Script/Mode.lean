import Script.Text.Quoted

/-!
# Modes

A source is read into a syntax tree or into a list expression.
-/

namespace Script

/-- What a source is read into. -/
inductive Mode where
  | tree
  | list
  deriving DecidableEq, Repr, Inhabited

namespace Mode

/-- The name of a mode. -/
def name : Mode → String
  | .tree => "default"
  | .list => "s-expression"

/-- The mode of a given name. -/
def ofName? (name : String) : Option Mode :=
  [tree, list].find? fun mode => mode.name = name

/-- What is said of a name that no mode has. -/
def unknownMessage (name : String) : String :=
  "unknown AST mode: " ++ Text.quoted name

end Mode

end Script
