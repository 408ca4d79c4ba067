import Script.Token.Kind

/-!
# Binding levels

Each binary operator belongs to one of six levels.  The operators of a level are
folded from the left over operands of the next tighter level; the operands of the
tightest level are unary expressions.
-/

namespace Script

/-- A level of binary operators, the loosest first. -/
inductive Level where
  | logicalOr
  | logicalAnd
  | equality
  | relational
  | additive
  | multiplicative
  deriving DecidableEq, Repr

namespace Level

/-- Every level, the loosest first. -/
def all : List Level :=
  [.logicalOr, .logicalAnd, .equality, .relational, .additive, .multiplicative]

/-- The name of a level. -/
def name : Level → String
  | .logicalOr => "LogicalOr"
  | .logicalAnd => "LogicalAnd"
  | .equality => "Equality"
  | .relational => "Relational"
  | .additive => "Additive"
  | .multiplicative => "Multiplicative"

/-- The level of a given name. -/
def ofName? (name : String) : Option Level :=
  all.find? fun level => level.name = name

/-- The kind of the operators of a level. -/
def operator : Level → Kind
  | .logicalOr => .logicalOr
  | .logicalAnd => .logicalAnd
  | .equality => .equalityOperator
  | .relational => .relationalOperator
  | .additive => .additiveOperator
  | .multiplicative => .multiplicativeOperator

/-- The level of an operator's kind. -/
def ofKind? (kind : Kind) : Option Level :=
  all.find? fun level => level.operator = kind

/-- The next tighter level. -/
def tighter? : Level → Option Level
  | .logicalOr => some .logicalAnd
  | .logicalAnd => some .equality
  | .equality => some .relational
  | .relational => some .additive
  | .additive => some .multiplicative
  | .multiplicative => none

/-- How many levels are tighter. -/
def looseness : Level → Nat
  | .logicalOr => 5
  | .logicalAnd => 4
  | .equality => 3
  | .relational => 2
  | .additive => 1
  | .multiplicative => 0

/-- Whether the operators of a level decide which operands are evaluated. -/
def isLogical : Level → Bool
  | .logicalOr | .logicalAnd => true
  | _ => false

/-- The kinds of the operators that bind tighter, in the order of all kinds. -/
def tighterKinds (level : Level) : List Kind :=
  Kind.all.filter fun kind =>
    match ofKind? kind with
    | some other => other.looseness < level.looseness
    | none => false

/-- A tighter level is less loose. -/
theorem looseness_lt_of_tighter? {level tighter : Level}
    (next : level.tighter? = some tighter) :
    tighter.looseness < level.looseness := by
  cases level <;> simp_all [tighter?] <;> subst next <;> decide

/-- A kind belongs to the level whose operators have it. -/
theorem ofKind?_eq_some {kind : Kind} {level : Level} :
    ofKind? kind = some level ↔ kind = level.operator := by
  cases level <;> cases kind <;> decide

/-- There are six levels. -/
theorem looseness_le (level : Level) : level.looseness ≤ 5 := by
  cases level <;> decide

end Level

end Script
