import Script.SExpr.Basic

/-!
# Equality of list expressions

Two list expressions are compared part by part.  The comparison answers true
exactly on equal expressions, which makes equality decidable.
-/

namespace Script.SExpr

mutual

/-- Whether two expressions agree part by part. -/
def same : SExpr → SExpr → Bool
  | .number first, .number second => first = second
  | .string first, .string second => first = second
  | .symbol first, .symbol second => first = second
  | .boolean first, .boolean second => first = second
  | .nil, .nil => true
  | .list first, .list second => sameItems first second
  | _, _ => false

/-- Whether two lists of expressions agree item by item. -/
def sameItems : List SExpr → List SExpr → Bool
  | [], [] => true
  | first :: firstOthers, second :: secondOthers =>
      same first second && sameItems firstOthers secondOthers
  | _, _ => false

end

mutual

/-- Expressions that agree part by part are equal. -/
theorem eq_of_same : (first second : SExpr) → same first second = true → first = second
  | .number _, second, agree => by cases second <;> simp_all [same]
  | .string _, second, agree => by cases second <;> simp_all [same]
  | .symbol _, second, agree => by cases second <;> simp_all [same]
  | .boolean _, second, agree => by cases second <;> simp_all [same]
  | .nil, second, agree => by cases second <;> simp_all [same]
  | .list items, second, agree => by
      cases second with
      | list others =>
          simp only [same] at agree
          rw [eq_of_sameItems items others agree]
      | _ => simp [same] at agree

/-- Lists that agree item by item are equal. -/
theorem eq_of_sameItems :
    (first second : List SExpr) → sameItems first second = true → first = second
  | [], second, agree => by cases second <;> simp_all [sameItems]
  | item :: items, second, agree => by
      cases second with
      | nil => simp [sameItems] at agree
      | cons other others =>
          simp only [sameItems, Bool.and_eq_true] at agree
          rw [eq_of_same item other agree.1, eq_of_sameItems items others agree.2]

end

mutual

/-- Every expression agrees with itself. -/
theorem same_self : (expression : SExpr) → same expression expression = true
  | .number _ => by simp [same]
  | .string _ => by simp [same]
  | .symbol _ => by simp [same]
  | .boolean _ => by simp [same]
  | .nil => by simp [same]
  | .list items => by simp [same, sameItems_self items]

/-- Every list agrees with itself. -/
theorem sameItems_self : (items : List SExpr) → sameItems items items = true
  | [] => by simp [sameItems]
  | item :: items => by simp [sameItems, same_self item, sameItems_self items]

end

instance : DecidableEq SExpr := fun first second =>
  decidable_of_iff (same first second = true)
    ⟨eq_of_same first second, fun equal => equal ▸ same_self first⟩

end Script.SExpr
