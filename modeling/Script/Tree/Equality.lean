import Script.Tree.Basic

/-!
# Equality of syntax trees

Two trees are compared part by part.  The comparison answers true exactly on
equal trees, which makes equality decidable.
-/

namespace Script.Tree

mutual

/-- Whether two trees agree part by part. -/
def same : Tree → Tree → Bool
  | .program body, .program body' => sameList body body'
  | .block body, .block body' => sameList body body'
  | .empty, .empty => true
  | .expression inner, .expression inner' => same inner inner'
  | .declarations items, .declarations items' => sameList items items'
  | .declaration id init, .declaration id' init' => same id id' && sameOption init init'
  | .conditional test consequent alternate, .conditional test' consequent' alternate' =>
      same test test' && same consequent consequent' && sameOption alternate alternate'
  | .whileLoop test body, .whileLoop test' body' => same test test' && same body body'
  | .doWhileLoop body test, .doWhileLoop body' test' => same body body' && same test test'
  | .forLoop init test update body, .forLoop init' test' update' body' =>
      sameOption init init' && sameOption test test' && sameOption update update'
        && same body body'
  | .function name params body, .function name' params' body' =>
      same name name' && sameList params params' && same body body'
  | .returning argument, .returning argument' => sameOption argument argument'
  | .assignment operator left right, .assignment operator' left' right' =>
      operator = operator' && same left left' && same right right'
  | .logical operator left right, .logical operator' left' right' =>
      operator = operator' && same left left' && same right right'
  | .binary operator left right, .binary operator' left' right' =>
      operator = operator' && same left left' && same right right'
  | .unary operator argument, .unary operator' argument' =>
      operator = operator' && same argument argument'
  | .member computed object property, .member computed' object' property' =>
      computed = computed' && same object object' && same property property'
  | .identifier name, .identifier name' => name = name'
  | .number value, .number value' => value = value'
  | .string value, .string value' => value = value'
  | .boolean value, .boolean value' => value = value'
  | .null, .null => true
  | _, _ => false

/-- Whether two lists of trees agree item by item. -/
def sameList : List Tree → List Tree → Bool
  | [], [] => true
  | item :: items, item' :: items' => same item item' && sameList items items'
  | _, _ => false

/-- Whether two parts that may be absent agree. -/
def sameOption : Option Tree → Option Tree → Bool
  | none, none => true
  | some part, some part' => same part part'
  | _, _ => false

end

mutual

/-- Trees that agree part by part are equal. -/
theorem eq_of_same : (first second : Tree) → same first second = true → first = second
  | .program body, second, agree => by
      cases second <;> simp only [same, Bool.false_eq_true] at agree
      rw [eq_of_sameList body _ agree]
  | .block body, second, agree => by
      cases second <;> simp only [same, Bool.false_eq_true] at agree
      rw [eq_of_sameList body _ agree]
  | .empty, second, agree => by
      cases second <;> simp only [same, Bool.false_eq_true] at agree
      rfl
  | .expression inner, second, agree => by
      cases second <;> simp only [same, Bool.false_eq_true] at agree
      rw [eq_of_same inner _ agree]
  | .declarations items, second, agree => by
      cases second <;> simp only [same, Bool.false_eq_true] at agree
      rw [eq_of_sameList items _ agree]
  | .declaration id init, second, agree => by
      cases second <;> simp only [same, Bool.and_eq_true, Bool.false_eq_true] at agree
      rw [eq_of_same id _ agree.1, eq_of_sameOption init _ agree.2]
  | .conditional test consequent alternate, second, agree => by
      cases second <;> simp only [same, Bool.and_eq_true, Bool.false_eq_true] at agree
      rw [eq_of_same test _ agree.1.1, eq_of_same consequent _ agree.1.2,
        eq_of_sameOption alternate _ agree.2]
  | .whileLoop test body, second, agree => by
      cases second <;> simp only [same, Bool.and_eq_true, Bool.false_eq_true] at agree
      rw [eq_of_same test _ agree.1, eq_of_same body _ agree.2]
  | .doWhileLoop body test, second, agree => by
      cases second <;> simp only [same, Bool.and_eq_true, Bool.false_eq_true] at agree
      rw [eq_of_same body _ agree.1, eq_of_same test _ agree.2]
  | .forLoop init test update body, second, agree => by
      cases second <;> simp only [same, Bool.and_eq_true, Bool.false_eq_true] at agree
      rw [eq_of_sameOption init _ agree.1.1.1, eq_of_sameOption test _ agree.1.1.2,
        eq_of_sameOption update _ agree.1.2, eq_of_same body _ agree.2]
  | .function name params body, second, agree => by
      cases second <;> simp only [same, Bool.and_eq_true, Bool.false_eq_true] at agree
      rw [eq_of_same name _ agree.1.1, eq_of_sameList params _ agree.1.2,
        eq_of_same body _ agree.2]
  | .returning argument, second, agree => by
      cases second <;> simp only [same, Bool.false_eq_true] at agree
      rw [eq_of_sameOption argument _ agree]
  | .assignment operator left right, second, agree => by
      cases second <;>
        simp only [same, Bool.and_eq_true, decide_eq_true_eq, Bool.false_eq_true] at agree
      rw [agree.1.1, eq_of_same left _ agree.1.2, eq_of_same right _ agree.2]
  | .logical operator left right, second, agree => by
      cases second <;>
        simp only [same, Bool.and_eq_true, decide_eq_true_eq, Bool.false_eq_true] at agree
      rw [agree.1.1, eq_of_same left _ agree.1.2, eq_of_same right _ agree.2]
  | .binary operator left right, second, agree => by
      cases second <;>
        simp only [same, Bool.and_eq_true, decide_eq_true_eq, Bool.false_eq_true] at agree
      rw [agree.1.1, eq_of_same left _ agree.1.2, eq_of_same right _ agree.2]
  | .unary operator argument, second, agree => by
      cases second <;>
        simp only [same, Bool.and_eq_true, decide_eq_true_eq, Bool.false_eq_true] at agree
      rw [agree.1, eq_of_same argument _ agree.2]
  | .member computed object property, second, agree => by
      cases second <;>
        simp only [same, Bool.and_eq_true, decide_eq_true_eq, Bool.false_eq_true] at agree
      rw [agree.1.1, eq_of_same object _ agree.1.2, eq_of_same property _ agree.2]
  | .identifier name, second, agree => by
      cases second <;> simp only [same, decide_eq_true_eq, Bool.false_eq_true] at agree
      rw [agree]
  | .number value, second, agree => by
      cases second <;> simp only [same, decide_eq_true_eq, Bool.false_eq_true] at agree
      rw [agree]
  | .string value, second, agree => by
      cases second <;> simp only [same, decide_eq_true_eq, Bool.false_eq_true] at agree
      rw [agree]
  | .boolean value, second, agree => by
      cases second <;> simp only [same, decide_eq_true_eq, Bool.false_eq_true] at agree
      rw [agree]
  | .null, second, agree => by
      cases second <;> simp only [same, Bool.false_eq_true] at agree
      rfl

/-- Lists that agree item by item are equal. -/
theorem eq_of_sameList :
    (first second : List Tree) → sameList first second = true → first = second
  | [], second, agree => by
      cases second with
      | nil => rfl
      | cons _ _ => simp [sameList] at agree
  | item :: items, second, agree => by
      cases second with
      | nil => simp [sameList] at agree
      | cons other others =>
          simp only [sameList, Bool.and_eq_true] at agree
          rw [eq_of_same item other agree.1, eq_of_sameList items others agree.2]

/-- Parts that agree are equal. -/
theorem eq_of_sameOption :
    (first second : Option Tree) → sameOption first second = true → first = second
  | none, second, agree => by
      cases second with
      | none => rfl
      | some _ => simp [sameOption] at agree
  | some part, second, agree => by
      cases second with
      | none => simp [sameOption] at agree
      | some other =>
          simp only [sameOption] at agree
          rw [eq_of_same part other agree]

end

mutual

/-- Every tree agrees with itself. -/
theorem same_self : (tree : Tree) → same tree tree = true
  | .program body => by simp [same, sameList_self body]
  | .block body => by simp [same, sameList_self body]
  | .empty => by simp [same]
  | .expression inner => by simp [same, same_self inner]
  | .declarations items => by simp [same, sameList_self items]
  | .declaration id init => by simp [same, same_self id, sameOption_self init]
  | .conditional test consequent alternate => by
      simp [same, same_self test, same_self consequent, sameOption_self alternate]
  | .whileLoop test body => by simp [same, same_self test, same_self body]
  | .doWhileLoop body test => by simp [same, same_self body, same_self test]
  | .forLoop init test update body => by
      simp [same, sameOption_self init, sameOption_self test, sameOption_self update,
        same_self body]
  | .function name params body => by
      simp [same, same_self name, sameList_self params, same_self body]
  | .returning argument => by simp [same, sameOption_self argument]
  | .assignment _ left right => by simp [same, same_self left, same_self right]
  | .logical _ left right => by simp [same, same_self left, same_self right]
  | .binary _ left right => by simp [same, same_self left, same_self right]
  | .unary _ argument => by simp [same, same_self argument]
  | .member _ object property => by simp [same, same_self object, same_self property]
  | .identifier _ => by simp [same]
  | .number _ => by simp [same]
  | .string _ => by simp [same]
  | .boolean _ => by simp [same]
  | .null => by simp [same]

/-- Every list agrees with itself. -/
theorem sameList_self : (items : List Tree) → sameList items items = true
  | [] => by simp [sameList]
  | item :: items => by simp [sameList, same_self item, sameList_self items]

/-- Every part that may be absent agrees with itself. -/
theorem sameOption_self : (part : Option Tree) → sameOption part part = true
  | none => by simp [sameOption]
  | some part => by simp [sameOption, same_self part]

end

instance : DecidableEq Tree := fun first second =>
  decidable_of_iff (same first second = true)
    ⟨eq_of_same first second, fun equal => equal ▸ same_self first⟩

end Script.Tree
