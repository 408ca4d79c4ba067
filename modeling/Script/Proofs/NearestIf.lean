import Script.Proofs.TreeShape

/-!
# Every `else` belongs to the nearest `if`

A statement ends in an open `if` where its last `if` has no `else`, however deep that
`if` lies under alternatives and loops.  An `else` behind such a statement could only
belong to the open `if`, so no conditional that has an `else` has a consequent which
ends in one.

The production of statements never leaves an `else` behind a tree that ends in an open
`if`, which is why the grammar can ask this of each conditional that it derives.  Here
it is carried to the conditionals at every depth of a tree that is read.
-/

namespace Script

open Script.Tree

theorem bindNearest_eq_all (body : List Tree) : bindNearest body = body.all bindsNearest := by
  induction body with
  | nil => rfl
  | cons first others inductionHypothesis =>
      rw [bindNearest, List.all_cons, inductionHypothesis]

theorem bindsNearestOption_eq_all (part : Option Tree) :
    bindsNearestOption part = part.toList.all bindsNearest := by
  cases part <;> simp [bindsNearestOption]

/-! ## Derived trees -/

/-- Only statements hold statements. -/
theorem Tree.bindsNearest_of_role {node : Tree}
    (holdsNone : node.role = .declaration ∨ node.role = .expression) :
    node.bindsNearest = true := by
  cases node <;> simp [role] at holdsNone <;> rfl

theorem Grammar.bindsNearest_binaryTree (level : Level) (operator : String)
    (left right : Tree) : (binaryTree level operator left right).bindsNearest = true := by
  unfold binaryTree
  split <;> rfl

/-- Whatever is derived, each `else` in it belongs to the nearest `if`. -/
theorem Grammar.bindsNearest_of_derives {category : Category} {lexemes : List Lexeme}
    {trees : List Tree} (derives : Derives category lexemes trees) :
    ∀ tree ∈ trees, tree.bindsNearest = true := by
  induction derives with
  | literal literal => cases literal <;> simp [bindsNearest]
  | binaryOperator => simp [bindsNearest_binaryTree]
  -- The grammar asks here for a consequent that does not end in an open `if`.
  | conditionalElse | conditional => simp_all [bindsNearest, bindsNearestOption]
  | block | program => simp_all [bindsNearest, bindNearest_eq_all]
  | _ => simp_all [bindsNearest]

/-! ## The nodes inside a tree -/

theorem Tree.checked_of_isProgram {tree : Tree} (fits : tree.isProgram = true) :
    tree.Checked .program := by
  cases tree with
  | program body =>
      refine ⟨rfl, trivial, ?_⟩
      simpa [parts, Slot.checks, isProgram, areStatements_eq_all, Function.comp_def] using fits
  | _ => simp only [isProgram, Bool.false_eq_true] at fits

/-- Each `else` in a part of a node belongs to the nearest `if` if each one in the node does. -/
theorem Tree.Checked.bindsNearest_part {role : Role} {node part : Tree} {slot : Slot}
    (checked : node.Checked role) (nearest : node.bindsNearest = true)
    (isPart : (slot, part) ∈ node.parts) : part.bindsNearest = true := by
  have admits := (Slot.checked (List.all_eq_true.1 checked.ofParts _ isPart)).1
  cases slot with
  | expression => exact bindsNearest_of_role (.inr admits)
  | declaration => exact bindsNearest_of_role (.inl admits)
  | name =>
      rcases admits with ⟨name, rfl⟩
      rfl
  | target =>
      rcases admits with ⟨name, rfl⟩ | ⟨computed, object, property, rfl⟩ <;> rfl
  | loopStart =>
      rcases admits with isExpression | ⟨items, rfl⟩
      · exact bindsNearest_of_role (.inr isExpression)
      · rfl
  | functionBody =>
      cases node with
      | function name params body => simp_all [parts, bindsNearest]
      | member computed object property => cases computed <;> simp [parts] at isPart
      | _ => simp [parts] at isPart
  | statement =>
      cases node with
      | conditional test consequent alternate =>
          simp only [bindsNearest, bindsNearestOption_eq_all, Bool.and_eq_true,
            List.all_eq_true] at nearest
          simp only [parts, List.mem_cons, Prod.mk.injEq, reduceCtorEq, false_and, true_and,
            false_or, List.mem_map, exists_eq_right] at isPart
          rcases isPart with rfl | ofAlternate
          · exact nearest.1.2
          · exact nearest.2 _ ofAlternate
      | member computed object property => cases computed <;> simp [parts] at isPart
      | _ => simp_all [parts, bindsNearest, bindNearest_eq_all]

/-- Inside a tree in which each `else` belongs to the nearest `if`, no node is an exception. -/
theorem Tree.Inside.bindsNearest {tree node : Tree} {role : Role} {slot : Slot}
    (inside : tree.Inside slot node) (checked : tree.Checked role)
    (nearest : tree.bindsNearest = true) : node.bindsNearest = true := by
  induction inside with
  | part isPart => exact checked.bindsNearest_part nearest isPart
  | deeper outer isPart inductionHypothesis =>
      rcases (Slot.checked (outer.checks checked.ofParts)).2 with ⟨_, checkedWhole⟩
      exact checkedWhole.bindsNearest_part inductionHypothesis isPart

namespace Parser

variable {source : String} {file : Option String} {tree : Tree}

theorem bindsNearest_of_parse (accepts : parse source file = .ok tree) :
    tree.bindsNearest = true := by
  rcases parse_eq_ok_iff.1 accepts with ⟨tokens, lexes, derives⟩
  exact Grammar.bindsNearest_of_derives derives tree (List.mem_singleton.2 rfl)

/--
An `else` belongs to the nearest open `if`: in a tree that is read, no conditional with
an alternative has a consequent that ends in an `if` without one.
-/
theorem else_binds_nearest_if (accepts : parse source file = .ok tree) {slot : Slot}
    {test consequent alternate : Tree}
    (inside : tree.Inside slot (.conditional test consequent (some alternate))) :
    consequent.endsOpen = false := by
  have nearest := inside.bindsNearest (checked_of_isProgram (isProgram_of_parse accepts))
    (bindsNearest_of_parse accepts)
  simp only [bindsNearest, Bool.and_eq_true, Option.isNone_some, Bool.false_or,
    Bool.not_eq_true'] at nearest
  exact nearest.1.1

/-- An `if` under two loops takes the first `else`, so that the second is left to the outer one. -/
theorem buried_if_takes_first_else :
    ∃ (tree test consequent alternate : Tree),
      parse "if (a) while (b) for (;;) if (c) x; else y; else z;" none = .ok tree ∧
        tree.Inside .statement (.conditional test consequent (some alternate)) ∧
          consequent = .whileLoop (.identifier "b") (.forLoop none none none
            (.conditional (.identifier "c") (.expression (.identifier "x"))
              (some (.expression (.identifier "y"))))) ∧
            consequent.endsOpen = false := by
  have accepts : parse "if (a) while (b) for (;;) if (c) x; else y; else z;" none =
      .ok (Tree.program [.conditional (.identifier "a")
        (.whileLoop (.identifier "b") (.forLoop none none none
          (.conditional (.identifier "c") (.expression (.identifier "x"))
            (some (.expression (.identifier "y"))))))
        (some (.expression (.identifier "z")))]) := by
    decide +kernel
  exact ⟨_, _, _, _, accepts, .part (.head _), rfl,
    else_binds_nearest_if accepts (.part (.head _))⟩

end Parser

end Script
