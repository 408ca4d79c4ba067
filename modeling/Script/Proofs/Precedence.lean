import Script.Proofs.Pending
import Script.Tree.Equality

/-!
# Precedence of operator chains

Operands with binary operators between them are read level by level: each level
folds its own operators from the left over operands of the next tighter level.  The
tree that comes of it can be told from the whole chain at once.  Its root is the
loosest operator, the last of them where there are several, and its children are the
trees of what stands on the two sides of that operator.

The induction is on how loose a level is, and within a level on the operators that
follow an operand; the part of the chain that is already folded goes along as the
tree of its left side.
-/

namespace Script

namespace Level

theorem looseness_injective : Function.Injective looseness := by
  intro first second same
  cases first <;> cases second <;> first | rfl | cases same

/-- The next tighter level is one less loose. -/
theorem looseness_of_tighter? {level tighter : Level} (next : level.tighter? = some tighter) :
    level.looseness = tighter.looseness + 1 := by
  cases level <;> cases next <;> rfl

/-- Nothing is tighter than the tightest level. -/
theorem looseness_of_tightest {level : Level} (next : level.tighter? = none) :
    level.looseness = 0 := by
  cases level <;> first | rfl | cases next

end Level

namespace Parser

variable {Node : Type}

/-! ## Chains and their trees -/

/-- A binary operator and the operand behind it. -/
structure Link (Node : Type) where
  operator : Token
  level : Level
  /-- The operator is one of its level. -/
  binds : Level.ofKind? operator.kind = some level
  operand : Node

/-- The node of an operator: a logical one exactly where the operator is `&&` or `||`. -/
def Link.node [Builder Node] (link : Link Node) (left right : Node) : Node :=
  if link.operator.kind = .logicalAnd ∨ link.operator.kind = .logicalOr then
    Builder.logical link.operator.text left right
  else
    Builder.binary link.operator.text left right

/--
The tree of a chain.  An operand alone is its own tree.  Otherwise the chain is split
at an operator such that none before it is looser and all behind it are tighter.
-/
inductive Bracketed [Builder Node] : Node → List (Link Node) → Node → Prop where
  | operand (first : Node) : Bracketed first [] first
  | split {first left right : Node} {link : Link Node} {before behind : List (Link Node)}
      (loosest : ∀ other ∈ before, other.level.looseness ≤ link.level.looseness)
      (last : ∀ other ∈ behind, other.level.looseness < link.level.looseness)
      (ofLeft : Bracketed first before left)
      (ofRight : Bracketed link.operand behind right) :
      Bracketed first (before ++ link :: behind) (link.node left right)

/--
Operators and operands follow each other from a state on: each operator is the token
looked at, and each operand is what a unary expression takes behind it.
-/
inductive Chain [Builder Node] : State → List (Link Node) → State → Prop where
  | nil {state : State} : Chain state [] state
  | cons {state afterOperator afterOperand last : State} {link : Link Node}
      {links : List (Link Node)} {lighter : afterOperand.weight < afterOperator.weight}
      (takes : state.Takes link.operator afterOperator)
      (reads : unary afterOperator = .ok link.operand afterOperand lighter)
      (others : Chain afterOperand links last) :
      Chain state (link :: links) last

/-- The level of the operator that a state looks at. -/
def State.level? (state : State) : Option Level :=
  state.kind?.bind Level.ofKind?

/-- Of two places to split a chain at, neither lies before the other. -/
theorem length_before_le {before behind otherBefore otherBehind : List (Link Node)}
    {link other : Link Node}
    (same : before ++ link :: behind = otherBefore ++ other :: otherBehind)
    (last : ∀ later ∈ behind, later.level.looseness < link.level.looseness)
    (otherLoosest : ∀ earlier ∈ otherBefore, earlier.level.looseness ≤ other.level.looseness) :
    otherBefore.length ≤ before.length := by
  by_contra longer
  rw [not_le] at longer
  -- The first operator would stand before the second one, and be looser.
  have inside : link ∈ otherBefore := by
    have found := congrArg (fun links => links[before.length]?) same
    simp only [List.getElem?_append_right (Nat.le_refl _), Nat.sub_self,
      List.getElem?_cons_zero, List.getElem?_append_left longer] at found
    exact List.mem_of_getElem? found.symm
  have behindIt : other ∈ behind := by
    have found := congrArg (fun links => links[otherBefore.length]?) same
    simp only [List.getElem?_append_right (Nat.le_of_lt longer),
      List.getElem?_append_right (Nat.le_refl _), Nat.sub_self,
      List.getElem?_cons_zero] at found
    rw [List.getElem?_cons, if_neg (by omega)] at found
    exact List.mem_of_getElem? found
  have looser := last other behindIt
  have notLooser := otherLoosest link inside
  omega

variable [Builder Node]

/-- A chain has one tree. -/
theorem Bracketed.unique {first tree other : Node} {links : List (Link Node)}
    (bracketed : Bracketed first links tree) (otherBracketed : Bracketed first links other) :
    other = tree := by
  induction bracketed generalizing other with
  | operand first =>
      generalize empty : ([] : List (Link Node)) = links at otherBracketed
      cases otherBracketed with
      | operand => rfl
      | split => simp at empty
  | @split first left right link before behind loosest last _ _ ofLeft ofRight =>
      generalize whole : before ++ link :: behind = links at otherBracketed
      cases otherBracketed with
      | operand => simp at whole
      | @split _ otherLeft otherRight otherLink otherBefore otherBehind otherLoosest otherLast
          toLeft toRight =>
          have length_eq : before.length = otherBefore.length :=
            Nat.le_antisymm (length_before_le whole.symm otherLast loosest)
              (length_before_le whole last otherLoosest)
          rcases List.append_inj whole length_eq with ⟨rfl, tail_eq⟩
          cases tail_eq
          rw [ofLeft toLeft, ofRight toRight]

/-! ## Taking a chain apart -/

theorem Chain.level?_eq {state last : State} {link : Link Node} {links : List (Link Node)}
    (chain : Chain state (link :: links) last) :
    state.level? = some link.level := by
  cases chain with
  | cons takes reads others =>
      rw [State.level?, kind?_of_lookahead takes.cases.1]
      exact link.binds

theorem Chain.of_append {state last : State} {front back : List (Link Node)}
    (chain : Chain state (front ++ back) last) :
    ∃ middle, Chain state front middle ∧ Chain middle back last := by
  induction front generalizing state with
  | nil => exact ⟨state, .nil, chain⟩
  | cons link links inductionHypothesis =>
      cases chain with
      | cons takes reads others =>
          rcases inductionHypothesis others with ⟨middle, ofFront, ofBack⟩
          exact ⟨middle, .cons takes reads ofFront, ofBack⟩

/-- The operators of a level make its nodes. -/
theorem Link.binaryNode_eq (link : Link Node) (left right : Node) :
    binaryNode link.level link.operator.text left right = link.node left right := by
  have kind_eq := Level.ofKind?_eq_some.1 link.binds
  unfold binaryNode Link.node
  rw [kind_eq]
  cases link.level <;> rfl

/--
A chain within a level is cut in front of its first operator of that level: what comes
before is tighter.
-/
theorem Chain.cut {level : Level} {state last : State} {links : List (Link Node)}
    (chain : Chain state links last)
    (within : ∀ link ∈ links, link.level.looseness ≤ level.looseness) :
    ∃ tighter others middle, links = tighter ++ others ∧ Chain state tighter middle ∧
      Chain middle others last ∧
        (∀ link ∈ tighter, link.level.looseness < level.looseness) ∧
          ∀ link ∈ others.head?, link.level = level := by
  have whole : links.takeWhile (fun link => link.level.looseness < level.looseness) ++
      links.dropWhile (fun link => link.level.looseness < level.looseness) = links :=
    List.takeWhile_append_dropWhile
  rw [← whole] at chain
  rcases chain.of_append with ⟨middle, ofTighter, ofOthers⟩
  refine ⟨_, _, middle, whole.symm, ofTighter, ofOthers, ?_, ?_⟩
  · intro link member
    have tighter := List.all_eq_true.1 List.all_takeWhile link member
    exact of_decide_eq_true tighter
  · intro link heads
    have notTighter := List.head?_dropWhile_not
      (fun link : Link Node => link.level.looseness < level.looseness) links
    rw [Option.mem_def.1 heads] at notTighter
    have notLooser := within link
      ((List.dropWhile_sublist _).subset (List.mem_of_mem_head? heads))
    apply Level.looseness_injective
    simp only [decide_eq_false_iff_not, Nat.not_lt] at notTighter
    exact Nat.le_antisymm notLooser notTighter

/-- Behind a part of a chain that ends in front of an operator comes nothing tighter. -/
theorem Chain.le_of_starts {level : Level} {state last : State} {links : List (Link Node)}
    (chain : Chain state links last)
    (starts : ∀ link ∈ links.head?, link.level = level)
    (ends : ∀ next, last.level? = some next → level.looseness < next.looseness)
    (next : Level) (looks : state.level? = some next) :
    level.looseness ≤ next.looseness := by
  cases links with
  | nil =>
      cases chain with
      | nil => exact Nat.le_of_lt (ends next looks)
  | cons link links =>
      rw [chain.level?_eq, Option.some.injEq] at looks
      rw [← looks, starts link rfl]

/-! ## Reading a chain -/

/-- What the operators of a level stand between is read as the tree of a tighter chain. -/
def BracketsOperand (Node : Type) [Builder Node] (level : Level) : Prop :=
  ∀ {state afterFirst last : State} {first : Node} {links : List (Link Node)}
    {lighter : afterFirst.weight < state.weight},
    unary state = .ok first afterFirst lighter →
      Chain afterFirst links last →
        (∀ link ∈ links, link.level.looseness < level.looseness) →
          (∀ next, last.level? = some next → level.looseness ≤ next.looseness) →
            ∃ (tree : Node) (lighter : last.weight < state.weight),
              operand level state = .ok tree last lighter ∧ Bracketed first links tree

/-- The operators of a level are folded over what they stand between. -/
theorem binaryRest_brackets {level : Level} (ofOperand : BracketsOperand Node level)
    {first left : Node} {done links : List (Link Node)} {state last : State} {bound : Nat}
    (moved : state.weight < bound)
    (folded : Bracketed first done left)
    (doneWithin : ∀ link ∈ done, link.level.looseness ≤ level.looseness)
    (chain : Chain state links last)
    (within : ∀ link ∈ links, link.level.looseness ≤ level.looseness)
    (starts : ∀ link ∈ links.head?, link.level = level)
    (ends : ∀ next, last.level? = some next → level.looseness < next.looseness) :
    ∃ (tree : Node) (lighter : last.weight < bound),
      binaryRest level left state moved = .ok tree last lighter ∧
        Bracketed first (done ++ links) tree := by
  induction count : links.length using Nat.strongRecOn generalizing done left links state with
  | _ size inductionHypothesis =>
      cases links with
      | nil =>
          cases chain with
          | nil =>
              refine ⟨left, moved, ?_, by rwa [List.append_nil]⟩
              rw [binaryRest, if_neg]
              intro again
              exact Nat.lt_irrefl _ (ends level again)
      | cons link links =>
          have level_eq : link.level = level := starts link rfl
          subst level_eq
          have looks : state.kind?.bind Level.ofKind? = some link.level := chain.level?_eq
          cases chain with
          | @cons _ afterOperator afterOperand _ _ _ lighter takes reads chain =>
              rcases takes with ⟨taken, advances⟩
              have withinOthers : ∀ other ∈ links, other.level.looseness ≤ link.level.looseness :=
                fun other member => within other (List.mem_cons_of_mem link member)
              rcases chain.cut withinOthers with
                ⟨tighter, others, middle, rfl, ofTighter, ofOthers, areTighter, restarts⟩
              rcases ofOperand reads ofTighter areTighter (ofOthers.le_of_starts restarts ends) with
                ⟨right, lighterRight, readsRight, ofRight⟩
              have foldedOn : Bracketed first (done ++ link :: tighter)
                  (binaryNode link.level link.operator.text left right) := by
                rw [link.binaryNode_eq]
                exact .split doneWithin areTighter folded ofRight
              have doneOn : ∀ other ∈ done ++ link :: tighter,
                  other.level.looseness ≤ link.level.looseness := by
                intro other member
                rcases List.mem_append.1 member with earlier | here
                · exact doneWithin other earlier
                · rcases List.mem_cons.1 here with rfl | inTighter
                  · exact Nat.le_refl _
                  · exact Nat.le_of_lt (areTighter other inTighter)
              have shorter : others.length < size := by
                rw [← count, List.length_cons, List.length_append]
                omega
              rcases inductionHypothesis others.length shorter
                (State.below (State.below lighterRight taken) moved) foldedOn doneOn ofOthers
                (fun other member => withinOthers other (List.mem_append_right tighter member))
                restarts rfl with ⟨tree, lighterTree, readsTree, ofTree⟩
              refine ⟨tree, lighterTree, ?_, by simpa using ofTree⟩
              rw [binaryRest, if_pos looks, advances]
              simp only [Reply.andThen, Reply.after, readsRight]
              exact readsTree

/-- A level reads a chain of its operators and of tighter ones. -/
theorem binary_brackets_of_operand {level : Level} (ofOperand : BracketsOperand Node level)
    {state afterFirst last : State} {first : Node} {links : List (Link Node)}
    {lighter : afterFirst.weight < state.weight}
    (opens : unary state = .ok first afterFirst lighter) (chain : Chain afterFirst links last)
    (within : ∀ link ∈ links, link.level.looseness ≤ level.looseness)
    (ends : ∀ next, last.level? = some next → level.looseness < next.looseness) :
    ∃ (tree : Node) (lighter : last.weight < state.weight),
      binary level state = .ok tree last lighter ∧ Bracketed first links tree := by
  rcases chain.cut within with
    ⟨tighter, others, middle, rfl, ofTighter, ofOthers, areTighter, starts⟩
  rcases ofOperand opens ofTighter areTighter (ofOthers.le_of_starts starts ends) with
    ⟨left, lighterLeft, readsLeft, ofLeft⟩
  rw [binary, readsLeft]
  exact binaryRest_brackets ofOperand lighterLeft ofLeft
    (fun link member => Nat.le_of_lt (areTighter link member)) ofOthers
    (fun link member => within link (List.mem_append_right tighter member)) starts ends

/-- Level by level, from the tightest on, operands are read as the trees of their chains. -/
theorem operand_brackets (level : Level) : BracketsOperand Node level := by
  induction steps : level.looseness using Nat.strong_induction_on generalizing level with
  | _ looseness inductionHypothesis =>
      subst steps
      intro state afterFirst last first links lighter opens chain within ends
      cases next : level.tighter? with
      | none =>
          -- Below the tightest level there are no operators, so the chain is an operand.
          have tightest := Level.looseness_of_tightest next
          cases links with
          | nil =>
              cases chain with
              | nil =>
                  rw [operand_of_tightest next]
                  exact ⟨first, lighter, opens, .operand first⟩
          | cons link links =>
              have tighter := within link List.mem_cons_self
              omega
      | some tighter =>
          have steps := Level.looseness_of_tighter? next
          rw [operand_of_tighter next]
          apply binary_brackets_of_operand
            (inductionHypothesis tighter.looseness (by omega) tighter rfl) opens chain
          · intro link member
            have less := within link member
            omega
          · intro other looks
            have notTighter := ends other looks
            omega

/--
A chain of operands is read as the one tree whose root is the last of its loosest
operators, and whose children are the trees of the two sides of that operator.
-/
theorem chain_splits_at_last_loosest {state afterFirst last : State} {first : Node}
    {links : List (Link Node)} {lighter : afterFirst.weight < state.weight}
    (opens : unary state = .ok first afterFirst lighter)
    (chain : Chain afterFirst links last)
    (ends : last.level? = none) :
    ∃ (tree : Node) (lighter : last.weight < state.weight),
      binary .logicalOr state = .ok tree last lighter ∧
        ∀ other, Bracketed first links other ↔ other = tree := by
  rcases binary_brackets_of_operand (operand_brackets .logicalOr) opens chain
    (fun link _ => link.level.looseness_le) (by simp [ends]) with
    ⟨tree, lighterTree, reads, bracketed⟩
  refine ⟨tree, lighterTree, reads, fun other => ?_⟩
  constructor
  · exact bracketed.unique
  · rintro rfl
    exact bracketed

/-- A reply that answers with a value is a success. -/
theorem Reply.eq_ok_of_answer {α : Type} {bound : Nat} {reply : Reply α bound} {value : α}
    (answers : reply.outcome.answer = .ok value) :
    ∃ lighter, reply = .ok value reply.outcome.next lighter := by
  cases reply with
  | ok other next lighter =>
      cases answers
      exact ⟨lighter, rfl⟩
  | fail diagnostic next => cases answers

/-- A chain goes on where an operator and an operand are answered. -/
theorem Chain.of_answers {state last : State} {link : Link Node} {links : List (Link Node)}
    (takes : state.advance.outcome.answer = .ok link.operator)
    (reads : (unary state.advance.outcome.next).outcome.answer = .ok link.operand)
    (others : Chain (unary state.advance.outcome.next : Reply Node _).outcome.next links last) :
    Chain state (link :: links) last := by
  rcases Reply.eq_ok_of_answer reads with ⟨lighter, reads⟩
  exact .cons (Reply.eq_ok_of_answer takes) reads others

/-- The last operator is the loosest one, and of the others the last one binds least. -/
theorem mixed_chain_splits :
    ∃ last lighter,
      binary .logicalOr (load (State.initial none) "-a - (b || c) * 2 - d.e || !f").next =
        .ok (Tree.logical "||"
          (.binary "-"
            (.binary "-" (.unary "-" (.identifier "a"))
              (.binary "*" (.logical "||" (.identifier "b") (.identifier "c"))
                (.number (.integer 2))))
            (.member false (.identifier "d") (.identifier "e")))
          (.unary "!" (.identifier "f"))) last lighter := by
  let minus : Link Tree :=
    ⟨⟨.additiveOperator, "-", ⟨3, 4, "shell"⟩⟩, .additive, rfl,
      .logical "||" (.identifier "b") (.identifier "c")⟩
  let times : Link Tree :=
    ⟨⟨.multiplicativeOperator, "*", ⟨14, 15, "shell"⟩⟩, .multiplicative, rfl,
      .number (.integer 2)⟩
  let secondMinus : Link Tree :=
    ⟨⟨.additiveOperator, "-", ⟨18, 19, "shell"⟩⟩, .additive, rfl,
      .member false (.identifier "d") (.identifier "e")⟩
  let either : Link Tree :=
    ⟨⟨.logicalOr, "||", ⟨24, 26, "shell"⟩⟩, .logicalOr, rfl, .unary "!" (.identifier "f")⟩
  let start := (load (State.initial none) "-a - (b || c) * 2 - d.e || !f").next
  have opens : ∃ lighter, unary start =
      .ok (Tree.unary "-" (.identifier "a")) (unary start : Reply Tree _).outcome.next lighter :=
    Reply.eq_ok_of_answer (by decide +kernel)
  have chain : ∃ last, Chain (unary start : Reply Tree _).outcome.next
      [minus, times, secondMinus, either] last ∧ last.level? = none := by
    refine ⟨_, .of_answers ?_ ?_ (.of_answers ?_ ?_ (.of_answers ?_ ?_
      (.of_answers ?_ ?_ .nil))), ?_⟩
    all_goals decide +kernel
  rcases opens with ⟨_, opens⟩
  rcases chain with ⟨last, chain, ends⟩
  rcases chain_splits_at_last_loosest opens chain ends with ⟨tree, lighter, reads, unique⟩
  have ofProduct : Bracketed minus.operand ([] ++ times :: []) _ :=
    .split (by simp) (by simp) (.operand _) (.operand _)
  have ofFirst : Bracketed (Tree.unary "-" (.identifier "a")) ([] ++ minus :: [times]) _ :=
    .split (by simp) (by simp [minus, times, Level.looseness]) (.operand _) ofProduct
  have ofSecond : Bracketed (Tree.unary "-" (.identifier "a"))
      ([minus, times] ++ secondMinus :: []) _ :=
    .split (by simp [minus, times, secondMinus, Level.looseness]) (by simp) ofFirst (.operand _)
  have ofWhole : Bracketed (Tree.unary "-" (.identifier "a"))
      ([minus, times, secondMinus] ++ either :: []) _ :=
    .split (fun link _ => link.level.looseness_le) (by simp) ofSecond (.operand _)
  refine ⟨last, lighter, ?_⟩
  rw [← (unique _).1 ofWhole] at reads
  exact reads

end Parser

end Script
