import Script.Proofs.Machine

/-!
# What is derivable is read

Run on lexemes, the stack machine builds trees.  From a goal it reads whatever
the grammar derives for that goal, and builds the tree of the derivation, if what
comes next does not prolong what was derived.  Since the machine has one way to
go at every point, no lexemes spell two programs.

The grammar is left-recursive in members and binary operators.  There the machine
is followed up to the point where it looks for a continuation, which needs no
knowledge of what comes next.
-/

namespace Script.Machine

open Grammar Semantics

/-! ## The machine on lexemes -/

/-- What the machine keeps of what it has read. -/
inductive Value where
  | lexeme (lexeme : Lexeme)
  | trees (trees : List Tree)

/-- The tree of a literal; a number without a value is not told apart from `null`. -/
def literalTree (lexeme : Lexeme) : Tree :=
  match lexeme.kind with
  | .number =>
      match Numeral.read lexeme.text with
      | .ok value => .number value
      | .error _ => .null
  | .string => .string (unquoted lexeme.text)
  | .trueWord => .boolean true
  | .falseWord => .boolean false
  | _ => .null

/-- What is made of the values read last, the latest first. -/
def Build.apply : Build → List Value → List Value
  | .nothing, values => .trees [] :: values
  | .cons, .trees others :: .trees first :: values => .trees (first ++ others) :: values
  | .program, .trees body :: values => .trees [.program body] :: values
  | .block, .trees body :: values => .trees [.block body] :: values
  | .empty, values => .trees [.empty] :: values
  | .expression, .trees [inner] :: values => .trees [.expression inner] :: values
  | .declarations, .trees items :: values => .trees [.declarations items] :: values
  | .declaration, .trees init :: .trees [id] :: values =>
      .trees [.declaration id init.head?] :: values
  | .conditional, .trees alternate :: .trees [consequent] :: .trees [test] :: values =>
      .trees [.conditional test consequent alternate.head?] :: values
  | .whileLoop, .trees [body] :: .trees [test] :: values =>
      .trees [.whileLoop test body] :: values
  | .doWhileLoop, .trees [test] :: .trees [body] :: values =>
      .trees [.doWhileLoop body test] :: values
  | .forLoop, .trees [body] :: .trees update :: .trees test :: .trees init :: values =>
      .trees [.forLoop init.head? test.head? update.head? body] :: values
  | .function, .trees [body] :: .trees params :: .trees [id] :: values =>
      .trees [.function id params body] :: values
  | .returning, .trees argument :: values => .trees [.returning argument.head?] :: values
  | .assignment, .trees [right] :: .lexeme operator :: .trees [left] :: values =>
      .trees [.assignment operator.text left right] :: values
  | .binary level, .trees [right] :: .lexeme operator :: .trees [left] :: values =>
      .trees [binaryTree level operator.text left right] :: values
  | .unary, .trees [argument] :: .lexeme operator :: values =>
      .trees [.unary operator.text argument] :: values
  | .member computed, .trees [property] :: .trees [object] :: values =>
      .trees [.member computed object property] :: values
  | .name, .lexeme lexeme :: values => .trees [.identifier lexeme.text] :: values
  | .literal, .lexeme lexeme :: values => .trees [literalTree lexeme] :: values
  | _, values => values

/-- Lexemes are kept as they are, and trees are made of them. -/
def onLexemes : Semantics Lexeme (List Value) where
  kind := Lexeme.kind
  keep lexeme values := .lexeme lexeme :: values
  build := Build.apply

/-- The kind of the first of some lexemes. -/
def look (lexemes : List Lexeme) : Option Kind :=
  lexemes.head?.map Lexeme.kind

@[simp]
theorem look_nil : look [] = none :=
  rfl

@[simp]
theorem look_cons (first : Lexeme) (others : List Lexeme) :
    look (first :: others) = some first.kind :=
  rfl

/-! ## Going forward -/

/-- The machine comes to the rest of its stack with the values and lexemes that are given. -/
def Comes (start : Config Lexeme (List Value)) (leaves : Bool → Prop)
    (stack : List Symbol) (values : List Value) (rest : List Lexeme) : Prop :=
  ∃ after, leaves after ∧ onLexemes.Reaches start ⟨⟨after, stack⟩, values, rest⟩

section Forward

variable {assignable : Bool} {leaves : Bool → Prop} {stack goal : List Symbol}
  {values final : List Value} {lexemes rest : List Lexeme} {first : Lexeme}

theorem Comes.done (leaving : leaves assignable) :
    Comes ⟨⟨assignable, stack⟩, values, rest⟩ leaves stack values rest :=
  ⟨assignable, leaving, .refl _⟩

theorem Comes.trans {start next : Config Lexeme (List Value)}
    (front : onLexemes.Reaches start next) (back : Comes next leaves goal final rest) :
    Comes start leaves goal final rest := by
  rcases back with ⟨after, leaving, reaches⟩
  exact ⟨after, leaving, front.trans reaches⟩

theorem Comes.take {kind : Kind} (fits : first.kind = kind)
    (back : Comes ⟨⟨assignable, stack⟩, values, lexemes⟩ leaves goal final rest) :
    Comes ⟨⟨assignable, .take kind :: stack⟩, values, first :: lexemes⟩ leaves goal final rest :=
  .trans (reaches_take fits) back

theorem Comes.keep {kind : Kind} (fits : first.kind = kind)
    (back : Comes ⟨⟨assignable, stack⟩, .lexeme first :: values, lexemes⟩ leaves goal final
      rest) :
    Comes ⟨⟨assignable, .keep kind :: stack⟩, values, first :: lexemes⟩ leaves goal final rest :=
  .trans (reaches_keep fits) back

theorem Comes.build {build : Build}
    (back : Comes ⟨⟨build.leaves assignable, stack⟩, build.apply values, lexemes⟩ leaves goal
      final rest) :
    Comes ⟨⟨assignable, .build build :: stack⟩, values, lexemes⟩ leaves goal final rest :=
  .trans reaches_build back

theorem Comes.expand {part : Goal} {parts : List Symbol}
    (expands : part.expand assignable (look lexemes) = .ok parts)
    (back : Comes ⟨⟨assignable, parts ++ stack⟩, values, lexemes⟩ leaves goal final rest) :
    Comes ⟨⟨assignable, .goal part :: stack⟩, values, lexemes⟩ leaves goal final rest :=
  .trans (reaches_goal expands) back

end Forward

/--
The machine reads lexemes from some symbols, has others left, and keeps the trees;
`follow` is what has to be known of the kind that comes next.
-/
def Passes (front back : List Symbol) (lexemes : List Lexeme) (trees : List Tree)
    (follow : Option Kind → Prop) (leaves : Bool → Prop) : Prop :=
  ∀ assignable stack values rest, follow (look rest) →
    Comes ⟨⟨assignable, front ++ stack⟩, values, lexemes ++ rest⟩ leaves (back ++ stack)
      (.trees trees :: values) rest

theorem Passes.comes {front back stack goal : List Symbol} {lexemes rest remaining : List Lexeme}
    {trees : List Tree} {follow : Option Kind → Prop} {leaves leavesLast : Bool → Prop}
    {assignable : Bool} {values final : List Value}
    (passes : Passes front back lexemes trees follow leaves) (follows : follow (look rest))
    (onward : ∀ after, leaves after →
      Comes ⟨⟨after, back ++ stack⟩, .trees trees :: values, rest⟩ leavesLast goal final
        remaining) :
    Comes ⟨⟨assignable, front ++ stack⟩, values, lexemes ++ rest⟩ leavesLast goal final
      remaining := by
  rcases passes assignable stack values rest follows with ⟨after, leaving, reaches⟩
  exact .trans reaches (onward after leaving)

/-! ## What may come next -/

/-- Nothing has to be known. -/
def Always {α : Type} (_ : α) : Prop :=
  True

/-- A token of a kind comes next, or none. -/
def Shows (expected look : Option Kind) : Prop :=
  look = expected

theorem shows_cons {first : Lexeme} {others : List Lexeme} {kind : Kind}
    (isKind : first.kind = kind) : Shows (some kind) (look (first :: others)) :=
  congrArg some isKind

/-- No access to a member comes next. -/
def EndsMember (look : Option Kind) : Prop :=
  look ≠ some .dot ∧ look ≠ some .openBracket

/-- No operator comes next that binds tighter than those of a level. -/
def EndsOperand (level : Level) (look : Option Kind) : Prop :=
  EndsMember look ∧
    ∀ other, look.bind Level.ofKind? = some other → level.looseness ≤ other.looseness

/-- Nothing comes next that would belong to an expression. -/
def EndsExpression (look : Option Kind) : Prop :=
  EndsMember look ∧ look.bind Level.ofKind? = none ∧ look.any Kind.isAssignment = false

instance (look : Option Kind) : Decidable (EndsMember look) :=
  inferInstanceAs (Decidable (_ ∧ _))

instance (look : Option Kind) : Decidable (EndsExpression look) :=
  inferInstanceAs (Decidable (_ ∧ _ ∧ _))

/-- A semicolon or a comma comes next. -/
def EndsDeclaration (look : Option Kind) : Prop :=
  look = some .semicolon ∨ look = some .comma

/-- Whether the tree read last may be assigned to. -/
def LastAssignable (trees : List Tree) (after : Bool) : Prop :=
  trees.map Tree.isAssignable = [after]

/-- No `else` comes next that would belong to the trees read last. -/
def Closes (trees : List Tree) (look : Option Kind) : Prop :=
  ∀ tree ∈ trees, tree.endsOpen = true → look ≠ some .elseWord

/-! ## What comes first -/

/-- Whether a primary expression may start with a kind. -/
def startsPrimary (kind : Kind) : Bool :=
  kind.isLiteral || kind = .identifier || kind = .openParen

/-- Whether an expression may start with a kind. -/
def startsExpression (kind : Kind) : Bool :=
  startsPrimary kind || kind.isUnary

/-- Whether a statement may start with a kind. -/
def startsStatement (kind : Kind) : Bool :=
  startsExpression kind || statementForm (some kind) ≠ .expressionStatement

/-- Whether what a category derives may start with a kind. -/
def starts : Category → Kind → Bool
  | .primary, kind | .member, kind => startsPrimary kind
  | .unary, kind | .binary _, kind | .expression, kind => startsExpression kind
  | .optionalExpression, kind => startsExpression kind
  | .loopStart, kind => startsExpression kind || kind = .letWord
  | .declaration, kind | .declarations, kind => kind = .identifier
  | .names, kind | .parameters, kind => kind = .identifier
  | .block, kind => kind = .openCurly
  | .statement, kind | .statements, kind | .program, kind => startsStatement kind

/-- Whether a category derives the empty list. -/
def mayBeEmpty : Category → Bool
  | .optionalExpression | .loopStart | .parameters | .statements | .program => true
  | _ => false

/-- Lexemes start as what a category derives may start. -/
def Begins (category : Category) : List Lexeme → Prop
  | [] => mayBeEmpty category = true
  | first :: _ => starts category first.kind = true

section Begins

variable {category wider : Category} {lexemes : List Lexeme}

theorem Begins.widen (begins : Begins category lexemes)
    (empty : mayBeEmpty category = true → mayBeEmpty wider = true)
    (includes : ∀ kind, starts category kind = true → starts wider kind = true) :
    Begins wider lexemes := by
  cases lexemes with
  | nil => exact empty begins
  | cons first others => exact includes _ begins

theorem Begins.append (begins : Begins category lexemes)
    (filled : mayBeEmpty category = false)
    (includes : ∀ kind, starts category kind = true → starts wider kind = true)
    (others : List Lexeme) :
    Begins wider (lexemes ++ others) := by
  cases lexemes with
  | nil => simp [Begins, filled] at begins
  | cons first rest => exact includes _ begins

theorem Begins.look_eq (begins : Begins category lexemes)
    (filled : mayBeEmpty category = false) (others : List Lexeme) :
    ∃ kind, look (lexemes ++ others) = some kind ∧ starts category kind = true := by
  cases lexemes with
  | nil => simp [Begins, filled] at begins
  | cons first rest => exact ⟨first.kind, rfl, begins⟩

end Begins

theorem starts_operand (level : Level) (kind : Kind) :
    starts (Grammar.operand level) kind = startsExpression kind := by
  unfold Grammar.operand
  split <;> rfl

theorem mayBeEmpty_operand (level : Level) : mayBeEmpty (Grammar.operand level) = false := by
  unfold Grammar.operand
  split <;> rfl

theorem startsStatement_of_expression {kind : Kind} (begins : startsExpression kind = true) :
    startsStatement kind = true := by
  simp [startsStatement, begins]

theorem begins_of_derives {category : Category} {lexemes : List Lexeme} {trees : List Tree}
    (derives : Derives category lexemes trees) : Begins category lexemes := by
  induction derives with
  | literal literal => cases literal <;> rfl
  | name text => rfl
  | grouping opens inside closes => simp [Begins, starts, startsPrimary, opens]
  | memberPrimary _ inductionHypothesis => exact inductionHypothesis
  | memberName _ _ inductionHypothesis => exact inductionHypothesis.append rfl (fun _ => id) _
  | memberIndex _ _ _ _ inductionHypothesis =>
      rw [List.append_assoc]
      exact inductionHypothesis.append rfl (fun _ => id) _
  | unaryMember _ inductionHypothesis =>
      refine inductionHypothesis.widen id ?_
      intro kind begins
      simp_all [starts, startsExpression]
  | unaryOperator operates => simp [Begins, starts, startsExpression, operates]
  | binaryOperand _ inductionHypothesis =>
      apply inductionHypothesis.widen (by simp [mayBeEmpty_operand])
      exact fun kind begins => (starts_operand _ kind).symm.trans begins
  | binaryOperator _ _ _ inductionHypothesis =>
      exact inductionHypothesis.append rfl (fun _ => id) _
  | expressionOperand _ inductionHypothesis => exact inductionHypothesis
  | assignment _ _ _ _ inductionHypothesis =>
      exact inductionHypothesis.append rfl (fun _ => id) _
  | noExpression => rfl
  | someExpression _ inductionHypothesis =>
      exact inductionHypothesis.widen (fun _ => rfl) fun _ => id
  | bareDeclaration text => rfl
  | fullDeclaration => rfl
  | oneDeclaration _ inductionHypothesis => exact inductionHypothesis
  | moreDeclarations _ _ _ inductionHypothesis =>
      exact inductionHypothesis.append rfl (fun _ => id) _
  | startExpression _ inductionHypothesis =>
      refine inductionHypothesis.widen id ?_
      intro kind begins
      simp_all [starts]
  | startDeclarations declares => simp [Begins, starts, declares]
  | oneName text => rfl
  | moreNames => rfl
  | noParameters => rfl
  | someParameters _ inductionHypothesis =>
      exact inductionHypothesis.widen (fun _ => rfl) fun _ => id
  | emptyStatement ends => simp [Begins, starts, startsStatement, statementForm, ends]
  | expressionStatement _ _ inductionHypothesis =>
      refine inductionHypothesis.append rfl ?_ _
      exact fun _ => startsStatement_of_expression
  | declarationStatement declares =>
      simp [Begins, starts, startsStatement, statementForm, declares]
  | block opens => simp [Begins, starts, opens]
  | blockStatement _ inductionHypothesis =>
      refine inductionHypothesis.widen id ?_
      intro kind begins
      simp_all [starts, startsStatement, statementForm]
  | conditional asks | conditionalElse asks =>
      simp [Begins, starts, startsStatement, statementForm, asks]
  | whileLoop repeats | forLoop repeats =>
      simp [Begins, starts, startsStatement, statementForm, repeats]
  | doWhileLoop begins => simp [Begins, starts, startsStatement, statementForm, begins]
  | function defines => simp [Begins, starts, startsStatement, statementForm, defines]
  | returning returns => simp [Begins, starts, startsStatement, statementForm, returns]
  | noStatements => rfl
  | moreStatements _ _ inductionHypothesis =>
      refine inductionHypothesis.append rfl ?_ _
      exact fun _ => id
  | program _ inductionHypothesis => exact inductionHypothesis

/-! ## Following a derivation -/

/-- What the machine does with the lexemes that a category derives. -/
def Follows : Category → List Lexeme → List Tree → Prop
  | .primary, lexemes, trees =>
      Passes [.goal .primary] [] lexemes trees Always (LastAssignable trees)
  | .member, lexemes, trees =>
      Passes [.goal .member] [.goal .memberRest] lexemes trees Always (LastAssignable trees)
  | .unary, lexemes, trees =>
      Passes [.goal .unary] [] lexemes trees EndsMember (LastAssignable trees)
  | .binary level, lexemes, trees =>
      Passes [.goal (.binary level)] [.goal (.binaryRest level)] lexemes trees
        (EndsOperand level) (LastAssignable trees)
  | .expression, lexemes, trees =>
      Passes [.goal .expression] [] lexemes trees EndsExpression (LastAssignable trees)
  | .optionalExpression, lexemes, trees =>
      ∀ stop, startsExpression stop = false → EndsExpression (some stop) →
        Passes [.goal (.expressionUnless stop)] [] lexemes trees (Shows (some stop)) Always
  | .declaration, lexemes, trees =>
      Passes [.goal .declaration] [] lexemes trees EndsDeclaration Always
  | .declarations, lexemes, trees =>
      Passes [.goal .declaration, .goal (.afterCommas .declaration), .build .cons] []
        lexemes trees (Shows (some .semicolon)) Always
  | .loopStart, lexemes, trees =>
      Passes [.goal .loopStart] [] lexemes trees (Shows (some .semicolon)) Always
  | .names, lexemes, trees =>
      Passes [.goal .name, .goal (.afterCommas .name), .build .cons] []
        lexemes trees (Shows (some .closeParen)) Always
  | .parameters, lexemes, trees =>
      Passes [.goal .parameters] [] lexemes trees (Shows (some .closeParen)) Always
  | .block, lexemes, trees =>
      Passes [.goal .block] [] lexemes trees Always Always
  | .statement, lexemes, trees =>
      Passes [.goal .statement] [] lexemes trees (Closes trees) Always
  | .statements, lexemes, trees =>
      ∀ stop, stop = none ∨ stop = some .closeCurly →
        Passes [.goal (.statements stop)] [] lexemes trees (Shows stop) Always
  | .program, lexemes, trees =>
      Passes [.goal .program] [] lexemes trees (Shows none) Always

section Following

variable {lexemes others : List Lexeme} {tree : Tree} {trees : List Tree} {text : String}

theorem literalTree_of_literal {lexeme : Lexeme} (literal : Literal lexeme tree) :
    literalTree lexeme = tree := by
  cases literal with
  | number reads => simp [literalTree, reads]
  | string | isTrue | isFalse | null => rfl

theorem follows_literal {lexeme : Lexeme} (literal : Literal lexeme tree) :
    Follows .primary [lexeme] [tree] := by
  intro assignable stack values rest _
  have isLiteral : lexeme.kind.isLiteral = true := by cases literal <;> rfl
  have expands : Goal.primary.expand assignable (some lexeme.kind) =
      .ok [.goal .literal] := by
    cases literal <;> rfl
  have expandsLiteral : Goal.literal.expand assignable (some lexeme.kind) =
      .ok [.keep lexeme.kind, .build .literal] := by
    simp [Goal.expand, isLiteral]
  have notAssignable : tree.isAssignable = false := by cases literal <;> rfl
  refine .expand expands (.expand expandsLiteral (.keep rfl (.build ?_)))
  rw [Build.apply, literalTree_of_literal literal]
  exact .done (by rw [LastAssignable, List.map_singleton, notAssignable]; rfl)

theorem comes_name {assignable : Bool} {leaves : Bool → Prop} {stack goal : List Symbol}
    {values final : List Value} {rest : List Lexeme}
    (back : Comes ⟨⟨true, stack⟩, .trees [.identifier text] :: values, others⟩ leaves goal
      final rest) :
    Comes ⟨⟨assignable, .goal .name :: stack⟩, values, ⟨.identifier, text⟩ :: others⟩ leaves
      goal final rest :=
  .expand rfl (.keep rfl (.build back))

theorem follows_name : Follows .primary [⟨.identifier, text⟩] [.identifier text] := by
  intro assignable stack values rest _
  exact .expand rfl (comes_name (.done rfl))

theorem follows_grouping {opening closing : Lexeme} (opens : opening.kind = .openParen)
    (inside : Follows .expression lexemes [tree]) (closes : closing.kind = .closeParen) :
    Follows .primary (opening :: lexemes ++ [closing]) [tree] := by
  intro assignable stack values rest _
  simp only [List.cons_append, List.append_assoc, List.nil_append]
  refine .expand (by rw [look_cons, opens]; rfl) (.expand rfl (.take opens ?_))
  refine inside.comes ?_ fun after leaving => .take closes (.done leaving)
  rw [look_cons, closes]
  decide

theorem follows_memberPrimary (ofPrimary : Follows .primary lexemes [tree]) :
    Follows .member lexemes [tree] := by
  intro assignable stack values rest _
  exact .expand rfl (ofPrimary.comes trivial fun after leaving => .done leaving)

theorem follows_memberName {dot : Lexeme} (ofObject : Follows .member lexemes [tree])
    (dots : dot.kind = .dot) :
    Follows .member (lexemes ++ [dot, ⟨.identifier, text⟩])
      [.member false tree (.identifier text)] := by
  intro assignable stack values rest _
  simp only [List.append_assoc, List.cons_append, List.nil_append]
  refine ofObject.comes trivial fun after _ => ?_
  refine .expand (by rw [look_cons, dots]; rfl) (.take dots (comes_name (.build ?_)))
  exact .done rfl

theorem follows_memberIndex {opening closing : Lexeme} {property : Tree}
    (ofObject : Follows .member lexemes [tree]) (opens : opening.kind = .openBracket)
    (ofIndex : Follows .expression others [property]) (closes : closing.kind = .closeBracket) :
    Follows .member (lexemes ++ opening :: others ++ [closing])
      [.member true tree property] := by
  intro assignable stack values rest _
  simp only [List.append_assoc, List.cons_append, List.nil_append]
  refine ofObject.comes trivial fun after _ => ?_
  refine .expand (by rw [look_cons, opens]; rfl) (.take opens ?_)
  refine ofIndex.comes (by rw [look_cons, closes]; decide) fun after _ => ?_
  exact .take closes (.build (.done rfl))

theorem expand_memberRest {assignable : Bool} {look : Option Kind} (ends : EndsMember look) :
    Goal.memberRest.expand assignable look = .ok [] := by
  rcases ends with ⟨notDot, notBracket⟩
  rw [Goal.expand]
  · exact notDot
  · exact notBracket

theorem isUnary_of_startsPrimary {kind : Kind} (begins : startsPrimary kind = true) :
    kind.isUnary = false := by
  revert begins
  cases kind <;> decide

theorem follows_unaryMember (derives : Derives .member lexemes [tree])
    (ofMember : Follows .member lexemes [tree]) :
    Follows .unary lexemes [tree] := by
  intro assignable stack values rest ends
  rcases (begins_of_derives derives).look_eq rfl rest with ⟨kind, looks, begins⟩
  have expands : Goal.unary.expand assignable (look (lexemes ++ rest)) =
      .ok [.goal .member] := by
    simp [looks, Goal.expand, isUnary_of_startsPrimary begins]
  refine .expand expands (ofMember.comes trivial fun after leaving => ?_)
  exact .expand (expand_memberRest ends) (.done leaving)

theorem follows_unaryOperator {operator : Lexeme} (operates : operator.kind.isUnary = true)
    (ofArgument : Follows .unary lexemes [tree]) :
    Follows .unary (operator :: lexemes) [.unary operator.text tree] := by
  intro assignable stack values rest ends
  have expands : Goal.unary.expand assignable (some operator.kind) =
      .ok [.keep operator.kind, .goal .unary, .build .unary] := by
    simp [Goal.expand, operates]
  refine .expand expands (.keep rfl (ofArgument.comes ends fun after _ => ?_))
  exact .build (.done rfl)

/-- What stands between operators is read up to an operator that binds no tighter. -/
theorem passes_operand {level : Level} (ofOperand : Follows (Grammar.operand level) lexemes trees) :
    Passes [.goal (operand level)] [] lexemes trees (EndsOperand level)
      (LastAssignable trees) := by
  intro assignable stack values rest ends
  cases next : level.tighter? with
  | none =>
      simp only [Grammar.operand, next] at ofOperand
      rw [operand, next]
      exact ofOperand assignable stack values rest ends.1
  | some tighter =>
      have tightens := Level.looseness_lt_of_tighter? next
      simp only [Grammar.operand, next] at ofOperand
      rw [operand, next]
      have endsTighter : EndsOperand tighter (look rest) :=
        ⟨ends.1, fun other operates => tightens.le.trans (ends.2 other operates)⟩
      refine ofOperand.comes endsTighter fun after leaving => ?_
      have stops : ¬(look rest).bind Level.ofKind? = some tighter := by
        intro operates
        exact absurd (ends.2 tighter operates) (Nat.not_le.2 tightens)
      exact .expand (by rw [Goal.expand, if_neg stops]) (.done leaving)

theorem follows_binaryOperand {level : Level}
    (ofOperand : Follows (Grammar.operand level) lexemes [tree]) :
    Follows (.binary level) lexemes [tree] := by
  intro assignable stack values rest ends
  refine .expand rfl ((passes_operand ofOperand).comes ends fun after leaving => ?_)
  exact .done leaving

theorem endsOperand_operator (level : Level) : EndsOperand level (some level.operator) := by
  refine ⟨by cases level <;> decide, fun other operates => ?_⟩
  have same : some level = some other :=
    (Level.ofKind?_eq_some.2 rfl).symm.trans operates
  cases same
  exact Nat.le_refl _

theorem follows_binaryOperator {level : Level} {operator : Lexeme} {right : Tree}
    (ofLeft : Follows (.binary level) lexemes [tree])
    (operates : operator.kind = level.operator)
    (ofRight : Follows (Grammar.operand level) others [right]) :
    Follows (.binary level) (lexemes ++ operator :: others)
      [binaryTree level operator.text tree right] := by
  intro assignable stack values rest ends
  simp only [List.append_assoc, List.cons_append]
  refine ofLeft.comes (by rw [look_cons, operates]; exact endsOperand_operator level)
    fun after _ => ?_
  have expands : (Goal.binaryRest level).expand after (some operator.kind) =
      .ok [.keep level.operator, .goal (operand level), .build (.binary level),
        .goal (.binaryRest level)] := by
    rw [Goal.expand, if_pos]
    rw [operates]
    exact Level.ofKind?_eq_some.2 rfl
  refine .expand expands (.keep operates ((passes_operand ofRight).comes ends fun after _ => ?_))
  refine .build (.done ?_)
  unfold LastAssignable binaryTree
  split <;> rfl

theorem EndsExpression.operand {look : Option Kind} (ends : EndsExpression look)
    (level : Level) : EndsOperand level look :=
  ⟨ends.1, by simp [ends.2.1]⟩

/-- An expression goes on after its first operand only with an assignment operator. -/
theorem passes_binary {level : Level} {lexemes : List Lexeme} {trees : List Tree}
    (ofLeft : Follows (.binary level) lexemes trees) :
    Passes [.goal (.binary level)] [] lexemes trees
      (fun look => EndsMember look ∧ look.bind Level.ofKind? = none)
      (LastAssignable trees) := by
  intro assignable stack values rest ends
  refine ofLeft.comes ⟨ends.1, by simp [ends.2]⟩ fun after leaving => ?_
  exact .expand (by rw [Goal.expand, if_neg (by simp [ends.2])]) (.done leaving)

theorem follows_expressionOperand (ofOperand : Follows (.binary .logicalOr) lexemes [tree]) :
    Follows .expression lexemes [tree] := by
  intro assignable stack values rest ends
  refine .expand rfl ((passes_binary ofOperand).comes ⟨ends.1, ends.2.1⟩ fun after leaving => ?_)
  have expands : Goal.assigned.expand after (look rest) = .ok [] := by
    rcases ends with ⟨_, _, notAssigning⟩
    cases looks : look rest with
    | none => rfl
    | some kind => simp_all [Goal.expand]
  exact .expand expands (.done leaving)

theorem follows_assignment {operator : Lexeme} {right : Tree}
    (ofLeft : Follows (.binary .logicalOr) lexemes [tree])
    (assignable : tree.isAssignable = true) (operates : operator.kind.isAssignment = true)
    (ofRight : Follows .expression others [right]) :
    Follows .expression (lexemes ++ operator :: others)
      [.assignment operator.text tree right] := by
  intro earlier stack values rest ends
  simp only [List.append_assoc, List.cons_append]
  have follow : EndsMember (some operator.kind) ∧
      (some operator.kind).bind Level.ofKind? = none := by
    revert operates
    cases operator.kind <;> decide
  refine .expand rfl ((passes_binary ofLeft).comes follow fun after leaving => ?_)
  have allowed : after = true := by
    simpa [LastAssignable, assignable] using leaving.symm
  have expands : Goal.assigned.expand after (some operator.kind) =
      .ok [.keep operator.kind, .goal .expression, .build .assignment] := by
    simp [Goal.expand, operates, allowed]
  refine .expand expands (.keep rfl (ofRight.comes ends fun after _ => ?_))
  exact .build (.done rfl)

/-! ## Parts of statements -/

theorem follows_noExpression : Follows .optionalExpression [] [] := by
  intro stop _ _ assignable stack values rest (looks : look rest = some stop)
  have expands : (Goal.expressionUnless stop).expand assignable (look rest) =
      .ok [.build .nothing] := by
    rw [Goal.expand, if_pos looks]
  exact .expand expands (.build (.done trivial))

theorem follows_someExpression (derives : Derives .expression lexemes [tree])
    (ofExpression : Follows .expression lexemes [tree]) :
    Follows .optionalExpression lexemes [tree] := by
  intro stop notFirst ends assignable stack values rest looks
  rcases (begins_of_derives derives).look_eq rfl rest with ⟨kind, first, begins⟩
  have expands : (Goal.expressionUnless stop).expand assignable (look (lexemes ++ rest)) =
      .ok [.goal .expression] := by
    rw [Goal.expand, if_neg]
    rw [first, Option.some.injEq]
    rintro rfl
    exact absurd begins (by simp [starts, notFirst])
  refine .expand expands (ofExpression.comes (looks ▸ ends) fun after _ => ?_)
  exact .done trivial

theorem follows_bareDeclaration :
    Follows .declaration [⟨.identifier, text⟩] [.declaration (.identifier text) none] := by
  intro assignable stack values rest ends
  have expands : Goal.initialiser.expand true (look rest) = .ok [.build .nothing] := by
    exact if_pos ends
  exact .expand rfl (comes_name (.expand expands (.build (.build (.done trivial)))))

theorem follows_fullDeclaration {assign : Lexeme} (assigns : assign.kind = .simpleAssign)
    (ofValue : Follows .expression lexemes [tree]) :
    Follows .declaration (⟨.identifier, text⟩ :: assign :: lexemes)
      [.declaration (.identifier text) (some tree)] := by
  intro assignable stack values rest ends
  simp only [List.cons_append]
  refine .expand rfl (comes_name ?_)
  refine .expand (by rw [look_cons, assigns]; rfl) (.take assigns ?_)
  have follow : EndsExpression (look rest) := by
    rcases ends with looks | looks <;> rw [looks] <;> decide
  exact ofValue.comes follow fun after _ => .build (.done trivial)

/-- One item is read where no comma follows. -/
theorem passes_last {item : Goal} {follow : Option Kind → Prop} {leaves : Bool → Prop}
    {stop : Kind} (notComma : stop ≠ .comma) (follows : follow (some stop))
    (ofItem : Passes [.goal item] [] lexemes [tree] follow leaves) :
    Passes [.goal item, .goal (.afterCommas item), .build .cons] [] lexemes [tree]
      (Shows (some stop)) Always := by
  intro assignable stack values rest (looks : look rest = some stop)
  refine ofItem.comes (looks ▸ follows) fun after _ => ?_
  have stops : ¬look rest = some .comma := by simpa [looks] using notComma
  exact .expand (by rw [Goal.expand, if_neg stops]) (.build (.build (.done trivial)))

/-- An item is read before a comma and more items. -/
theorem passes_more {item : Goal} {follow : Option Kind → Prop} {leaves : Bool → Prop}
    {stop : Option Kind} {comma : Lexeme} (separates : comma.kind = .comma)
    (follows : follow (some .comma))
    (ofItem : Passes [.goal item] [] lexemes [tree] follow leaves)
    (ofOthers : Passes [.goal item, .goal (.afterCommas item), .build .cons] [] others trees
      (Shows stop) Always) :
    Passes [.goal item, .goal (.afterCommas item), .build .cons] []
      (lexemes ++ comma :: others) (tree :: trees) (Shows stop) Always := by
  intro assignable stack values rest looks
  simp only [List.append_assoc, List.cons_append]
  refine ofItem.comes (by rw [look_cons, separates]; exact follows) fun after _ => ?_
  refine .expand (by rw [look_cons, separates]; rfl) (.take separates ?_)
  exact ofOthers.comes looks fun after _ => .build (.done trivial)

theorem comes_separated {item : Goal} {follow : Option Kind → Prop} {assignable : Bool}
    {leaves : Bool → Prop} {stack goal : List Symbol} {values final : List Value}
    {rest remaining : List Lexeme}
    (passes : Passes [.goal item, .goal (.afterCommas item), .build .cons] [] lexemes trees
      follow Always)
    (follows : follow (look rest))
    (onward : ∀ after, Always after →
      Comes ⟨⟨after, stack⟩, .trees trees :: values, rest⟩ leaves goal final remaining) :
    Comes ⟨⟨assignable, .goal item :: .goal (.afterCommas item) :: .build .cons :: stack⟩,
      values, lexemes ++ rest⟩ leaves goal final remaining :=
  passes.comes follows onward

theorem passes_name :
    Passes [.goal .name] [] [⟨.identifier, text⟩] [.identifier text] Always Always := by
  intro assignable stack values rest _
  exact comes_name (.done trivial)

theorem follows_startExpression (derives : Derives .optionalExpression lexemes trees)
    (ofExpression : Follows .optionalExpression lexemes trees) :
    Follows .loopStart lexemes trees := by
  intro assignable stack values rest (looks : look rest = some .semicolon)
  have notLet : ¬look (lexemes ++ rest) = some .letWord := by
    have begins := begins_of_derives derives
    cases lexemes with
    | nil => simp [looks]
    | cons first others =>
        intro isLet
        rw [List.cons_append, look_cons, Option.some.injEq] at isLet
        rw [Begins, isLet] at begins
        exact absurd begins (by decide)
  refine .expand (by rw [Goal.expand, if_neg notLet]) ?_
  exact (ofExpression .semicolon rfl (by decide)).comes looks fun after _ => .done trivial

theorem follows_startDeclarations {letWord : Lexeme} (declares : letWord.kind = .letWord)
    (ofItems : Follows .declarations lexemes trees) :
    Follows .loopStart (letWord :: lexemes) [.declarations trees] := by
  intro assignable stack values rest looks
  refine .expand (by rw [List.cons_append, look_cons, declares]; rfl) ?_
  refine .expand rfl (.take declares (.expand rfl ?_))
  exact comes_separated ofItems looks fun after _ => .build (.done trivial)

theorem follows_noParameters : Follows .parameters [] [] := by
  intro assignable stack values rest (looks : look rest = some .closeParen)
  have expands : Goal.parameters.expand assignable (look rest) = .ok [.build .nothing] := by
    rw [Goal.expand, if_pos looks]
  exact .expand expands (.build (.done trivial))

theorem follows_someParameters (derives : Derives .names lexemes trees)
    (ofNames : Follows .names lexemes trees) :
    Follows .parameters lexemes trees := by
  intro assignable stack values rest looks
  rcases (begins_of_derives derives).look_eq rfl rest with ⟨kind, first, begins⟩
  have expands : Goal.parameters.expand assignable (look (lexemes ++ rest)) =
      .ok [.goal (.separated .name)] := by
    rw [of_decide_eq_true begins] at first
    rw [first]
    rfl
  refine .expand expands (.expand rfl ?_)
  exact comes_separated ofNames looks fun after _ => .done trivial

/-! ## Statements -/

theorem comes_statement {form : Goal} {assignable : Bool} {leaves : Bool → Prop}
    {stack goal : List Symbol} {values final : List Value} {first : Lexeme}
    {rest : List Lexeme} {kind : Kind} (starts : first.kind = kind)
    (takesForm : statementForm (some kind) = form)
    (back : Comes ⟨⟨assignable, .goal form :: stack⟩, values, first :: others⟩ leaves goal final
      rest) :
    Comes ⟨⟨assignable, .goal .statement :: stack⟩, values, first :: others⟩ leaves goal final
      rest := by
  have expands : Goal.statement.expand assignable (look (first :: others)) =
      .ok [.goal form] := by
    rw [Goal.expand, look_cons, starts, takesForm]
  exact .expand expands back

theorem follows_emptyStatement {semicolon : Lexeme} (ends : semicolon.kind = .semicolon) :
    Follows .statement [semicolon] [.empty] := by
  intro assignable stack values rest _
  exact comes_statement ends rfl (.expand rfl (.take ends (.build (.done trivial))))

theorem statementForm_of_startsExpression {kind : Kind}
    (begins : startsExpression kind = true) :
    statementForm (some kind) = .expressionStatement := by
  revert begins
  cases kind <;> decide

theorem follows_expressionStatement {semicolon : Lexeme}
    (derives : Derives .expression lexemes [tree])
    (ofExpression : Follows .expression lexemes [tree]) (ends : semicolon.kind = .semicolon) :
    Follows .statement (lexemes ++ [semicolon]) [.expression tree] := by
  intro assignable stack values rest _
  rw [List.append_assoc]
  rcases (begins_of_derives derives).look_eq rfl ([semicolon] ++ rest) with
    ⟨kind, first, begins⟩
  have expands : Goal.statement.expand assignable (look (lexemes ++ ([semicolon] ++ rest))) =
      .ok [.goal .expressionStatement] := by
    rw [Goal.expand, first, statementForm_of_startsExpression begins]
  refine .expand expands (.expand rfl ?_)
  apply ofExpression.comes (by rw [List.singleton_append, look_cons, ends]; decide)
  exact fun after _ => .take ends (.build (.done trivial))

theorem follows_declarationStatement {letWord semicolon : Lexeme}
    (declares : letWord.kind = .letWord) (ofItems : Follows .declarations lexemes trees)
    (ends : semicolon.kind = .semicolon) :
    Follows .statement (letWord :: lexemes ++ [semicolon]) [.declarations trees] := by
  intro assignable stack values rest _
  simp only [List.cons_append, List.append_assoc, List.nil_append]
  refine comes_statement declares rfl (.expand rfl (.expand rfl (.take declares ?_)))
  refine .expand rfl (comes_separated ofItems (shows_cons ends) fun after _ => ?_)
  exact .build (.take ends (.done trivial))

theorem follows_block {opening closing : Lexeme} (opens : opening.kind = .openCurly)
    (ofBody : Follows .statements lexemes trees) (closes : closing.kind = .closeCurly) :
    Follows .block (opening :: lexemes ++ [closing]) [.block trees] := by
  intro assignable stack values rest _
  simp only [List.cons_append, List.append_assoc, List.nil_append]
  refine .expand rfl (.take opens ?_)
  apply (ofBody (some .closeCurly) (.inr rfl)).comes (shows_cons closes)
  exact fun after _ => .take closes (.build (.done trivial))

theorem follows_blockStatement (derives : Derives .block lexemes [tree])
    (ofBlock : Follows .block lexemes [tree]) :
    Follows .statement lexemes [tree] := by
  intro assignable stack values rest _
  rcases (begins_of_derives derives).look_eq rfl rest with ⟨kind, first, begins⟩
  have expands : Goal.statement.expand assignable (look (lexemes ++ rest)) =
      .ok [.goal .block] := by
    rw [of_decide_eq_true begins] at first
    rw [Goal.expand, first]
    rfl
  exact .expand expands (ofBlock.comes trivial fun after _ => .done trivial)

/-- A condition is read with its parentheses. -/
theorem comes_condition {assignable : Bool} {leaves : Bool → Prop} {stack goal : List Symbol}
    {values final : List Value} {opening closing : Lexeme} {rest remaining : List Lexeme}
    (opens : opening.kind = .openParen) (ofTest : Follows .expression lexemes [tree])
    (closes : closing.kind = .closeParen)
    (onward : ∀ after, Comes ⟨⟨after, stack⟩, .trees [tree] :: values, rest⟩ leaves goal final
      remaining) :
    Comes ⟨⟨assignable, .goal .condition :: stack⟩, values,
      opening :: (lexemes ++ closing :: rest)⟩ leaves goal final remaining := by
  refine .expand rfl (.take opens (ofTest.comes ?_ fun after _ => .take closes (onward after)))
  rw [look_cons, closes]
  decide

end Following

/-! ## Statements with statements in them -/

section Statements

variable {test body alternate : List Lexeme} {testTree bodyTree alternateTree : Tree}
  {opening closing : Lexeme}

theorem closes_of_closed {look : Option Kind} (closed : bodyTree.endsOpen = false) :
    Closes [bodyTree] look := by
  intro tree member
  rw [List.mem_singleton.1 member, closed]
  simp

theorem closes_of_ne {trees : List Tree} {look : Option Kind} (other : look ≠ some .elseWord) :
    Closes trees look :=
  fun _ _ _ => other

/-- A statement that ends in another one is followed by what may follow that one. -/
theorem Closes.last {tree : Tree} {look : Option Kind} (closes : Closes [tree] look)
    (ends : tree.endsOpen = bodyTree.endsOpen) : Closes [bodyTree] look := by
  intro other member opened
  rw [List.mem_singleton.1 member, ← ends] at opened
  exact closes tree (List.mem_singleton.2 rfl) opened

theorem follows_conditional {ifWord : Lexeme} (asks : ifWord.kind = .ifWord)
    (opens : opening.kind = .openParen) (ofTest : Follows .expression test [testTree])
    (closes : closing.kind = .closeParen) (ofBody : Follows .statement body [bodyTree]) :
    Follows .statement (ifWord :: opening :: test ++ closing :: body)
      [.conditional testTree bodyTree none] := by
  intro assignable stack values rest ends
  simp only [List.cons_append, List.append_assoc]
  have noElse : ¬look rest = some .elseWord :=
    ends _ (List.mem_singleton.2 rfl) (by rw [Tree.endsOpen, Tree.endsOpenOr])
  refine comes_statement asks rfl (.expand rfl (.take asks ?_))
  refine comes_condition opens ofTest closes fun after => ?_
  refine ofBody.comes (closes_of_ne noElse) fun after _ => ?_
  exact .expand (by rw [Goal.expand, if_neg noElse]) (.build (.build (.done trivial)))

theorem follows_conditionalElse {ifWord elseWord : Lexeme} (asks : ifWord.kind = .ifWord)
    (opens : opening.kind = .openParen) (ofTest : Follows .expression test [testTree])
    (closes : closing.kind = .closeParen) (ofBody : Follows .statement body [bodyTree])
    (closed : bodyTree.endsOpen = false) (otherwise : elseWord.kind = .elseWord)
    (ofAlternate : Follows .statement alternate [alternateTree]) :
    Follows .statement
      (ifWord :: opening :: test ++ closing :: body ++ elseWord :: alternate)
      [.conditional testTree bodyTree (some alternateTree)] := by
  intro assignable stack values rest ends
  simp only [List.cons_append, List.append_assoc]
  refine comes_statement asks rfl (.expand rfl (.take asks ?_))
  refine comes_condition opens ofTest closes fun after => ?_
  refine ofBody.comes (closes_of_closed closed) fun after _ => ?_
  refine .expand (by rw [look_cons, otherwise]; rfl) (.take otherwise ?_)
  refine ofAlternate.comes (ends.last (by rw [Tree.endsOpen, Tree.endsOpenOr])) fun after _ => ?_
  exact .build (.done trivial)

theorem follows_whileLoop {whileWord : Lexeme} (repeats : whileWord.kind = .whileWord)
    (opens : opening.kind = .openParen) (ofTest : Follows .expression test [testTree])
    (closes : closing.kind = .closeParen) (ofBody : Follows .statement body [bodyTree]) :
    Follows .statement (whileWord :: opening :: test ++ closing :: body)
      [.whileLoop testTree bodyTree] := by
  intro assignable stack values rest ends
  simp only [List.cons_append, List.append_assoc]
  refine comes_statement repeats rfl (.expand rfl (.take repeats ?_))
  refine comes_condition opens ofTest closes fun after => ?_
  refine ofBody.comes (ends.last (by rw [Tree.endsOpen])) fun after _ => ?_
  exact .build (.done trivial)

theorem follows_doWhileLoop {doWord whileWord semicolon : Lexeme}
    (starts : doWord.kind = .doWord) (ofBody : Follows .statement body [bodyTree])
    (repeats : whileWord.kind = .whileWord) (opens : opening.kind = .openParen)
    (ofTest : Follows .expression test [testTree]) (closes : closing.kind = .closeParen)
    (ends : semicolon.kind = .semicolon) :
    Follows .statement (doWord :: body ++ whileWord :: opening :: test ++ [closing, semicolon])
      [.doWhileLoop bodyTree testTree] := by
  intro assignable stack values rest _
  simp only [List.cons_append, List.append_assoc, List.nil_append]
  refine comes_statement starts rfl (.expand rfl (.take starts ?_))
  refine ofBody.comes (closes_of_ne (by simp [repeats])) fun after _ => .take repeats ?_
  refine comes_condition opens ofTest closes fun after => ?_
  exact .take ends (.build (.done trivial))

theorem follows_forLoop {forWord firstEnd secondEnd : Lexeme} {init update : List Lexeme}
    {initTrees testTrees updateTrees : List Tree} (repeats : forWord.kind = .forWord)
    (opens : opening.kind = .openParen) (ofInit : Follows .loopStart init initTrees)
    (endsInit : firstEnd.kind = .semicolon)
    (ofTest : Follows .optionalExpression test testTrees)
    (endsTest : secondEnd.kind = .semicolon)
    (ofUpdate : Follows .optionalExpression update updateTrees)
    (closes : closing.kind = .closeParen) (ofBody : Follows .statement body [bodyTree]) :
    Follows .statement
      (forWord :: opening :: init ++ firstEnd :: test ++ secondEnd :: update
        ++ closing :: body)
      [.forLoop initTrees.head? testTrees.head? updateTrees.head? bodyTree] := by
  intro assignable stack values rest ends
  simp only [List.cons_append, List.append_assoc]
  refine comes_statement repeats rfl (.expand rfl (.take repeats (.take opens ?_)))
  refine ofInit.comes (shows_cons endsInit) fun after _ => .take endsInit ?_
  refine (ofTest .semicolon rfl (by decide)).comes (shows_cons endsTest)
    fun after _ => .take endsTest ?_
  refine (ofUpdate .closeParen rfl (by decide)).comes (shows_cons closes)
    fun after _ => .take closes ?_
  refine ofBody.comes (ends.last (by rw [Tree.endsOpen])) fun after _ => ?_
  exact .build (.done trivial)

theorem follows_function {defWord : Lexeme} {text : String} {params : List Lexeme}
    {paramTrees : List Tree} (defines : defWord.kind = .defWord)
    (opens : opening.kind = .openParen) (ofParams : Follows .parameters params paramTrees)
    (closes : closing.kind = .closeParen) (ofBody : Follows .block body [bodyTree]) :
    Follows .statement (defWord :: ⟨.identifier, text⟩ :: opening :: params ++ closing :: body)
      [.function (.identifier text) paramTrees bodyTree] := by
  intro assignable stack values rest _
  simp only [List.cons_append, List.append_assoc]
  refine comes_statement defines rfl (.expand rfl (.take defines (comes_name (.take opens ?_))))
  refine ofParams.comes (shows_cons closes) fun after _ => .take closes ?_
  exact ofBody.comes trivial fun after _ => .build (.done trivial)

theorem follows_returning {returnWord semicolon : Lexeme} {argument : List Lexeme}
    {trees : List Tree} (returns : returnWord.kind = .returnWord)
    (ofArgument : Follows .optionalExpression argument trees)
    (ends : semicolon.kind = .semicolon) :
    Follows .statement (returnWord :: argument ++ [semicolon]) [.returning trees.head?] := by
  intro assignable stack values rest _
  simp only [List.cons_append, List.append_assoc, List.nil_append]
  refine comes_statement returns rfl (.expand rfl (.take returns ?_))
  have expands : Goal.returnedValue.expand assignable
      (look (argument ++ semicolon :: rest)) = .ok [.goal (.expressionUnless .semicolon)] := by
    rw [Goal.expand, if_neg]
    simp [look]
  refine .expand expands ?_
  apply (ofArgument .semicolon rfl (by decide)).comes (shows_cons ends)
  exact fun after _ => .take ends (.build (.done trivial))

theorem follows_noStatements : Follows .statements [] [] := by
  intro stop _ assignable stack values rest looks
  have expands : (Goal.statements stop).expand assignable (look rest) = .ok [.build .nothing] := by
    rw [Goal.expand, if_pos (.inr looks)]
  exact .expand expands (.build (.done trivial))

theorem follows_moreStatements {first others : List Lexeme} {tree : Tree} {trees : List Tree}
    (derivesFirst : Derives .statement first [tree])
    (derivesOthers : Derives .statements others trees)
    (ofFirst : Follows .statement first [tree]) (ofOthers : Follows .statements others trees) :
    Follows .statements (first ++ others) (tree :: trees) := by
  intro stop stops assignable stack values rest (looks : look rest = stop)
  rw [List.append_assoc]
  rcases (begins_of_derives derivesFirst).look_eq rfl (others ++ rest) with
    ⟨kind, looksFirst, begins⟩
  have expands : (Goal.statements stop).expand assignable (look (first ++ (others ++ rest))) =
      .ok [.goal .statement, .goal (.statements stop), .build .cons] := by
    rw [Goal.expand, if_neg]
    rw [looksFirst]
    rintro (none | isStop)
    · cases none
    · rcases stops with rfl | rfl
      · cases isStop
      · rw [Option.some.inj isStop] at begins
        exact absurd begins (by decide)
  have noElse : look (others ++ rest) ≠ some .elseWord := by
    have begins := begins_of_derives derivesOthers
    cases others with
    | nil =>
        rw [List.nil_append, looks]
        rcases stops with rfl | rfl <;> simp
    | cons next further =>
        rw [List.cons_append, look_cons]
        intro isElse
        rw [Begins, Option.some.inj isElse] at begins
        exact absurd begins (by decide)
  refine .expand expands (ofFirst.comes (closes_of_ne noElse) fun after _ => ?_)
  exact (ofOthers stop stops).comes looks fun after _ => .build (.done trivial)

theorem follows_program {lexemes : List Lexeme} {trees : List Tree}
    (ofStatements : Follows .statements lexemes trees) :
    Follows .program lexemes [.program trees] := by
  intro assignable stack values rest looks
  refine .expand rfl ((ofStatements none (.inl rfl)).comes looks fun after _ => ?_)
  exact .build (.done trivial)

end Statements

/-! ## Derivations -/

/-- The machine follows every derivation. -/
theorem follows_of_derives {category : Category} {lexemes : List Lexeme} {trees : List Tree}
    (derives : Derives category lexemes trees) : Follows category lexemes trees := by
  induction derives with
  | literal literal => exact follows_literal literal
  | name text => exact follows_name
  | grouping opens _ closes inside => exact follows_grouping opens inside closes
  | memberPrimary _ ofPrimary => exact follows_memberPrimary ofPrimary
  | memberName _ dots ofObject => exact follows_memberName ofObject dots
  | memberIndex _ opens _ closes ofObject ofIndex =>
      exact follows_memberIndex ofObject opens ofIndex closes
  | unaryMember derives ofMember => exact follows_unaryMember derives ofMember
  | unaryOperator operates _ ofArgument => exact follows_unaryOperator operates ofArgument
  | binaryOperand _ ofOperand => exact follows_binaryOperand ofOperand
  | binaryOperator _ operates _ ofLeft ofRight =>
      exact follows_binaryOperator ofLeft operates ofRight
  | expressionOperand _ ofOperand => exact follows_expressionOperand ofOperand
  | assignment _ assignable operates _ ofLeft ofRight =>
      exact follows_assignment ofLeft assignable operates ofRight
  | noExpression => exact follows_noExpression
  | someExpression derives ofExpression => exact follows_someExpression derives ofExpression
  | bareDeclaration text => exact follows_bareDeclaration
  | fullDeclaration assigns _ ofValue => exact follows_fullDeclaration assigns ofValue
  | oneDeclaration _ ofDeclaration =>
      exact passes_last (by decide) (.inl rfl) ofDeclaration
  | moreDeclarations _ separates _ ofFirst ofOthers =>
      exact passes_more separates (.inr rfl) ofFirst ofOthers
  | startExpression derives ofExpression => exact follows_startExpression derives ofExpression
  | startDeclarations declares _ ofItems => exact follows_startDeclarations declares ofItems
  | oneName text => exact passes_last (by decide) trivial passes_name
  | moreNames separates _ ofOthers => exact passes_more separates trivial passes_name ofOthers
  | noParameters => exact follows_noParameters
  | someParameters derives ofNames => exact follows_someParameters derives ofNames
  | emptyStatement ends => exact follows_emptyStatement ends
  | expressionStatement derives ends ofExpression =>
      exact follows_expressionStatement derives ofExpression ends
  | declarationStatement declares _ ends ofItems =>
      exact follows_declarationStatement declares ofItems ends
  | block opens _ closes ofBody => exact follows_block opens ofBody closes
  | blockStatement derives ofBlock => exact follows_blockStatement derives ofBlock
  | conditional asks opens _ closes _ ofTest ofConsequent =>
      exact follows_conditional asks opens ofTest closes ofConsequent
  | conditionalElse asks opens _ closes _ closed otherwise _ ofTest ofConsequent ofAlternate =>
      exact follows_conditionalElse asks opens ofTest closes ofConsequent closed otherwise
        ofAlternate
  | whileLoop repeats opens _ closes _ ofTest ofBody =>
      exact follows_whileLoop repeats opens ofTest closes ofBody
  | doWhileLoop starts _ repeats opens _ closes ends ofBody ofTest =>
      exact follows_doWhileLoop starts ofBody repeats opens ofTest closes ends
  | forLoop repeats opens _ endsInit _ endsTest _ closes _ ofInit ofTest ofUpdate ofBody =>
      exact follows_forLoop repeats opens ofInit endsInit ofTest endsTest ofUpdate closes ofBody
  | function defines opens _ closes _ ofParams ofBody =>
      exact follows_function defines opens ofParams closes ofBody
  | returning returns _ ends ofArgument => exact follows_returning returns ofArgument ends
  | noStatements => exact follows_noStatements
  | moreStatements derivesFirst derivesOthers ofFirst ofOthers =>
      exact follows_moreStatements derivesFirst derivesOthers ofFirst ofOthers
  | program _ ofStatements => exact follows_program ofStatements

/-- Before anything of a program is read. -/
def Control.initial : Control where
  assignable := false
  stack := [.goal .program]

/-- The machine reads all of what a program derives, and has its tree at the end. -/
theorem reaches_of_derives {lexemes : List Lexeme} {tree : Tree}
    (derives : Derives .program lexemes [tree]) :
    ∃ after, onLexemes.Reaches ⟨.initial, [], lexemes⟩ ⟨⟨after, []⟩, [.trees [tree]], []⟩ := by
  have follows : Follows .program lexemes [tree] := follows_of_derives derives
  rcases follows false [] [] [] rfl with ⟨after, _, reaches⟩
  simp only [List.append_nil] at reaches
  exact ⟨after, reaches⟩

/-- No lexemes spell two programs. -/
theorem tree_unique {lexemes : List Lexeme} {first second : Tree}
    (derivesFirst : Derives .program lexemes [first])
    (derivesSecond : Derives .program lexemes [second]) :
    first = second := by
  rcases reaches_of_derives derivesFirst with ⟨afterFirst, reachesFirst⟩
  rcases reaches_of_derives derivesSecond with ⟨afterSecond, reachesSecond⟩
  have same := reachesFirst.unique rfl reachesSecond rfl
  simp only [Config.mk.injEq, List.cons.injEq, Value.trees.injEq] at same
  exact same.2.1.1.1

/-- The kinds of what a program derives are read to the end. -/
theorem runs_of_derives {lexemes : List Lexeme} {tree : Tree}
    (derives : Derives .program lexemes [tree]) :
    ∃ after, Runs .initial (lexemes.map Lexeme.kind) ⟨after, []⟩ [] := by
  rcases reaches_of_derives derives with ⟨after, reaches⟩
  exact ⟨after, reaches.runs⟩

end Script.Machine
