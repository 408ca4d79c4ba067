import Script.Proofs.Machine
import Script.Proofs.Numerals
import Script.Proofs.Pending

/-!
# Productions follow the stack machine

Every production does what the stack machine does with the goal of that
production.  Where the production succeeds, the machine has read the same tokens
and has the rest of its stack left.  Where the production fails, the machine has
come to the token that the diagnostic is about, and refuses it for the reason
that the diagnostic gives; or it asks for a token behind which the lexer fails.

The relation is closed under the ways in which productions are put together, so
each production needs no more than the productions it calls.
-/

namespace Script.Parser

open Machine

/-- The cause that is reported where the machine refuses a token, or the end. -/
inductive Reports : Refusal → Option Token → Cause → Prop where
  | ended (expected : Kind) :
      Reports (.kind expected) none (.unexpectedEndOfInput expected.name)
  | otherKind (expected : Kind) (token : Token) :
      Reports (.kind expected) (some token) (.unexpectedToken token.text expected.name)
  | noExpression :
      Reports .expression none (.unexpectedEndOfInput "expression")
  | notExpression (token : Token) :
      Reports .expression (some token) (.unexpectedLiteral token.text)
  | noLiteral :
      Reports .literal none (.unexpectedEndOfInput "literal")
  | notLiteral (token : Token) :
      Reports .literal (some token) (.unexpectedLiteral token.text)
  | notAssignable (token : Token) (target : String) :
      Reports .target (some token) (.invalidAssignmentTarget target)

/-- Why the machine does not get past the last state of a production that fails. -/
inductive Explains (control : Control) (last : State) : Diagnostic → State → Prop where
  | refused {refusal : Refusal} {cause : Cause}
      (refuses : control.move last.kind? = .refuse refusal)
      (reports : Reports refusal last.lookahead cause) :
      Explains control last ⟨cause, last.position⟩ last
  | starved {further : Control} {diagnostic : Diagnostic} {next : State}
      (shifts : control.move last.kind? = .shift further)
      (starves : last.Starves diagnostic next) :
      Explains control last diagnostic next

variable {α β : Type} {bound final : Nat}

/--
The machine deals with some symbols as a reply says.  What was read last may be
assigned to afterwards as far as `leaves` tells.
-/
def Follows (assignable : Bool) (symbols : List Symbol) (state : State)
    (leaves : α → Bool → Prop) (reply : Reply α bound) : Prop :=
  state.Genuine →
    match reply with
    | .ok value next _ =>
        state.Advances next ∧
          ∃ after, leaves value after ∧
            ∀ stack,
              Runs ⟨assignable, symbols ++ stack⟩ state.kinds ⟨after, stack⟩ next.kinds
    | .fail diagnostic next =>
        ∃ last, state.Advances last ∧
          ∀ stack, ∃ control,
            Runs ⟨assignable, symbols ++ stack⟩ state.kinds control last.kinds ∧
              Explains control last diagnostic next

/-- The machine deals with a goal as a reply says, whatever it read before. -/
def Performs (goal : Goal) (state : State) (leaves : α → Bool → Prop)
    (reply : Reply α bound) : Prop :=
  ∀ assignable, Follows assignable [.goal goal] state leaves reply

/-- Nothing is known about what was read last. -/
def Anything (_ : α) (_ : Bool) : Prop :=
  True

/-- What was read last may be assigned to as before. -/
def Keeps (assignable : Bool) (_ : α) (after : Bool) : Prop :=
  after = assignable

/-- What was read last may be assigned to if its tree may be. -/
def Yields (tree : Tree) (after : Bool) : Prop :=
  after = tree.isAssignable

theorem Performs.anything {goal : Goal} {state : State} {leaves : α → Bool → Prop}
    {reply : Reply α bound} (performs : Performs goal state leaves reply) :
    Performs goal state Anything reply := by
  intro assignable genuine
  have performed := performs assignable genuine
  cases reply with
  | ok value next lighter =>
      rcases performed with ⟨advances, after, _, runs⟩
      exact ⟨advances, after, trivial, runs⟩
  | fail diagnostic next => exact performed

/-! ## Putting productions together -/

section Composition

variable {assignable : Bool} {state : State} {symbol : Symbol} {others : List Symbol}
  {middle : α → Bool → Prop} {leaves : β → Bool → Prop}

theorem Follows.done {value : β} {lighter : state.weight < final}
    (leaving : leaves value assignable) :
    Follows assignable [] state leaves (.ok value state lighter) := by
  intro _
  exact ⟨.refl, assignable, leaving, fun _ => .refl _⟩

theorem Follows.assuming {reply : Reply β final} {symbols : List Symbol}
    (follows : state.Genuine → Follows assignable symbols state leaves reply) :
    Follows assignable symbols state leaves reply :=
  fun genuine => follows genuine genuine

theorem Follows.after {reply : Reply β state.weight} {moved : state.weight < final}
    {symbols : List Symbol} {start : State}
    (follows : Follows assignable symbols start leaves reply) :
    Follows assignable symbols start leaves (reply.after moved) := by
  cases reply <;> exact follows

theorem Follows.map {reply : Reply α bound} {symbols : List Symbol} {change : α → β}
    (follows : Follows assignable symbols state middle reply)
    (changes : ∀ value after, middle value after → leaves (change value) after) :
    Follows assignable symbols state leaves (reply.map change) := by
  intro genuine
  have followed := follows genuine
  cases reply with
  | ok value next lighter =>
      rcases followed with ⟨advances, after, leaving, runs⟩
      exact ⟨advances, after, changes value after leaving, runs⟩
  | fail diagnostic next => exact followed

theorem Reply.map_eq_andThen (reply : Reply α bound) (change : α → β) :
    reply.map change = reply.andThen fun value next lighter => .ok (change value) next lighter := by
  cases reply <;> rfl

/-- The machine deals with the first symbol, and then with the others. -/
theorem Follows.andThen {reply : Reply α bound}
    {continuation : (value : α) → (next : State) → next.weight < bound → Reply β final}
    (front : Follows assignable [symbol] state middle reply)
    (back : ∀ value next lighter after, middle value after →
      Follows after others next leaves (continuation value next lighter)) :
    Follows assignable (symbol :: others) state leaves (reply.andThen continuation) := by
  intro genuine
  have first := front genuine
  cases reply with
  | fail diagnostic next =>
      rcases first with ⟨last, advances, stops⟩
      exact ⟨last, advances, fun stack => stops (others ++ stack)⟩
  | ok value next lighter =>
      rcases first with ⟨advances, after, leaving, runs⟩
      have second := back value next lighter after leaving (advances.genuine genuine)
      simp only [Reply.andThen]
      cases continued : continuation value next lighter with
      | ok result final lighter =>
          simp only [continued] at second
          rcases second with ⟨further, last, leavingLast, runsOn⟩
          exact ⟨advances.trans further, last, leavingLast,
            fun stack => (runs (others ++ stack)).trans (runsOn stack)⟩
      | fail diagnostic final =>
          simp only [continued] at second
          rcases second with ⟨last, further, stops⟩
          refine ⟨last, advances.trans further, fun stack => ?_⟩
          rcases stops stack with ⟨control, runsOn, explains⟩
          exact ⟨control, (runs (others ++ stack)).trans runsOn, explains⟩

/-- Steps that take no token may be put before what the machine does. -/
theorem Follows.idle {reply : Reply β final} {symbols parts : List Symbol} {earlier : Bool}
    (idles : ∀ stack, Runs ⟨earlier, symbols ++ stack⟩ state.kinds
      ⟨assignable, parts ++ stack⟩ state.kinds)
    (follows : Follows assignable parts state leaves reply) :
    Follows earlier symbols state leaves reply := by
  intro genuine
  have followed := follows genuine
  cases reply with
  | ok value next lighter =>
      rcases followed with ⟨advances, after, leaving, runs⟩
      exact ⟨advances, after, leaving, fun stack => (idles stack).trans (runs stack)⟩
  | fail diagnostic next =>
      rcases followed with ⟨last, advances, stops⟩
      refine ⟨last, advances, fun stack => ?_⟩
      rcases stops stack with ⟨control, runs, explains⟩
      exact ⟨control, (idles stack).trans runs, explains⟩

theorem Follows.build {reply : Reply β final} {build : Build}
    (follows : Follows (build.leaves assignable) others state leaves reply) :
    Follows assignable (.build build :: others) state leaves reply :=
  follows.idle fun _ => Semantics.reaches_build

theorem Follows.goal {reply : Reply β final} {goal : Goal} {parts : List Symbol}
    (expands : goal.expand assignable state.kind? = .ok parts)
    (follows : Follows assignable (parts ++ others) state leaves reply) :
    Follows assignable (.goal goal :: others) state leaves reply := by
  refine follows.idle fun stack => ?_
  rw [List.append_assoc]
  apply Semantics.reaches_goal
  rw [State.head?_kinds, map_kind_onKinds]
  exact expands

theorem Follows.instead {reply : Reply β final} {goal other : Goal}
    (expands : goal.expand assignable state.kind? = .ok [.goal other])
    (performs : Performs other state leaves reply) :
    Follows assignable [.goal goal] state leaves reply :=
  .goal expands (performs assignable)

theorem Follows.skip {goal : Goal} {value : β} {lighter : state.weight < final}
    (expands : goal.expand assignable state.kind? = .ok [])
    (leaving : leaves value assignable) :
    Follows assignable [.goal goal] state leaves (.ok value state lighter) :=
  .goal expands (.done leaving)

/-- The machine refuses what the reply complains about. -/
theorem Follows.refuse {symbols : List Symbol} {refusal : Refusal} {cause : Cause}
    (refuses : ∀ stack,
      (Control.mk assignable (symbols ++ stack)).move state.kind? = .refuse refusal)
    (reports : Reports refusal state.lookahead cause) :
    Follows assignable symbols state leaves
      (.fail ⟨cause, state.position⟩ state : Reply β final) := by
  intro _
  exact ⟨state, .refl, fun stack => ⟨_, .refl _, .refused (refuses stack) reports⟩⟩

theorem Follows.refuseGoal {goal : Goal} {refusal : Refusal} {cause : Cause}
    (refuses : goal.expand assignable state.kind? = .error refusal)
    (reports : Reports refusal state.lookahead cause) :
    Follows assignable [.goal goal] state leaves
      (.fail ⟨cause, state.position⟩ state : Reply β final) := by
  refine .refuse (fun stack => ?_) reports
  simp [Control.move, refuses]

end Composition

/-! ## Tokens -/

section Tokens

variable {assignable : Bool} {state : State} {symbol : Symbol} {kind : Kind}

/-- A symbol that stands for one token of a kind. -/
def Awaits (kind : Kind) (symbol : Symbol) : Prop :=
  symbol = .take kind ∨ symbol = .keep kind

theorem Awaits.move_eq (awaits : Awaits kind symbol) (others : List Symbol)
    (look : Option Kind) :
    (Control.mk assignable (symbol :: others)).move look =
      if look = some kind then .shift ⟨assignable, others⟩ else .refuse (.kind kind) := by
  rcases awaits with rfl | rfl <;> rfl

theorem Awaits.runs (awaits : Awaits kind symbol) (others : List Symbol) (rest : List Kind) :
    Runs ⟨assignable, symbol :: others⟩ (kind :: rest) ⟨assignable, others⟩ rest := by
  rcases awaits with rfl | rfl
  · exact Semantics.reaches_take rfl
  · exact Semantics.reaches_keep rfl

theorem follows_advance (awaits : Awaits kind symbol) (held : state.kind? = some kind) :
    Follows assignable [symbol] state (Keeps assignable) state.advance := by
  intro genuine
  rcases exists_lookahead held with ⟨token, looked, rfl⟩
  rcases State.takes_or_starves looked with ⟨next, takes⟩ | ⟨diagnostic, next, starves⟩
  · have kinds : state.kinds = token.kind :: next.kinds := by
      rw [State.kinds, takes.pending_eq, List.map_cons, State.kinds]
    have advances : state.Advances next := .single ⟨token, takes⟩
    rcases takes with ⟨lighter, equation⟩
    rw [equation, kinds]
    exact ⟨advances, assignable, rfl, fun stack => awaits.runs stack next.kinds⟩
  · rw [starves.fails]
    refine ⟨state, .refl, fun stack => ⟨_, .refl _, ?_⟩⟩
    have shifts : (Control.mk assignable (symbol :: stack)).move state.kind? =
        .shift ⟨assignable, stack⟩ := by
      rw [awaits.move_eq, if_pos held]
    exact .starved shifts starves

theorem follows_expect (awaits : Awaits kind symbol) :
    Follows assignable [symbol] state (Keeps assignable) (state.expect kind) := by
  unfold State.expect
  split
  next ended =>
    refine .refuse (fun stack => ?_) (by rw [ended]; exact .ended kind)
    rw [List.singleton_append, awaits.move_eq, if_neg]
    simp [State.kind?, ended]
  next token held =>
    have looks := kind?_of_lookahead held
    split
    next same => exact follows_advance awaits (same ▸ looks)
    next differs =>
      rw [← position_of_lookahead held]
      refine .refuse (fun stack => ?_) (by rw [held]; exact .otherKind kind token)
      rw [List.singleton_append, awaits.move_eq, if_neg]
      rw [looks, Option.some.injEq]
      exact differs

theorem follows_take : Follows assignable [.take kind] state (Keeps assignable)
    (state.expect kind) :=
  follows_expect (.inl rfl)

theorem follows_keep : Follows assignable [.keep kind] state (Keeps assignable)
    (state.expect kind) :=
  follows_expect (.inr rfl)

end Tokens

/-! ## Expressions -/

section Expressions

variable {state : State}

theorem follows_unexpected {leaves : α → Bool → Prop} {assignable : Bool} {goal : Goal}
    {refusal : Refusal} {expected : String}
    (refuses : goal.expand assignable state.kind? = .error refusal)
    (ended : Reports refusal none (.unexpectedEndOfInput expected))
    (other : ∀ token, Reports refusal (some token) (.unexpectedLiteral token.text)) :
    Follows assignable [.goal goal] state leaves
      (state.unexpected expected : Reply α bound) := by
  unfold State.unexpected
  split
  next token held =>
    rw [← position_of_lookahead held]
    exact .refuseGoal refuses (by rw [held]; exact other token)
  next nothing =>
    exact .refuseGoal refuses (by rw [nothing]; exact ended)

theorem identifier_performs (state : State) :
    Performs .name state Yields (identifier state : Reply Tree state.weight) := by
  intro assignable
  rw [identifier, Reply.map_eq_andThen]
  refine .goal rfl (follows_keep.andThen ?_)
  rintro token next _ _ _
  exact .build (.done rfl)

/-- A literal that is a token of its own kind, whatever its tree. -/
theorem follows_literal {kind : Kind} {tree : Token → Tree}
    (held : state.kind? = some kind) (isLiteral : kind.isLiteral = true)
    (notAssignable : ∀ token, (tree token).isAssignable = false) :
    Performs .literal state Yields (state.advance.map tree) := by
  intro assignable
  rw [Reply.map_eq_andThen]
  have expands : Goal.literal.expand assignable state.kind? =
      .ok [.keep kind, .build .literal] := by
    simp [Goal.expand, held, isLiteral]
  refine .goal expands ((follows_advance (.inr rfl) held).andThen ?_)
  rintro token next _ _ _
  exact .build (.done (notAssignable token).symm)

/-- A number token that the lexer made has a value. -/
theorem advance_number (genuine : state.Genuine) (held : state.kind? = some .number) :
    ∃ value, (literal state : Reply Tree state.weight) =
      state.advance.map fun _ => .number value := by
  rcases exists_lookahead held with ⟨token, looked, isNumber⟩
  have spelled : Kind.number.Spells token.text.toList := isNumber ▸ genuine token looked
  rcases Numeral.read_of_digits spelled with ⟨value, reads⟩
  refine ⟨value, ?_⟩
  simp only [literal, held]
  cases reply : state.advance with
  | fail diagnostic next => rfl
  | ok taken next lighter =>
      have takes : state.Takes taken next := ⟨lighter, reply⟩
      have same : some token = some taken := looked.symm.trans takes.cases.1
      cases same
      simp only [Reply.andThen, reads, Reply.map]
      rfl

theorem literal_performs :
    Performs .literal state Yields (literal state : Reply Tree state.weight) := by
  intro assignable
  by_cases number : state.kind? = some .number
  · refine .assuming fun genuine => ?_
    rcases advance_number genuine number with ⟨value, equation⟩
    rw [equation]
    exact follows_literal number rfl (fun _ => rfl) assignable
  unfold literal
  split
  next held => exact absurd held number
  next held => exact follows_literal held rfl (fun _ => rfl) assignable
  next held => exact follows_literal held rfl (fun _ => rfl) assignable
  next held => exact follows_literal held rfl (fun _ => rfl) assignable
  next held => exact follows_literal held rfl (fun _ => rfl) assignable
  next notNumber notString notTrue notFalse notNull =>
    refine follows_unexpected ?_ .noLiteral .notLiteral
    cases held : state.kind? with
    | none => rfl
    | some kind => cases kind <;> first | rfl | contradiction

theorem primary_performs (state : State)
    (ofGrouping : Performs .grouping state Yields (grouping state : Reply Tree state.weight)) :
    Performs .primary state Yields (primary state : Reply Tree state.weight) := by
  intro assignable
  unfold primary
  split
  next held => exact .instead (by rw [held]; rfl) ofGrouping
  next held => exact .instead (by rw [held]; rfl) (identifier_performs state)
  next kind notParen notName held =>
    have expands : Goal.primary.expand assignable state.kind? =
        if kind.isLiteral then .ok [.goal .literal] else .error .expression := by
      rw [held, Goal.expand] <;> simp_all
    split
    next isLiteral => exact .instead (by rw [expands, if_pos isLiteral]) literal_performs
    next notLiteral =>
      exact follows_unexpected (by rw [expands, if_neg notLiteral]) .noExpression .notExpression
  next ended =>
    exact follows_unexpected (by rw [ended]; rfl) .noExpression .notExpression

/-- The production of expressions does what the machine does with an expression. -/
def ExpressionPerforms (state : State) : Prop :=
  Performs .expression state Yields (assignment state : Reply Tree state.weight)

theorem grouping_performs (state : State) (ofInner : state.Later ExpressionPerforms) :
    Performs .grouping state Yields (grouping state : Reply Tree state.weight) := by
  intro assignable
  rw [grouping]
  refine .goal rfl (follows_take.andThen ?_)
  rintro _ afterOpen opened _ rfl
  apply (ofInner afterOpen opened _).after.andThen
  rintro inner afterInner _ after yields
  apply follows_take.after.andThen
  rintro _ afterClose _ _ rfl
  exact .done yields

/-- What follows an object does what the machine does with it. -/
def MemberRestPerforms (state : State) : Prop :=
  ∀ (object : Tree) (bound : Nat) (moved : state.weight < bound),
    Follows object.isAssignable [.goal .memberRest] state Yields
      (memberRest object state moved)

theorem memberRest_performs (state : State) (ofIndex : state.Later ExpressionPerforms)
    (ofRest : state.Later MemberRestPerforms) :
    MemberRestPerforms state := by
  intro object bound moved
  unfold memberRest
  split
  next held =>
    refine .goal (by rw [held]; rfl) ((follows_advance (.inl rfl) held).andThen ?_)
    rintro _ afterDot _ _ rfl
    apply (identifier_performs _ _).after.andThen
    rintro property afterProperty taken _ _
    exact .build (ofRest afterProperty taken _ _ _)
  next held =>
    refine .goal (by rw [held]; rfl) ((follows_advance (.inl rfl) held).andThen ?_)
    rintro _ afterOpen opened _ rfl
    apply (ofIndex afterOpen opened _).after.andThen
    rintro property afterProperty _ _ _
    apply follows_take.after.andThen
    rintro _ afterClose taken _ _
    exact .build (ofRest afterClose taken _ _ _)
  next notDot notBracket =>
    have expands : Goal.memberRest.expand object.isAssignable state.kind? = .ok [] := by
      rw [Goal.expand] <;> simp_all
    exact .skip expands rfl

theorem member_performs (state : State)
    (ofObject : Performs .primary state Yields (primary state : Reply Tree state.weight))
    (ofRest : state.Later MemberRestPerforms) :
    Performs .member state Yields (member state : Reply Tree state.weight) := by
  intro assignable
  rw [member]
  refine .goal rfl ((ofObject assignable).andThen ?_)
  rintro object afterObject taken _ rfl
  exact ofRest afterObject taken object _ taken

theorem unary_performs (state : State)
    (ofMember : Performs .member state Yields (member state : Reply Tree state.weight))
    (ofArgument : state.Later fun next =>
      Performs .unary next Yields (unary next : Reply Tree next.weight)) :
    Performs .unary state Yields (unary state : Reply Tree state.weight) := by
  intro assignable
  unfold unary
  split
  next operates =>
    rcases (Option.any_eq_true ..).1 operates with ⟨kind, held, isUnary⟩
    have expands : Goal.unary.expand assignable state.kind? =
        .ok [.keep kind, .goal .unary, .build .unary] := by
      simp [Goal.expand, held, isUnary]
    refine .goal expands ((follows_advance (.inr rfl) held).andThen ?_)
    rintro operator afterOperator taken _ _
    apply (ofArgument afterOperator taken _).after.andThen
    rintro argument afterArgument _ _ _
    exact .build (.done rfl)
  next bare =>
    have expands : Goal.unary.expand assignable state.kind? = .ok [.goal .member] := by
      cases held : state.kind? with
      | none => rfl
      | some kind => simp_all [Goal.expand]
    exact .instead expands ofMember

/-- The tree of a binary operator cannot be assigned to. -/
theorem isAssignable_binaryNode (level : Level) (operator : String) (left right : Tree) :
    (binaryNode level operator left right).isAssignable = false := by
  unfold binaryNode
  split <;> rfl

/-- What stands between the operators of a level does what the machine does with it. -/
def OperandPerforms (level : Level) (state : State) : Prop :=
  Performs (Machine.operand level) state Yields
    (operand level state : Reply Tree state.weight)

/-- A level of binary operators does what the machine does with it. -/
def BinaryPerforms (level : Level) (state : State) : Prop :=
  Performs (.binary level) state Yields (binary level state : Reply Tree state.weight)

/-- What follows an operand does what the machine does with it. -/
def BinaryRestPerforms (level : Level) (state : State) : Prop :=
  ∀ (left : Tree) (bound : Nat) (moved : state.weight < bound),
    Follows left.isAssignable [.goal (.binaryRest level)] state Yields
      (binaryRest level left state moved)

theorem binaryRest_performs (level : Level) (state : State)
    (ofOperand : state.Later (OperandPerforms level))
    (ofRest : state.Later (BinaryRestPerforms level)) :
    BinaryRestPerforms level state := by
  intro left bound moved
  unfold binaryRest
  split
  next operates =>
    rcases Option.bind_eq_some_iff.1 operates with ⟨kind, held, ofLevel⟩
    rw [Level.ofKind?_eq_some.1 ofLevel] at held
    refine .goal (by rw [Goal.expand, if_pos operates])
      ((follows_advance (.inr rfl) held).andThen ?_)
    rintro operator afterOperator taken _ _
    apply (ofOperand afterOperator taken _).after.andThen
    rintro right afterRight taken _ _
    have rest := ofRest afterRight taken (binaryNode level operator.text left right) bound
      (State.below taken moved)
    rw [isAssignable_binaryNode] at rest
    exact .build rest
  next ends => exact .skip (by rw [Goal.expand, if_neg ends]) rfl

theorem binary_performs (level : Level) (state : State)
    (ofOperand : OperandPerforms level state)
    (ofRest : state.Later (BinaryRestPerforms level)) :
    BinaryPerforms level state := by
  intro assignable
  rw [binary]
  refine .goal rfl ((ofOperand assignable).andThen ?_)
  rintro left afterLeft taken _ rfl
  exact ofRest afterLeft taken left _ taken

theorem assignment_performs (state : State) (ofLeft : BinaryPerforms .logicalOr state)
    (ofRight : state.Later ExpressionPerforms) :
    ExpressionPerforms state := by
  intro assignable
  rw [assignment]
  refine .goal rfl ((ofLeft assignable).andThen ?_)
  rintro left afterLeft taken _ rfl
  split
  next ended => exact .skip (by simp [Goal.expand, State.kind?, ended]) rfl
  next token held =>
    have looks := kind?_of_lookahead held
    split
    next assigns =>
      split
      next allowed =>
        have expands : Goal.assigned.expand left.isAssignable afterLeft.kind? =
            .ok [.keep token.kind, .goal .expression, .build .assignment] := by
          rw [looks, Goal.expand]
          exact (if_pos assigns).trans (if_pos allowed)
        refine .goal expands ((follows_advance (.inr rfl) looks).after.andThen ?_)
        rintro operator afterOperator taken _ _
        apply (ofRight afterOperator taken _).after.andThen
        rintro right afterRight _ _ _
        exact .build (.done rfl)
      next refused =>
        have expands : Goal.assigned.expand left.isAssignable afterLeft.kind? =
            .error .target := by
          rw [looks, Goal.expand]
          exact (if_pos assigns).trans (if_neg refused)
        rw [← position_of_lookahead held]
        exact .refuseGoal expands (by rw [held]; exact .notAssignable token _)
    next ends => exact .skip (by simp [Goal.expand, looks, ends]) rfl

/-- All productions of expressions do what the machine does with their goals. -/
theorem expressions_perform (state : State) :
    ExpressionPerforms state ∧ (∀ level, BinaryPerforms level state) ∧
      (∀ level, OperandPerforms level state) ∧
      Performs .unary state Yields (unary state : Reply Tree state.weight) ∧
      Performs .member state Yields (member state : Reply Tree state.weight) ∧
      Performs .primary state Yields (primary state : Reply Tree state.weight) ∧
      Performs .grouping state Yields (grouping state : Reply Tree state.weight) := by
  refine State.expression_induction grouping_performs primary_performs memberRest_performs
    member_performs unary_performs ?_ ?_ binaryRest_performs binary_performs
    assignment_performs state
  · intro level state next ofUnary
    rw [OperandPerforms, operand_of_tightest next, Machine.operand, next]
    exact ofUnary
  · intro level tighter state next ofBinary
    rw [OperandPerforms, operand_of_tighter next, Machine.operand, next]
    exact ofBinary

theorem expression_performs (state : State) : ExpressionPerforms state :=
  (expressions_perform state).1

end Expressions

/-! ## Parts of statements -/

section Parts

variable {item : (state : State) → Reply α state.weight} {itemGoal : Goal}

theorem afterCommas_performs
    (ofItem : ∀ state, Performs itemGoal state Anything (item state)) (state : State) :
    ∀ (bound : Nat) (moved : state.weight < bound),
      Performs (.afterCommas itemGoal) state Anything (afterCommas item state moved) := by
  induction state using State.descend with
  | step state later =>
      intro bound moved assignable
      unfold afterCommas
      split
      next held =>
        rw [State.isAt_iff] at held
        refine .goal (by rw [held]; rfl) ((follows_advance (.inl rfl) held).andThen ?_)
        rintro _ afterComma _ _ _
        apply (ofItem afterComma _).after.andThen
        rintro first afterFirst taken _ _
        apply (later afterFirst taken bound _ _).andThen
        rintro others afterOthers _ _ _
        exact .build (.done trivial)
      next ends =>
        rw [State.isAt_iff] at ends
        exact .goal (by rw [Goal.expand, if_neg ends]) (.build (.done trivial))

theorem commaSeparated_performs
    (ofItem : ∀ state, Performs itemGoal state Anything (item state)) (state : State) :
    Performs (.separated itemGoal) state Anything (commaSeparated item state) := by
  intro assignable
  rw [commaSeparated]
  refine .goal rfl ((ofItem state _).andThen ?_)
  rintro first afterFirst taken _ _
  apply (afterCommas_performs ofItem afterFirst _ taken _).andThen
  rintro others afterOthers _ _ _
  exact .build (.done trivial)

variable {state : State} {moved : state.weight < bound}

theorem expressionUnless_performs {stop : Kind} :
    Performs (.expressionUnless stop) state Anything
      (expressionUnless stop state moved : Reply (Option Tree) bound) := by
  intro assignable
  unfold expressionUnless expression
  split
  next held =>
    rw [State.isAt_iff] at held
    exact .goal (by rw [Goal.expand, if_pos held]) (.build (.done trivial))
  next starts =>
    rw [State.isAt_iff] at starts
    refine .goal (by rw [Goal.expand, if_neg starts]) ?_
    exact (expression_performs state assignable).after.map fun _ _ _ => trivial

theorem condition_performs :
    Performs .condition state Anything (condition state : Reply Tree state.weight) := by
  intro assignable
  rw [condition]
  refine .goal rfl (follows_take.andThen ?_)
  rintro _ afterOpen _ _ _
  apply (expression_performs afterOpen _).after.andThen
  rintro test afterTest _ _ _
  apply follows_take.after.andThen
  rintro _ afterClose _ _ _
  exact .done trivial

theorem declaration_performs (state : State) :
    Performs .declaration state Anything (declaration state : Reply Tree state.weight) := by
  intro assignable
  rw [declaration]
  refine .goal rfl ((identifier_performs _ _).andThen ?_)
  rintro name afterName _ _ _
  split
  next ends =>
    rw [Bool.or_eq_true, State.isAt_iff, State.isAt_iff] at ends
    exact .goal (by rw [Goal.expand, if_pos ends]) (.build (.build (.done trivial)))
  next goesOn =>
    rw [Bool.or_eq_true, State.isAt_iff, State.isAt_iff] at goesOn
    refine .goal (by rw [Goal.expand, if_neg goesOn]) (follows_take.after.andThen ?_)
    rintro _ afterAssign _ _ _
    apply (expression_performs afterAssign _).after.andThen
    rintro value afterValue _ _ _
    exact .build (.done trivial)

theorem declarations_performs :
    Performs .declarations state Anything (declarations state : Reply Tree state.weight) := by
  intro assignable
  rw [declarations]
  refine .goal rfl (follows_take.andThen ?_)
  rintro _ afterLet _ _ _
  apply (commaSeparated_performs declaration_performs afterLet _).after.andThen
  rintro items afterItems _ _ _
  exact .build (.done trivial)

theorem loopStart_performs :
    Performs .loopStart state Anything
      (loopStart state moved : Reply (Option Tree) bound) := by
  intro assignable
  unfold loopStart
  split
  next held =>
    rw [State.isAt_iff] at held
    refine .goal (by rw [Goal.expand, if_pos held]) ?_
    exact (declarations_performs assignable).after.map fun _ _ _ => trivial
  next starts =>
    rw [State.isAt_iff] at starts
    exact .instead (by rw [Goal.expand, if_neg starts]) expressionUnless_performs

theorem parameters_performs :
    Performs .parameters state Anything
      (parameters state moved : Reply (List Tree) bound) := by
  intro assignable
  unfold parameters
  split
  next held =>
    rw [State.isAt_iff] at held
    exact .goal (by rw [Goal.expand, if_pos held]) (.build (.done trivial))
  next starts =>
    rw [State.isAt_iff] at starts
    refine .goal (by rw [Goal.expand, if_neg starts]) (.after ?_)
    exact commaSeparated_performs (fun next => (identifier_performs next).anything)
      state assignable

theorem returnedValue_performs :
    Performs .returnedValue state Anything
      (returnedValue state moved : Reply (Option Tree) bound) := by
  intro assignable
  unfold returnedValue
  split
  next ended =>
    rw [State.isNone_lookahead] at ended
    exact .goal (by rw [Goal.expand, if_pos ended]) (.build (.done trivial))
  next starts =>
    rw [State.isNone_lookahead] at starts
    exact .instead (by rw [Goal.expand, if_neg starts]) expressionUnless_performs

end Parts

/-! ## Statements -/

section Statements

variable {state : State}

theorem emptyStatement_performs :
    Performs .emptyStatement state Anything
      (emptyStatement state : Reply Tree state.weight) := by
  intro assignable
  rw [emptyStatement, Reply.map_eq_andThen]
  refine .goal rfl (follows_take.andThen ?_)
  rintro _ next _ _ _
  exact .build (.done trivial)

theorem expressionStatement_performs :
    Performs .expressionStatement state Anything
      (expressionStatement state : Reply Tree state.weight) := by
  intro assignable
  rw [expressionStatement]
  refine .goal rfl ((expression_performs state _).andThen ?_)
  rintro value afterValue _ _ _
  apply follows_take.after.andThen
  rintro _ afterEnd _ _ _
  exact .build (.done trivial)

theorem declarationStatement_performs :
    Performs .declarationStatement state Anything
      (declarationStatement state : Reply Tree state.weight) := by
  intro assignable
  rw [declarationStatement]
  refine .goal rfl ((declarations_performs _).andThen ?_)
  rintro node afterDeclarations _ _ _
  apply follows_take.after.andThen
  rintro _ afterEnd _ _ _
  exact .done trivial

theorem returnStatement_performs :
    Performs .returnStatement state Anything
      (returnStatement state : Reply Tree state.weight) := by
  intro assignable
  rw [returnStatement]
  refine .goal rfl (follows_take.andThen ?_)
  rintro _ afterReturn _ _ _
  apply (returnedValue_performs _).andThen
  rintro argument afterArgument _ _ _
  apply follows_take.after.andThen
  rintro _ afterEnd _ _ _
  exact .build (.done trivial)

/-- The production of statements does what the machine does with a statement. -/
def StatementPerforms (state : State) : Prop :=
  Performs .statement state Anything (statement state : Reply Tree state.weight)

/-- The production of blocks does what the machine does with a block. -/
def BlockPerforms (state : State) : Prop :=
  Performs .block state Anything (block state : Reply Tree state.weight)

/-- The production of lists of statements does what the machine does with such a list. -/
def StatementsPerform (stop : Option Kind) (state : State) : Prop :=
  ∀ (bound : Nat) (moved : state.weight < bound),
    Performs (.statements stop) state Anything
      (statements stop state moved : Reply (List Tree) bound)

theorem block_performs (state : State)
    (ofBody : state.Later (StatementsPerform (some .closeCurly))) :
    BlockPerforms state := by
  intro assignable
  rw [block]
  refine .goal rfl (follows_take.andThen ?_)
  rintro _ afterOpen opened _ _
  apply (ofBody afterOpen opened _ _ _).andThen
  rintro body afterBody _ _ _
  apply follows_take.after.andThen
  rintro _ afterClose _ _ _
  exact .build (.done trivial)

theorem conditional_performs (ofStatement : state.Later StatementPerforms) :
    Performs .conditional state Anything (conditional state : Reply Tree state.weight) := by
  intro assignable
  rw [conditional]
  refine .goal rfl (follows_take.andThen ?_)
  rintro _ afterIf _ _ _
  apply (condition_performs _).after.andThen
  rintro test afterTest taken _ _
  apply (ofStatement afterTest taken _).after.andThen
  rintro consequent afterConsequent taken _ _
  split
  next held =>
    rw [State.isAt_iff] at held
    refine .goal (by rw [Goal.expand, if_pos held])
      ((follows_advance (.inl rfl) held).after.andThen ?_)
    rintro _ afterElse taken _ _
    apply (ofStatement afterElse taken _).after.andThen
    rintro alternate afterAlternate _ _ _
    exact .build (.done trivial)
  next ends =>
    rw [State.isAt_iff] at ends
    exact .goal (by rw [Goal.expand, if_neg ends]) (.build (.build (.done trivial)))

theorem whileLoop_performs (ofStatement : state.Later StatementPerforms) :
    Performs .whileLoop state Anything (whileLoop state : Reply Tree state.weight) := by
  intro assignable
  rw [whileLoop]
  refine .goal rfl (follows_take.andThen ?_)
  rintro _ afterWhile _ _ _
  apply (condition_performs _).after.andThen
  rintro test afterTest taken _ _
  apply (ofStatement afterTest taken _).after.andThen
  rintro body afterBody _ _ _
  exact .build (.done trivial)

theorem doWhileLoop_performs (ofStatement : state.Later StatementPerforms) :
    Performs .doWhileLoop state Anything (doWhileLoop state : Reply Tree state.weight) := by
  intro assignable
  rw [doWhileLoop]
  refine .goal rfl (follows_take.andThen ?_)
  rintro _ afterDo taken _ _
  apply (ofStatement afterDo taken _).after.andThen
  rintro body afterBody _ _ _
  apply follows_take.after.andThen
  rintro _ afterWhile _ _ _
  apply (condition_performs _).after.andThen
  rintro test afterTest _ _ _
  apply follows_take.after.andThen
  rintro _ afterEnd _ _ _
  exact .build (.done trivial)

theorem forLoop_performs (ofStatement : state.Later StatementPerforms) :
    Performs .forLoop state Anything (forLoop state : Reply Tree state.weight) := by
  intro assignable
  rw [forLoop]
  refine .goal rfl (follows_take.andThen ?_)
  rintro _ afterFor _ _ _
  apply follows_take.after.andThen
  rintro _ afterOpen _ _ _
  apply (loopStart_performs _).andThen
  rintro init afterInit _ _ _
  apply follows_take.after.andThen
  rintro _ afterFirst _ _ _
  apply (expressionUnless_performs _).andThen
  rintro test afterTest _ _ _
  apply follows_take.after.andThen
  rintro _ afterSecond _ _ _
  apply (expressionUnless_performs _).andThen
  rintro update afterUpdate _ _ _
  apply follows_take.after.andThen
  rintro _ afterClose taken _ _
  apply (ofStatement afterClose taken _).after.andThen
  rintro body afterBody _ _ _
  exact .build (.done trivial)

theorem function_performs (ofBlock : state.Later BlockPerforms) :
    Performs .function state Anything (function state : Reply Tree state.weight) := by
  intro assignable
  rw [function]
  refine .goal rfl (follows_take.andThen ?_)
  rintro _ afterDef _ _ _
  apply (identifier_performs _ _).after.andThen
  rintro name afterName _ _ _
  apply follows_take.after.andThen
  rintro _ afterOpen _ _ _
  apply (parameters_performs _).andThen
  rintro params afterParams _ _ _
  apply follows_take.after.andThen
  rintro _ afterClose taken _ _
  apply (ofBlock afterClose taken _).after.andThen
  rintro body afterBody _ _ _
  exact .build (.done trivial)

theorem statement_performs (state : State) (ofBlock : BlockPerforms state)
    (laterBlock : state.Later BlockPerforms) (laterStatement : state.Later StatementPerforms) :
    StatementPerforms state := by
  intro assignable
  unfold statement
  split
  next held => exact .instead (by rw [held]; rfl) emptyStatement_performs
  next held => exact .instead (by rw [held]; rfl) ofBlock
  next held => exact .instead (by rw [held]; rfl) declarationStatement_performs
  next held => exact .instead (by rw [held]; rfl) (conditional_performs laterStatement)
  next held => exact .instead (by rw [held]; rfl) (whileLoop_performs laterStatement)
  next held => exact .instead (by rw [held]; rfl) (doWhileLoop_performs laterStatement)
  next held => exact .instead (by rw [held]; rfl) (forLoop_performs laterStatement)
  next held => exact .instead (by rw [held]; rfl) returnStatement_performs
  next held => exact .instead (by rw [held]; rfl) (function_performs laterBlock)
  next =>
    have expands : Goal.statement.expand assignable state.kind? =
        .ok [.goal .expressionStatement] := by
      rw [Goal.expand, statementForm] <;> assumption
    exact .instead expands expressionStatement_performs

theorem statements_perform (stop : Option Kind) (state : State)
    (ofFirst : StatementPerforms state) (ofOthers : state.Later (StatementsPerform stop)) :
    StatementsPerform stop state := by
  intro bound moved assignable
  unfold statements
  split
  next ends =>
    rw [Bool.or_eq_true, State.isNone_lookahead, decide_eq_true_iff] at ends
    exact .goal (by rw [Goal.expand, if_pos ends]) (.build (.done trivial))
  next goesOn =>
    rw [Bool.or_eq_true, State.isNone_lookahead, decide_eq_true_iff] at goesOn
    refine .goal (by rw [Goal.expand, if_neg goesOn]) ((ofFirst assignable).andThen ?_)
    rintro first afterFirst taken _ _
    apply (ofOthers afterFirst taken _ _ _).andThen
    rintro others afterOthers _ _ _
    exact .build (.done trivial)

/-- All productions of statements with statements in them do what the machine does. -/
theorem allStatements_perform (state : State) :
    (∀ stop, StatementsPerform stop state) ∧ StatementPerforms state ∧ BlockPerforms state :=
  State.statement_induction block_performs statement_performs statements_perform state

/-- A whole program is read as the machine reads it. -/
theorem program_performs (state : State) :
    Performs .program state Anything (program state : Reply Tree (state.weight + 1)) := by
  intro assignable
  rw [program, Reply.map_eq_andThen]
  refine .goal rfl (((allStatements_perform state).1 none _ _ _).andThen ?_)
  rintro body afterBody _ _ _
  exact .build (.done trivial)

/-- What the machine is set to do where a production is run. -/
def Production.goal : Production → Goal
  | .expression | .assignment => .expression
  | .binary level => .binary level
  | .operand level => Machine.operand level
  | .unary => .unary
  | .member => .member
  | .primary => .primary
  | .grouping => .grouping
  | .identifier => .name
  | .literal => .literal
  | .program => .program
  | .statement => .statement
  | .emptyStatement => .emptyStatement
  | .block => .block
  | .expressionStatement => .expressionStatement
  | .declarationStatement => .declarationStatement
  | .declarations => .declarations
  | .declaration => .declaration
  | .condition => .condition
  | .conditional => .conditional
  | .whileLoop => .whileLoop
  | .doWhileLoop => .doWhileLoop
  | .forLoop => .forLoop
  | .function => .function
  | .returnStatement => .returnStatement

/--
Whichever production is run, the machine does the same with its goal.  What a production
leaves is lighter, unless it reads a program, which may be empty.
-/
theorem produce_performs (production : Production) (state : State) :
    ∃ (leaves : Tree → Bool → Prop) (bound : Nat) (reply : Reply Tree bound),
      produce production state = reply.outcome ∧ Performs production.goal state leaves reply ∧
        (production ≠ .program → bound = state.weight) := by
  rcases expressions_perform state with
    ⟨ofExpression, ofBinary, ofOperand, ofUnary, ofMember, ofPrimary, ofGrouping⟩
  rcases allStatements_perform state with ⟨_, ofStatement, ofBlock⟩
  have later : state.Later StatementPerforms :=
    fun next _ => (allStatements_perform next).2.1
  have laterBlock : state.Later BlockPerforms :=
    fun next _ => (allStatements_perform next).2.2
  cases production with
  | expression => exact ⟨_, _, _, rfl, ofExpression, fun _ => rfl⟩
  | assignment => exact ⟨_, _, _, rfl, ofExpression, fun _ => rfl⟩
  | binary level => exact ⟨_, _, _, rfl, ofBinary level, fun _ => rfl⟩
  | operand level => exact ⟨_, _, _, rfl, ofOperand level, fun _ => rfl⟩
  | unary => exact ⟨_, _, _, rfl, ofUnary, fun _ => rfl⟩
  | member => exact ⟨_, _, _, rfl, ofMember, fun _ => rfl⟩
  | primary => exact ⟨_, _, _, rfl, ofPrimary, fun _ => rfl⟩
  | grouping => exact ⟨_, _, _, rfl, ofGrouping, fun _ => rfl⟩
  | identifier => exact ⟨_, _, _, rfl, identifier_performs state, fun _ => rfl⟩
  | literal => exact ⟨_, _, _, rfl, literal_performs, fun _ => rfl⟩
  | program => exact ⟨_, _, _, rfl, program_performs state, fun proper => absurd rfl proper⟩
  | statement => exact ⟨_, _, _, rfl, ofStatement, fun _ => rfl⟩
  | emptyStatement => exact ⟨_, _, _, rfl, emptyStatement_performs, fun _ => rfl⟩
  | block => exact ⟨_, _, _, rfl, ofBlock, fun _ => rfl⟩
  | expressionStatement => exact ⟨_, _, _, rfl, expressionStatement_performs, fun _ => rfl⟩
  | declarationStatement => exact ⟨_, _, _, rfl, declarationStatement_performs, fun _ => rfl⟩
  | declarations => exact ⟨_, _, _, rfl, declarations_performs, fun _ => rfl⟩
  | declaration => exact ⟨_, _, _, rfl, declaration_performs state, fun _ => rfl⟩
  | condition => exact ⟨_, _, _, rfl, condition_performs, fun _ => rfl⟩
  | conditional => exact ⟨_, _, _, rfl, conditional_performs later, fun _ => rfl⟩
  | whileLoop => exact ⟨_, _, _, rfl, whileLoop_performs later, fun _ => rfl⟩
  | doWhileLoop => exact ⟨_, _, _, rfl, doWhileLoop_performs later, fun _ => rfl⟩
  | forLoop => exact ⟨_, _, _, rfl, forLoop_performs later, fun _ => rfl⟩
  | function => exact ⟨_, _, _, rfl, function_performs laterBlock, fun _ => rfl⟩
  | returnStatement => exact ⟨_, _, _, rfl, returnStatement_performs, fun _ => rfl⟩

end Statements

end Script.Parser
