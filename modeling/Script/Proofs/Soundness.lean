import Script.Grammar
import Script.Proofs.Pending

/-!
# What a parser accepts is derivable

A production that succeeds has taken lexemes that the grammar derives the tree
from.  The parts that go on after an operand or an object are stated for whatever
was derived before them, since the grammar is left-recursive there.

A statement that ends in an open `if` is never followed by `else`: the innermost
`if` has taken it.
-/

namespace Script.Parser

open Grammar

variable {α β : Type} {bound final : Nat}

/-- Where a reply succeeds, the lexemes taken and the value mean something together. -/
def Reads (state : State) (meaning : List Lexeme → α → State → Prop)
    (reply : Reply α bound) : Prop :=
  ∀ value next lighter, reply = .ok value next lighter →
    ∃ taken, state.pending = taken ++ next.pending ∧
      meaning (taken.map Token.lexeme) value next

/-- A category derives the lexemes taken, and the tree is the value. -/
def Spells (category : Category) (read : List Lexeme) (tree : Tree) (_ : State) : Prop :=
  Derives category read [tree]

/-! ## Putting productions together -/

section Composition

variable {state : State} {first : List Lexeme → α → State → Prop}
  {meaning : List Lexeme → β → State → Prop}

theorem Reads.done {value : β} {lighter : state.weight < final}
    (means : meaning [] value state) :
    Reads state meaning (.ok value state lighter) := by
  rintro _ _ _ ⟨⟩
  exact ⟨[], rfl, means⟩

theorem Reads.fail {diagnostic : Diagnostic} {next : State} :
    Reads state meaning (.fail diagnostic next : Reply β final) := by
  rintro _ _ _ ⟨⟩

theorem Reads.after {next : State} {reply : Reply β next.weight} {moved : next.weight < final}
    (reads : Reads state meaning reply) :
    Reads state meaning (reply.after moved) := by
  cases reply with
  | ok value last lighter =>
      rintro _ _ _ ⟨⟩
      exact reads value last lighter rfl
  | fail diagnostic last => exact .fail

theorem Reads.andThen {reply : Reply α bound}
    {continuation : (value : α) → (next : State) → next.weight < bound → Reply β final}
    (front : Reads state first reply)
    (back : ∀ value next lighter read, first read value next →
      Reads next (fun rest => meaning (read ++ rest)) (continuation value next lighter)) :
    Reads state meaning (reply.andThen continuation) := by
  cases reply with
  | fail diagnostic next => exact .fail
  | ok value next lighter =>
      rcases front value next lighter rfl with ⟨taken, splits, means⟩
      intro result last lighterLast continues
      rcases back value next lighter _ means result last lighterLast continues with
        ⟨others, splitsNext, meansAll⟩
      refine ⟨taken ++ others, ?_, ?_⟩
      · rw [splits, splitsNext, List.append_assoc]
      · rw [List.map_append]
        exact meansAll

theorem Reads.map {reply : Reply α bound} {change : α → β}
    (reads : Reads state first reply)
    (changes : ∀ read value next, first read value next → meaning read (change value) next) :
    Reads state meaning (reply.map change) := by
  cases reply with
  | fail diagnostic next => exact .fail
  | ok value next lighter =>
      rintro _ _ _ ⟨⟩
      rcases reads value next lighter rfl with ⟨taken, splits, means⟩
      exact ⟨taken, splits, changes _ value next means⟩

theorem Reads.weaken {stronger : List Lexeme → β → State → Prop} {reply : Reply β final}
    (reads : Reads state stronger reply)
    (implies : ∀ read value next, stronger read value next → meaning read value next) :
    Reads state meaning reply := by
  intro value next lighter equation
  rcases reads value next lighter equation with ⟨taken, splits, means⟩
  exact ⟨taken, splits, implies _ value next means⟩

end Composition

/-! ## Tokens -/

/-- One token is taken, and the value is that token. -/
def IsToken (kind : Kind) (read : List Lexeme) (token : Token) (_ : State) : Prop :=
  read = [⟨kind, token.text⟩] ∧ token.kind = kind

theorem reads_advance {state : State} {kind : Kind} (held : state.kind? = some kind) :
    Reads state (IsToken kind) state.advance := by
  intro token next lighter equation
  have takes : state.Takes token next := ⟨lighter, equation⟩
  have isKind : token.kind = kind := by
    rw [State.kind?, takes.cases.1] at held
    exact Option.some.inj held
  exact ⟨[token], takes.pending_eq, by rw [← isKind]; rfl, isKind⟩

theorem reads_expect {state : State} {kind : Kind} :
    Reads state (IsToken kind) (state.expect kind) := by
  unfold State.expect
  split
  next => exact .fail
  next token held =>
    split
    next same => exact reads_advance (by rw [State.kind?, held, ← same]; rfl)
    next => exact .fail

theorem reads_unexpected {state : State} {meaning : List Lexeme → α → State → Prop}
    {expected : String} :
    Reads state meaning (state.unexpected expected : Reply α bound) := by
  unfold State.unexpected
  split <;> exact .fail

/-! ## Expressions -/

section Expressions

/-- A name is taken, and the value is its tree. -/
def IsName (read : List Lexeme) (tree : Tree) (_ : State) : Prop :=
  ∃ text, read = [⟨.identifier, text⟩] ∧ tree = .identifier text

theorem identifier_reads (state : State) :
    Reads state IsName (identifier state : Reply Tree state.weight) := by
  rw [identifier]
  apply reads_expect.map
  rintro read token _ ⟨rfl, _⟩
  exact ⟨token.text, rfl, rfl⟩

theorem literal_reads (state : State) :
    Reads state (Spells .primary) (literal state : Reply Tree state.weight) := by
  unfold literal
  split
  next held =>
    apply (reads_advance held).andThen
    rintro token next _ read ⟨rfl, _⟩
    split
    next value reads => exact .done (.literal (.number reads))
    next => exact .fail
  next held =>
    apply (reads_advance held).map
    rintro _ token _ ⟨rfl, _⟩
    exact .literal (.string token.text)
  next held =>
    apply (reads_advance held).map
    rintro _ token _ ⟨rfl, _⟩
    exact .literal (.isTrue token.text)
  next held =>
    apply (reads_advance held).map
    rintro _ token _ ⟨rfl, _⟩
    exact .literal (.isFalse token.text)
  next held =>
    apply (reads_advance held).map
    rintro _ token _ ⟨rfl, _⟩
    exact .literal (.null token.text)
  next => exact reads_unexpected

/-- The production of expressions takes what an expression derives. -/
def ExpressionReads (state : State) : Prop :=
  Reads state (Spells .expression) (assignment state : Reply Tree state.weight)

theorem grouping_reads (state : State) (ofInner : state.Later ExpressionReads) :
    Reads state (Spells .primary) (grouping state : Reply Tree state.weight) := by
  rw [grouping]
  apply reads_expect.andThen
  rintro opening afterOpen opened _ ⟨rfl, _⟩
  apply (ofInner afterOpen opened).after.andThen
  rintro inner afterInner _ read inside
  apply reads_expect.after.andThen
  rintro closing afterClose _ _ ⟨rfl, _⟩
  exact .done (Derives.grouping rfl inside rfl)

theorem primary_reads (state : State)
    (ofGrouping : Reads state (Spells .primary) (grouping state : Reply Tree state.weight)) :
    Reads state (Spells .primary) (primary state : Reply Tree state.weight) := by
  unfold primary
  split
  next => exact ofGrouping
  next =>
    apply (identifier_reads state).weaken
    rintro _ _ _ ⟨text, rfl, rfl⟩
    exact .name text
  next =>
    split
    next => exact literal_reads state
    next => exact reads_unexpected
  next => exact reads_unexpected

/-- The accesses that follow an object take what makes a longer member of it. -/
def MemberRestReads (state : State) : Prop :=
  ∀ (object : Tree) (before : List Lexeme) (bound : Nat) (moved : state.weight < bound),
    Derives .member before [object] →
      Reads state (fun read => Spells .member (before ++ read)) (memberRest object state moved)

theorem memberRest_reads (state : State) (ofIndex : state.Later ExpressionReads)
    (ofRest : state.Later MemberRestReads) :
    MemberRestReads state := by
  intro object before bound moved ofObject
  unfold memberRest
  split
  next held =>
    apply (reads_advance held).andThen
    rintro dot afterDot _ _ ⟨rfl, _⟩
    apply (identifier_reads afterDot).after.andThen
    rintro _ afterProperty taken _ ⟨text, rfl, rfl⟩
    have longer : Derives .member (before ++ [⟨.dot, dot.text⟩, ⟨.identifier, text⟩])
        [.member false object (.identifier text)] := .memberName ofObject rfl
    apply (ofRest afterProperty taken _ _ bound _ longer).weaken
    simp
  next held =>
    apply (reads_advance held).andThen
    rintro opening afterOpen opened _ ⟨rfl, _⟩
    apply (ofIndex afterOpen opened).after.andThen
    rintro property afterProperty _ read inside
    apply reads_expect.after.andThen
    rintro closing afterClose taken _ ⟨rfl, _⟩
    have longer : Derives .member
        (before ++ ⟨.openBracket, opening.text⟩ :: read ++ [⟨.closeBracket, closing.text⟩])
        [.member true object property] := .memberIndex ofObject rfl inside rfl
    apply (ofRest afterClose taken _ _ bound _ longer).weaken
    simp
  next =>
    refine .done ?_
    rw [List.append_nil]
    exact ofObject

theorem member_reads (state : State)
    (ofObject : Reads state (Spells .primary) (primary state : Reply Tree state.weight))
    (ofRest : state.Later MemberRestReads) :
    Reads state (Spells .member) (member state : Reply Tree state.weight) := by
  rw [member]
  apply ofObject.andThen
  rintro object afterObject taken read ofPrimary
  exact ofRest afterObject taken object read _ taken (.memberPrimary ofPrimary)

theorem unary_reads (state : State)
    (ofMember : Reads state (Spells .member) (member state : Reply Tree state.weight))
    (ofArgument : state.Later fun next =>
      Reads next (Spells .unary) (unary next : Reply Tree next.weight)) :
    Reads state (Spells .unary) (unary state : Reply Tree state.weight) := by
  unfold unary
  split
  next operates =>
    rcases (Option.any_eq_true ..).1 operates with ⟨kind, held, isUnary⟩
    apply (reads_advance held).andThen
    rintro operator afterOperator taken _ ⟨rfl, _⟩
    apply (ofArgument afterOperator taken).after.andThen
    rintro argument afterArgument _ read inside
    refine .done ?_
    rw [List.append_nil]
    exact .unaryOperator isUnary inside
  next => exact ofMember.weaken fun _ _ _ => .unaryMember

/-- What stands between the operators of a level takes what it derives. -/
def OperandReads (level : Level) (state : State) : Prop :=
  Reads state (Spells (Grammar.operand level)) (operand level state : Reply Tree state.weight)

/-- A level of binary operators takes what it derives. -/
def BinaryReads (level : Level) (state : State) : Prop :=
  Reads state (Spells (.binary level)) (binary level state : Reply Tree state.weight)

/-- The operators that follow an operand take what makes a longer expression of it. -/
def BinaryRestReads (level : Level) (state : State) : Prop :=
  ∀ (left : Tree) (before : List Lexeme) (bound : Nat) (moved : state.weight < bound),
    Derives (.binary level) before [left] →
      Reads state (fun read => Spells (.binary level) (before ++ read))
        (binaryRest level left state moved)

theorem binaryRest_reads (level : Level) (state : State)
    (ofOperand : state.Later (OperandReads level))
    (ofRest : state.Later (BinaryRestReads level)) :
    BinaryRestReads level state := by
  intro left before bound moved ofLeft
  unfold binaryRest
  split
  next operates =>
    rcases Option.bind_eq_some_iff.1 operates with ⟨kind, held, ofLevel⟩
    rw [Level.ofKind?_eq_some.1 ofLevel] at held
    apply (reads_advance held).andThen
    rintro operator afterOperator taken _ ⟨rfl, _⟩
    apply (ofOperand afterOperator taken).after.andThen
    rintro right afterRight taken read ofRight
    have longer : Derives (.binary level) (before ++ ⟨level.operator, operator.text⟩ :: read)
        [binaryTree level operator.text left right] := .binaryOperator ofLeft rfl ofRight
    apply (ofRest afterRight taken _ _ bound _ longer).weaken
    simp
  next =>
    refine .done ?_
    rw [List.append_nil]
    exact ofLeft

theorem binary_reads (level : Level) (state : State) (ofOperand : OperandReads level state)
    (ofRest : state.Later (BinaryRestReads level)) :
    BinaryReads level state := by
  rw [BinaryReads, binary]
  apply Reads.andThen ofOperand
  rintro left afterLeft taken read ofLeft
  exact ofRest afterLeft taken left read _ taken (.binaryOperand ofLeft)

theorem assignment_reads (state : State) (ofLeft : BinaryReads .logicalOr state)
    (ofRight : state.Later ExpressionReads) :
    ExpressionReads state := by
  rw [ExpressionReads, assignment]
  apply Reads.andThen ofLeft
  rintro left afterLeft taken read inside
  have alone : Spells .expression (read ++ []) left afterLeft := by
    rw [List.append_nil]
    exact .expressionOperand inside
  split
  next => exact .done alone
  next token held =>
    split
    next assigns =>
      split
      next allowed =>
        have looks : afterLeft.kind? = some token.kind := by rw [State.kind?, held]; rfl
        apply (reads_advance looks).after.andThen
        rintro operator afterOperator taken _ ⟨rfl, _⟩
        apply (ofRight afterOperator taken).after.andThen
        rintro right afterRight _ rest ofValue
        refine .done ?_
        rw [List.append_nil]
        exact .assignment inside allowed assigns ofValue
      next => exact .fail
    next => exact .done alone

theorem expression_reads (state : State) : ExpressionReads state := by
  refine (State.expression_induction grouping_reads primary_reads memberRest_reads
    member_reads unary_reads ?_ ?_ binaryRest_reads binary_reads assignment_reads state).1
  · intro level state next ofUnary
    rw [OperandReads, operand_of_tightest next, Grammar.operand, next]
    exact ofUnary
  · intro level tighter state next ofBinary
    rw [OperandReads, operand_of_tighter next, Grammar.operand, next]
    exact ofBinary

end Expressions

/-! ## Parts of statements -/

section Parts

variable {item : (state : State) → Reply α state.weight}
  {One : List Lexeme → α → Prop} {All : List Lexeme → List α → Prop}

/-- Items with commas between them are what one item and more items make. -/
structure Separates (One : List Lexeme → α → Prop) (All : List Lexeme → List α → Prop) :
    Prop where
  one : ∀ {read value}, One read value → All read [value]
  more : ∀ {read value comma rest others}, One read value → comma.kind = Kind.comma →
    All rest others → All (read ++ comma :: rest) (value :: others)

theorem afterCommas_reads (separates : Separates One All)
    (ofItem : ∀ state, Reads state (fun read value _ => One read value) (item state))
    (state : State) :
    ∀ (before : List Lexeme) (value : α) (bound : Nat) (moved : state.weight < bound),
      One before value →
        Reads state (fun read others _ => All (before ++ read) (value :: others))
          (afterCommas item state moved) := by
  induction state using State.descend with
  | step state later =>
      intro before value bound moved ofFirst
      unfold afterCommas
      split
      next held =>
        rw [State.isAt_iff] at held
        apply (reads_advance held).andThen
        rintro comma afterComma _ _ ⟨rfl, _⟩
        apply (ofItem afterComma).after.andThen
        rintro next afterNext taken read ofNext
        apply (later afterNext taken read next bound _ ofNext).andThen
        rintro others afterOthers _ rest ofOthers
        refine .done ?_
        rw [List.append_nil]
        exact separates.more ofFirst rfl ofOthers
      next =>
        refine .done ?_
        rw [List.append_nil]
        exact separates.one ofFirst

theorem commaSeparated_reads (separates : Separates One All)
    (ofItem : ∀ state, Reads state (fun read value _ => One read value) (item state))
    (state : State) :
    Reads state (fun read values _ => All read values) (commaSeparated item state) := by
  rw [commaSeparated]
  apply (ofItem state).andThen
  rintro first afterFirst taken read ofFirst
  apply (afterCommas_reads separates ofItem afterFirst read first _ taken ofFirst).andThen
  rintro others afterOthers _ rest ofAll
  refine .done ?_
  rw [List.append_nil]
  exact ofAll

/-- A category derives the lexemes taken, and its trees are those of the value. -/
def SpellsOption (category : Category) (read : List Lexeme) (value : Option Tree)
    (_ : State) : Prop :=
  Derives category read value.toList

variable {state : State} {moved : state.weight < bound}

theorem expressionUnless_reads {stop : Kind} :
    Reads state (SpellsOption .optionalExpression)
      (expressionUnless stop state moved : Reply (Option Tree) bound) := by
  unfold expressionUnless
  split
  next => exact .done .noExpression
  next => exact (expression_reads state).after.map fun _ _ _ => .someExpression

/-- The lexemes of a condition stand in parentheses. -/
def IsCondition (read : List Lexeme) (tree : Tree) (_ : State) : Prop :=
  ∃ opening inner closing, opening.kind = Kind.openParen ∧ Derives .expression inner [tree] ∧
    closing.kind = Kind.closeParen ∧ read = opening :: inner ++ [closing]

theorem condition_reads :
    Reads state IsCondition (condition state : Reply Tree state.weight) := by
  rw [condition]
  apply reads_expect.andThen
  rintro opening afterOpen _ _ ⟨rfl, _⟩
  apply (expression_reads afterOpen).after.andThen
  rintro test afterTest _ inner inside
  apply reads_expect.after.andThen
  rintro closing afterClose _ _ ⟨rfl, _⟩
  exact .done ⟨_, inner, _, rfl, inside, rfl, rfl⟩

theorem declaration_reads (state : State) :
    Reads state (Spells .declaration) (declaration state : Reply Tree state.weight) := by
  rw [declaration]
  apply (identifier_reads state).andThen
  rintro _ afterName _ _ ⟨text, rfl, rfl⟩
  split
  next => exact .done (.bareDeclaration text)
  next =>
    apply reads_expect.after.andThen
    rintro assign afterAssign _ _ ⟨rfl, _⟩
    apply (expression_reads afterAssign).after.andThen
    rintro value afterValue _ read inside
    refine .done ?_
    rw [List.append_nil]
    exact .fullDeclaration rfl inside

/-- Declarations take `let` and what their items derive. -/
def IsDeclarations (read : List Lexeme) (tree : Tree) (_ : State) : Prop :=
  ∃ letWord items trees, letWord.kind = Kind.letWord ∧ Derives .declarations items trees ∧
    read = letWord :: items ∧ tree = .declarations trees

theorem declarations_read :
    Reads state IsDeclarations (declarations state : Reply Tree state.weight) := by
  rw [declarations]
  apply reads_expect.andThen
  rintro letWord afterLet _ _ ⟨rfl, _⟩
  have separates : Separates (fun read tree => Derives .declaration read [tree])
      (Derives .declarations) := ⟨.oneDeclaration, .moreDeclarations⟩
  apply (commaSeparated_reads separates declaration_reads afterLet).after.andThen
  rintro items afterItems _ read inside
  refine .done ⟨⟨.letWord, letWord.text⟩, read, items, rfl, inside, ?_, rfl⟩
  simp

theorem loopStart_reads :
    Reads state (SpellsOption .loopStart)
      (loopStart state moved : Reply (Option Tree) bound) := by
  unfold loopStart
  split
  next =>
    apply declarations_read.after.map
    rintro _ _ _ ⟨letWord, items, trees, declares, inside, rfl, rfl⟩
    exact .startDeclarations declares inside
  next => exact expressionUnless_reads.weaken fun _ _ _ => .startExpression

theorem parameters_read :
    Reads state (fun read trees _ => Derives .parameters read trees)
      (parameters state moved : Reply (List Tree) bound) := by
  unfold parameters
  split
  next => exact .done .noParameters
  next =>
    have separates : Separates (fun read tree => IsName read tree state) (Derives .names) := by
      constructor
      · rintro _ _ ⟨text, rfl, rfl⟩
        exact .oneName text
      · rintro _ _ comma rest others ⟨text, rfl, rfl⟩ isComma ofOthers
        exact .moreNames isComma ofOthers
    apply (commaSeparated_reads separates identifier_reads state).after.weaken
    exact fun _ _ _ => .someParameters

theorem returnedValue_reads :
    Reads state (SpellsOption .optionalExpression)
      (returnedValue state moved : Reply (Option Tree) bound) := by
  unfold returnedValue
  split
  next => exact .done .noExpression
  next => exact expressionUnless_reads

end Parts

/-! ## Statements -/

section Statements

variable {state : State}

/-- A statement is taken, and no `else` follows that would belong to it. -/
def IsStatement (read : List Lexeme) (tree : Tree) (next : State) : Prop :=
  Derives .statement read [tree] ∧
    (tree.endsOpen = true → next.kind? ≠ some .elseWord)

theorem isStatement_of_eq {read lexemes : List Lexeme} {tree : Tree} {next : State}
    (same : read = lexemes) (derives : Derives .statement lexemes [tree])
    (follows : tree.endsOpen = true → next.kind? ≠ some .elseWord) :
    IsStatement read tree next :=
  ⟨same ▸ derives, follows⟩

theorem isStatement_of_closed {read lexemes : List Lexeme} {tree : Tree} {next : State}
    (same : read = lexemes) (derives : Derives .statement lexemes [tree])
    (closed : tree.endsOpen = false) :
    IsStatement read tree next :=
  isStatement_of_eq same derives (by simp [closed])

/-- A statement that ends in another one ends as openly as that one. -/
theorem isStatement_of_last {read lexemes : List Lexeme} {tree last : Tree} {next : State}
    (same : read = lexemes) (derives : Derives .statement lexemes [tree])
    (ends : tree.endsOpen = last.endsOpen)
    (follows : last.endsOpen = true → next.kind? ≠ some .elseWord) :
    IsStatement read tree next :=
  isStatement_of_eq same derives (ends ▸ follows)

theorem emptyStatement_reads :
    Reads state IsStatement (emptyStatement state : Reply Tree state.weight) := by
  rw [emptyStatement]
  apply reads_expect.map
  rintro _ token next ⟨rfl, _⟩
  exact isStatement_of_closed rfl (.emptyStatement rfl) rfl

theorem expressionStatement_reads :
    Reads state IsStatement (expressionStatement state : Reply Tree state.weight) := by
  rw [expressionStatement]
  apply Reads.andThen (expression_reads state)
  rintro value afterValue _ read inside
  apply reads_expect.after.andThen
  rintro semicolon afterEnd _ _ ⟨rfl, _⟩
  exact .done (isStatement_of_closed rfl (.expressionStatement inside rfl) rfl)

theorem declarationStatement_reads :
    Reads state IsStatement (declarationStatement state : Reply Tree state.weight) := by
  rw [declarationStatement]
  apply declarations_read.andThen
  rintro _ afterDeclarations _ _ ⟨letWord, items, trees, declares, inside, rfl, rfl⟩
  apply reads_expect.after.andThen
  rintro semicolon afterEnd _ _ ⟨rfl, _⟩
  exact .done (isStatement_of_closed rfl (.declarationStatement declares inside rfl) rfl)

theorem returnStatement_reads :
    Reads state IsStatement (returnStatement state : Reply Tree state.weight) := by
  rw [returnStatement]
  apply reads_expect.andThen
  rintro returnWord afterReturn _ _ ⟨rfl, _⟩
  apply returnedValue_reads.andThen
  rintro argument afterArgument _ read inside
  apply reads_expect.after.andThen
  rintro semicolon afterEnd _ _ ⟨rfl, _⟩
  have derives : Derives .statement
      (⟨.returnWord, returnWord.text⟩ :: read ++ [⟨.semicolon, semicolon.text⟩])
      [.returning argument.toList.head?] := .returning rfl inside rfl
  rw [Option.head?_toList] at derives
  exact .done (isStatement_of_closed rfl derives rfl)

/-- The production of statements takes what a statement derives. -/
def StatementReads (state : State) : Prop :=
  Reads state IsStatement (statement state : Reply Tree state.weight)

/-- The production of blocks takes what a block derives. -/
def BlockReads (state : State) : Prop :=
  Reads state (fun read tree _ => Derives .block read [tree] ∧ tree.endsOpen = false)
    (block state : Reply Tree state.weight)

/-- A list of statements is taken, and it ends at a token of the stopping kind or at none. -/
def AreStatements (stop : Option Kind) (read : List Lexeme) (trees : List Tree)
    (next : State) : Prop :=
  Derives .statements read trees ∧ (next.kind? = none ∨ next.kind? = stop)

/-- The production of lists of statements takes what such a list derives. -/
def StatementsRead (stop : Option Kind) (state : State) : Prop :=
  ∀ (bound : Nat) (moved : state.weight < bound),
    Reads state (AreStatements stop) (statements stop state moved : Reply (List Tree) bound)

theorem block_reads (state : State)
    (ofBody : state.Later (StatementsRead (some .closeCurly))) :
    BlockReads state := by
  rw [BlockReads, block]
  apply reads_expect.andThen
  rintro opening afterOpen opened _ ⟨rfl, _⟩
  apply (ofBody afterOpen opened _ _).andThen
  rintro body afterBody _ read ⟨inside, _⟩
  apply reads_expect.after.andThen
  rintro closing afterClose _ _ ⟨rfl, _⟩
  exact .done ⟨.block rfl inside rfl, rfl⟩

theorem conditional_reads (ofStatement : state.Later StatementReads) :
    Reads state IsStatement (conditional state : Reply Tree state.weight) := by
  rw [conditional]
  apply reads_expect.andThen
  rintro ifWord afterIf _ _ ⟨rfl, _⟩
  apply condition_reads.after.andThen
  rintro test afterTest taken _ ⟨opening, inner, closing, opens, inside, closes, rfl⟩
  apply (ofStatement afterTest taken).after.andThen
  rintro consequent afterConsequent taken read ⟨ofConsequent, dangling⟩
  split
  next held =>
    rw [State.isAt_iff] at held
    have closed : consequent.endsOpen = false := by
      by_contra opened
      exact dangling (by simpa using opened) held
    apply (reads_advance held).after.andThen
    rintro elseWord afterElse taken _ ⟨rfl, _⟩
    apply (ofStatement afterElse taken).after.andThen
    rintro alternate afterAlternate _ rest ⟨ofAlternate, openAlternate⟩
    have derives : Derives .statement
        (⟨.ifWord, ifWord.text⟩ :: opening :: inner ++ closing :: read
          ++ ⟨.elseWord, elseWord.text⟩ :: rest)
        [.conditional test consequent (some alternate)] :=
      .conditionalElse rfl opens inside closes ofConsequent closed rfl ofAlternate
    have ends : (Tree.conditional test consequent (some alternate)).endsOpen =
        alternate.endsOpen := by
      rw [Tree.endsOpen, Tree.endsOpenOr]
    exact .done (isStatement_of_last (by simp) derives ends openAlternate)
  next ends =>
    rw [State.isAt_iff] at ends
    have derives : Derives .statement
        (⟨.ifWord, ifWord.text⟩ :: opening :: inner ++ closing :: read)
        [.conditional test consequent none] :=
      .conditional rfl opens inside closes ofConsequent
    exact .done (isStatement_of_eq (by simp) derives fun _ => ends)

theorem whileLoop_reads (ofStatement : state.Later StatementReads) :
    Reads state IsStatement (whileLoop state : Reply Tree state.weight) := by
  rw [whileLoop]
  apply reads_expect.andThen
  rintro whileWord afterWhile _ _ ⟨rfl, _⟩
  apply condition_reads.after.andThen
  rintro test afterTest taken _ ⟨opening, inner, closing, opens, inside, closes, rfl⟩
  apply (ofStatement afterTest taken).after.andThen
  rintro body afterBody _ read ⟨ofBody, openBody⟩
  have derives : Derives .statement
      (⟨.whileWord, whileWord.text⟩ :: opening :: inner ++ closing :: read)
      [.whileLoop test body] :=
    .whileLoop rfl opens inside closes ofBody
  have ends : (Tree.whileLoop test body).endsOpen = body.endsOpen := by rw [Tree.endsOpen]
  exact .done (isStatement_of_last (by simp) derives ends openBody)

theorem doWhileLoop_reads (ofStatement : state.Later StatementReads) :
    Reads state IsStatement (doWhileLoop state : Reply Tree state.weight) := by
  rw [doWhileLoop]
  apply reads_expect.andThen
  rintro doWord afterDo taken _ ⟨rfl, _⟩
  apply (ofStatement afterDo taken).after.andThen
  rintro body afterBody _ read ⟨ofBody, _⟩
  apply reads_expect.after.andThen
  rintro whileWord afterWhile _ _ ⟨rfl, _⟩
  apply condition_reads.after.andThen
  rintro test afterTest _ _ ⟨opening, inner, closing, opens, inside, closes, rfl⟩
  apply reads_expect.after.andThen
  rintro semicolon afterEnd _ _ ⟨rfl, _⟩
  have derives : Derives .statement
      (⟨.doWord, doWord.text⟩ :: read ++ ⟨.whileWord, whileWord.text⟩ :: opening :: inner
        ++ [closing, ⟨.semicolon, semicolon.text⟩])
      [.doWhileLoop body test] :=
    .doWhileLoop rfl ofBody rfl opens inside closes rfl
  exact .done (isStatement_of_closed (by simp) derives rfl)

theorem forLoop_reads (ofStatement : state.Later StatementReads) :
    Reads state IsStatement (forLoop state : Reply Tree state.weight) := by
  rw [forLoop]
  apply reads_expect.andThen
  rintro forWord afterFor _ _ ⟨rfl, _⟩
  apply reads_expect.after.andThen
  rintro opening afterOpen _ _ ⟨rfl, _⟩
  apply loopStart_reads.andThen
  rintro init afterInit _ initRead ofInit
  apply reads_expect.after.andThen
  rintro firstEnd afterFirst _ _ ⟨rfl, _⟩
  apply expressionUnless_reads.andThen
  rintro test afterTest _ testRead ofTest
  apply reads_expect.after.andThen
  rintro secondEnd afterSecond _ _ ⟨rfl, _⟩
  apply expressionUnless_reads.andThen
  rintro update afterUpdate _ updateRead ofUpdate
  apply reads_expect.after.andThen
  rintro closing afterClose taken _ ⟨rfl, _⟩
  apply (ofStatement afterClose taken).after.andThen
  rintro body afterBody _ read ⟨ofBody, openBody⟩
  have derives : Derives .statement
      (⟨.forWord, forWord.text⟩ :: ⟨.openParen, opening.text⟩ :: initRead
        ++ ⟨.semicolon, firstEnd.text⟩ :: testRead
        ++ ⟨.semicolon, secondEnd.text⟩ :: updateRead
        ++ ⟨.closeParen, closing.text⟩ :: read)
      [.forLoop init.toList.head? test.toList.head? update.toList.head? body] :=
    .forLoop rfl rfl ofInit rfl ofTest rfl ofUpdate rfl ofBody
  simp only [Option.head?_toList] at derives
  have ends : (Tree.forLoop init test update body).endsOpen = body.endsOpen := by
    rw [Tree.endsOpen]
  exact .done (isStatement_of_last (by simp) derives ends openBody)

theorem function_reads (ofBlock : state.Later BlockReads) :
    Reads state IsStatement (function state : Reply Tree state.weight) := by
  rw [function]
  apply reads_expect.andThen
  rintro defWord afterDef _ _ ⟨rfl, _⟩
  apply (identifier_reads afterDef).after.andThen
  rintro _ afterName _ _ ⟨text, rfl, rfl⟩
  apply reads_expect.after.andThen
  rintro opening afterOpen _ _ ⟨rfl, _⟩
  apply parameters_read.andThen
  rintro params afterParams _ paramRead ofParams
  apply reads_expect.after.andThen
  rintro closing afterClose taken _ ⟨rfl, _⟩
  apply (ofBlock afterClose taken).after.andThen
  rintro body afterBody _ read ⟨ofBody, _⟩
  have derives : Derives .statement
      (⟨.defWord, defWord.text⟩ :: ⟨.identifier, text⟩ :: ⟨.openParen, opening.text⟩
        :: paramRead ++ ⟨.closeParen, closing.text⟩ :: read)
      [.function (.identifier text) params body] :=
    .function rfl rfl ofParams rfl ofBody
  exact .done (isStatement_of_closed (by simp) derives rfl)

theorem statement_reads (state : State) (ofBlock : BlockReads state)
    (laterBlock : state.Later BlockReads) (laterStatement : state.Later StatementReads) :
    StatementReads state := by
  unfold StatementReads statement
  split
  next => exact emptyStatement_reads
  next =>
    apply Reads.weaken ofBlock
    rintro _ _ _ ⟨derives, closed⟩
    exact isStatement_of_closed rfl (.blockStatement derives) closed
  next => exact declarationStatement_reads
  next => exact conditional_reads laterStatement
  next => exact whileLoop_reads laterStatement
  next => exact doWhileLoop_reads laterStatement
  next => exact forLoop_reads laterStatement
  next => exact returnStatement_reads
  next => exact function_reads laterBlock
  next => exact expressionStatement_reads

theorem statements_read (stop : Option Kind) (state : State) (ofFirst : StatementReads state)
    (ofOthers : state.Later (StatementsRead stop)) :
    StatementsRead stop state := by
  intro bound moved
  unfold statements
  split
  next ends =>
    rw [Bool.or_eq_true, State.isNone_lookahead, decide_eq_true_iff] at ends
    exact .done ⟨.noStatements, ends⟩
  next =>
    apply Reads.andThen ofFirst
    rintro first afterFirst taken read ⟨ofStatement, _⟩
    apply (ofOthers afterFirst taken _ _).andThen
    rintro others afterOthers _ rest ⟨inside, ends⟩
    refine .done ⟨?_, ends⟩
    rw [List.append_nil]
    exact .moreStatements ofStatement inside

/-- A program that is accepted takes every lexeme, and is derived from them. -/
theorem derives_of_program {tree : Tree} {next : State}
    {lighter : next.weight < state.weight + 1}
    (accepts : program state = .ok tree next lighter) :
    next.lookahead = none ∧ Derives .program (state.pending.map Token.lexeme) [tree] := by
  have reads : Reads state
      (fun read tree next => Derives .program read [tree] ∧ next.kind? = none)
      (program state : Reply Tree (state.weight + 1)) := by
    rw [program]
    refine ((State.statement_induction block_reads statement_reads statements_read state).1
      none _ _).map ?_
    rintro read trees next ⟨derives, ends⟩
    exact ⟨.program derives, or_self_iff.1 ends⟩
  rcases reads tree next lighter accepts with ⟨taken, splits, derives, ends⟩
  have ended : next.lookahead = none := by simpa [State.kind?] using ends
  rw [State.pending_eq_nil.2 ended, List.append_nil] at splits
  exact ⟨ended, splits ▸ derives⟩

end Statements

end Script.Parser
