import Script.Output
import Script.Proofs.Lexing
import Script.Proofs.Numerals
import Script.Proofs.Pending
import Script.Proofs.Spans

/-!
# Layout is invisible

What stands between the tokens of a source does not matter.  Written with one
space between them, the tokens are read back with their kinds and texts, and the
parser gives the same answer in each mode: the same output, or the same cause at
the same token, or at the end of both sources.

The parser sees a token's place only when it reports one.  So two parsers that
have taken equally many tokens, from two sources with the same lexemes, go on
alike: one lemma a production says so, and each of them is put together from those
of the productions it calls.
-/

namespace Script.Parser

/-! ## Two sources with the same lexemes -/

/-- A state that has taken some of the tokens of a text which the lexer reads to its end. -/
structure Onward (text : List Char) (tokens : List Token) (count : Nat) (state : State) :
    Prop where
  pending_eq : state.pending = tokens.drop count
  unblocked : state.blocked = none
  source_eq : state.lexer.source = text
  genuine : state.Genuine
  settled : state.Settled

/-- Two texts and their tokens, which differ in nothing but their places. -/
structure Twins where
  text : List Char
  otherText : List Char
  tokens : List Token
  otherTokens : List Token
  sameLexemes : tokens.map Token.lexeme = otherTokens.map Token.lexeme

/-- Two states that have taken equally many tokens, one of each text. -/
def Twins.Abreast (twins : Twins) (state other : State) : Prop :=
  ∃ count, Onward twins.text twins.tokens count state ∧
    Onward twins.otherText twins.otherTokens count other

section Tokens

variable {twins : Twins} {text : List Char} {tokens : List Token} {count : Nat}
  {state other : State} {token : Token}

theorem Onward.lookahead_eq (onward : Onward text tokens count state) :
    state.lookahead = tokens[count]? := by
  rw [← State.head?_pending, onward.pending_eq, List.head?_drop]

/-- Nothing stops the lexer, so the token looked at is taken. -/
theorem Onward.take (onward : Onward text tokens count state)
    (looked : state.lookahead = some token) :
    ∃ next lighter, state.advance = .ok token next lighter ∧
      Onward text tokens (count + 1) next := by
  rcases State.takes_or_starves looked with ⟨next, takes⟩ | ⟨diagnostic, next, starves⟩
  · rcases id takes with ⟨lighter, equation⟩
    refine ⟨next, lighter, equation, ?_, ?_, ?_, takes.genuine, takes.settled⟩
    · rw [← List.tail_drop, ← onward.pending_eq, takes.pending_eq, List.tail_cons]
    · rw [takes.blocked_eq, onward.unblocked]
    · rw [takes.source_eq, onward.source_eq]
  · have blocks := starves.blocks
    rw [onward.unblocked] at blocks
    cases blocks

namespace Twins.Abreast

theorem lexeme_eq (abreast : twins.Abreast state other) :
    other.lookahead.map Token.lexeme = state.lookahead.map Token.lexeme := by
  rcases abreast with ⟨count, first, second⟩
  rw [first.lookahead_eq, second.lookahead_eq, ← List.getElem?_map, ← List.getElem?_map,
    twins.sameLexemes]

theorem kind?_eq (abreast : twins.Abreast state other) : other.kind? = state.kind? := by
  have kinds := congrArg (Option.map Lexeme.kind) abreast.lexeme_eq
  simpa [State.kind?, Function.comp_def, Token.lexeme] using kinds

theorem isAt_eq (abreast : twins.Abreast state other) (kind : Kind) :
    other.isAt kind = state.isAt kind := by
  rw [State.isAt, State.isAt, abreast.kind?_eq]

theorem isNone_eq (abreast : twins.Abreast state other) :
    other.lookahead.isNone = state.lookahead.isNone := by
  have isNone := congrArg Option.isNone abreast.lexeme_eq
  simpa using isNone

/-- Both states look at tokens of one lexeme, or both look at none. -/
theorem lookahead_cases (abreast : twins.Abreast state other) :
    (state.lookahead = none ∧ other.lookahead = none) ∨
      ∃ token otherToken, state.lookahead = some token ∧ other.lookahead = some otherToken ∧
        otherToken.lexeme = token.lexeme := by
  have same := abreast.lexeme_eq
  cases looked : state.lookahead with
  | none =>
      rw [looked] at same
      exact .inl ⟨rfl, Option.map_eq_none_iff.1 same⟩
  | some token =>
      rw [looked] at same
      rcases Option.map_eq_some_iff.1 same with ⟨otherToken, otherLooked, sameLexeme⟩
      exact .inr ⟨token, otherToken, rfl, otherLooked, sameLexeme⟩

end Twins.Abreast

end Tokens

/-! ## Replies that are alike -/

variable {α β : Type} {bound otherBound final otherFinal : Nat}

/-- Two replies that leave states abreast, with values alike or with one cause where they stand. -/
inductive Twins.Alike (twins : Twins) (Same : α → α → Prop) :
    Reply α bound → Reply α otherBound → Prop where
  | ok {value otherValue : α} {state other : State} {lighter : state.weight < bound}
      {otherLighter : other.weight < otherBound}
      (abreast : twins.Abreast state other) (same : Same value otherValue) :
      twins.Alike Same (.ok value state lighter) (.ok otherValue other otherLighter)
  | fail {cause : Cause} {state other : State} (abreast : twins.Abreast state other) :
      twins.Alike Same (.fail ⟨cause, state.position⟩ state) (.fail ⟨cause, other.position⟩ other)

namespace Twins.Alike

variable {twins : Twins} {Before : α → α → Prop} {After : β → β → Prop}
  {reply : Reply α bound} {otherReply : Reply α otherBound}

theorem andThen
    {continuation : (value : α) → (next : State) → next.weight < bound → Reply β final}
    {otherContinuation :
      (value : α) → (next : State) → next.weight < otherBound → Reply β otherFinal}
    (front : twins.Alike Before reply otherReply)
    (back : ∀ value otherValue state other lighter otherLighter,
      twins.Abreast state other → Before value otherValue →
        twins.Alike After (continuation value state lighter)
          (otherContinuation otherValue other otherLighter)) :
    twins.Alike After (reply.andThen continuation) (otherReply.andThen otherContinuation) := by
  cases front with
  | ok abreast same => exact back _ _ _ _ _ _ abreast same
  | fail abreast => exact .fail abreast

theorem after {state other : State} {reply : Reply α state.weight}
    {otherReply : Reply α other.weight} {moved : state.weight < final}
    {otherMoved : other.weight < otherFinal} (alike : twins.Alike Before reply otherReply) :
    twins.Alike Before (reply.after moved) (otherReply.after otherMoved) := by
  cases alike with
  | ok abreast same => exact .ok abreast same
  | fail abreast => exact .fail abreast

theorem map {change : α → β} (alike : twins.Alike Before reply otherReply)
    (changes : ∀ value otherValue, Before value otherValue →
      After (change value) (change otherValue)) :
    twins.Alike After (reply.map change) (otherReply.map change) := by
  cases alike with
  | ok abreast same => exact .ok abreast (changes _ _ same)
  | fail abreast => exact .fail abreast

end Twins.Alike

/-- A production answers alike in a state and in every state abreast of it. -/
def Twins.Agrees (twins : Twins) (production : (state : State) → Reply α state.weight)
    (state : State) : Prop :=
  ∀ other, twins.Abreast state other → twins.Alike Eq (production state) (production other)

/-- The same of a production that goes on behind a token that was taken. -/
def Twins.AgreesWithin (twins : Twins)
    (production : (state : State) → {bound : Nat} → state.weight < bound → Reply α bound)
    (state : State) : Prop :=
  ∀ other bound otherBound (moved : state.weight < bound) (otherMoved : other.weight < otherBound),
    twins.Abreast state other →
      twins.Alike Eq (production state moved) (production other otherMoved)

/-! ## Taking tokens -/

/-- Two tokens of a kind with one text. -/
structure SameText (kind : Kind) (token other : Token) : Prop where
  isKind : token.kind = kind
  text_eq : other.text = token.text
  spelled : token.Spelled

section Taking

variable {twins : Twins} {state other : State} {kind : Kind}

theorem advance_alike (abreast : twins.Abreast state other) (held : state.kind? = some kind) :
    twins.Alike (SameText kind) state.advance other.advance := by
  rcases abreast.lookahead_cases with ⟨ended, _⟩ | ⟨token, otherToken, looked, otherLooked, same⟩
  · simp [State.kind?, ended] at held
  · rcases abreast with ⟨count, first, second⟩
    rcases first.take looked with ⟨next, lighter, advances, onward⟩
    rcases second.take otherLooked with ⟨otherNext, otherLighter, otherAdvances, otherOnward⟩
    rw [advances, otherAdvances]
    refine .ok ⟨count + 1, onward, otherOnward⟩ ⟨?_, congrArg Lexeme.text same, ?_⟩
    · simpa [State.kind?, looked] using held
    · exact first.genuine token looked

theorem expect_alike (abreast : twins.Abreast state other) :
    twins.Alike (SameText kind) (state.expect kind) (other.expect kind) := by
  unfold State.expect
  rcases abreast.lookahead_cases with
    ⟨ended, otherEnded⟩ | ⟨token, otherToken, looked, otherLooked, same⟩
  · simp only [ended, otherEnded]
    exact .fail abreast
  · have kind_eq : otherToken.kind = token.kind := congrArg Lexeme.kind same
    have text_eq : otherToken.text = token.text := congrArg Lexeme.text same
    simp only [looked, otherLooked, kind_eq, text_eq]
    split
    next isKind =>
      exact advance_alike abreast (isKind ▸ kind?_of_lookahead looked)
    next =>
      rw [← position_of_lookahead looked, ← position_of_lookahead otherLooked]
      exact .fail abreast

theorem unexpected_alike {Same : α → α → Prop} {expected : String}
    (abreast : twins.Abreast state other) :
    twins.Alike Same (state.unexpected expected : Reply α bound)
      (other.unexpected expected : Reply α otherBound) := by
  unfold State.unexpected
  rcases abreast.lookahead_cases with
    ⟨ended, otherEnded⟩ | ⟨token, otherToken, looked, otherLooked, same⟩
  · simp only [ended, otherEnded]
    exact .fail abreast
  · have text_eq : otherToken.text = token.text := congrArg Lexeme.text same
    simp only [looked, otherLooked, text_eq]
    rw [← position_of_lookahead looked, ← position_of_lookahead otherLooked]
    exact .fail abreast

end Taking

/-! ## Expressions -/

section Expressions

variable {Node : Type} [Builder Node] {twins : Twins}

theorem identifier_agrees (state : State) : twins.Agrees (@identifier Node _) state := by
  intro other abreast
  unfold identifier
  apply (expect_alike abreast).map
  rintro token otherToken ⟨_, text_eq, _⟩
  rw [text_eq]

theorem literal_agrees (state : State) : twins.Agrees (@literal Node _) state := by
  intro other abreast
  unfold literal
  rw [abreast.kind?_eq]
  split
  next held =>
    apply (advance_alike abreast held).andThen
    rintro token otherToken next otherNext _ _ abreast ⟨isNumber, text_eq, spelled⟩
    -- Every number token has a value.
    have digits : Kind.number.Spells token.text.toList := isNumber ▸ spelled
    rcases Numeral.read_of_digits digits with ⟨value, reads⟩
    simp only [text_eq, reads]
    exact .ok abreast rfl
  next held =>
    apply (advance_alike abreast held).map
    rintro token otherToken ⟨_, text_eq, _⟩
    rw [text_eq]
  next held => exact (advance_alike abreast held).map fun _ _ _ => rfl
  next held => exact (advance_alike abreast held).map fun _ _ _ => rfl
  next held => exact (advance_alike abreast held).map fun _ _ _ => rfl
  next => exact unexpected_alike abreast

theorem grouping_agrees (state : State)
    (ofInner : state.Later (twins.Agrees (@assignment Node _))) :
    twins.Agrees (@grouping Node _) state := by
  intro other abreast
  rw [grouping, grouping]
  apply (expect_alike abreast).andThen
  rintro _ _ afterOpen _ opened _ abreast _
  apply (ofInner afterOpen opened _ abreast).after.andThen
  rintro inner _ afterInner _ _ _ abreast rfl
  apply (expect_alike abreast).after.andThen
  rintro _ _ afterClose _ _ _ abreast _
  exact .ok abreast rfl

theorem primary_agrees (state : State) (ofGrouping : twins.Agrees (@grouping Node _) state) :
    twins.Agrees (@primary Node _) state := by
  intro other abreast
  rw [primary, primary, abreast.kind?_eq]
  split
  next => exact ofGrouping other abreast
  next => exact identifier_agrees state other abreast
  next =>
    split
    next => exact literal_agrees state other abreast
    next => exact unexpected_alike abreast
  next => exact unexpected_alike abreast

theorem memberRest_agrees (state : State)
    (ofIndex : state.Later (twins.Agrees (@assignment Node _)))
    (ofRest : state.Later fun next =>
      ∀ object, twins.AgreesWithin (@memberRest Node _ object) next)
    (object : Node) :
    twins.AgreesWithin (@memberRest Node _ object) state := by
  intro other bound otherBound moved otherMoved abreast
  rw [memberRest, memberRest, abreast.kind?_eq]
  split
  next held =>
    apply (advance_alike abreast held).andThen
    rintro _ _ afterDot _ _ _ abreast _
    apply (identifier_agrees afterDot _ abreast).after.andThen
    rintro property _ afterProperty _ taken _ abreast rfl
    exact ofRest afterProperty taken _ _ _ _ _ _ abreast
  next held =>
    apply (advance_alike abreast held).andThen
    rintro _ _ afterOpen _ opened _ abreast _
    apply (ofIndex afterOpen opened _ abreast).after.andThen
    rintro property _ afterProperty _ _ _ abreast rfl
    apply (expect_alike abreast).after.andThen
    rintro _ _ afterClose _ taken _ abreast _
    exact ofRest afterClose taken _ _ _ _ _ _ abreast
  next => exact .ok abreast rfl

theorem member_agrees (state : State) (ofObject : twins.Agrees (@primary Node _) state)
    (ofRest : state.Later fun next =>
      ∀ object, twins.AgreesWithin (@memberRest Node _ object) next) :
    twins.Agrees (@member Node _) state := by
  intro other abreast
  rw [member, member]
  apply (ofObject other abreast).andThen
  rintro object _ afterObject _ taken _ abreast rfl
  exact ofRest afterObject taken object _ _ _ _ _ abreast

theorem unary_agrees (state : State) (ofMember : twins.Agrees (@member Node _) state)
    (ofArgument : state.Later (twins.Agrees (@unary Node _))) :
    twins.Agrees (@unary Node _) state := by
  intro other abreast
  rw [unary, unary, abreast.kind?_eq]
  split
  next operates =>
    rcases (Option.any_eq_true ..).1 operates with ⟨kind, held, _⟩
    apply (advance_alike abreast held).andThen
    rintro operator _ afterOperator _ taken _ abreast ⟨_, text_eq, _⟩
    apply (ofArgument afterOperator taken _ abreast).after.andThen
    rintro argument _ afterArgument _ _ _ abreast rfl
    exact .ok abreast (by rw [text_eq])
  next => exact ofMember other abreast

theorem binaryRest_agrees (level : Level) (state : State)
    (ofOperand : state.Later (twins.Agrees (@operand Node _ level)))
    (ofRest : state.Later fun next =>
      ∀ left, twins.AgreesWithin (@binaryRest Node _ level left) next)
    (left : Node) :
    twins.AgreesWithin (@binaryRest Node _ level left) state := by
  intro other bound otherBound moved otherMoved abreast
  rw [binaryRest, binaryRest, abreast.kind?_eq]
  split
  next operates =>
    rcases Option.bind_eq_some_iff.1 operates with ⟨kind, held, _⟩
    apply (advance_alike abreast held).andThen
    rintro operator _ afterOperator _ taken _ abreast ⟨_, text_eq, _⟩
    apply (ofOperand afterOperator taken _ abreast).after.andThen
    rintro right _ afterRight _ taken _ abreast rfl
    rw [text_eq]
    exact ofRest afterRight taken _ _ _ _ _ _ abreast
  next => exact .ok abreast rfl

theorem binary_agrees (level : Level) (state : State)
    (ofOperand : twins.Agrees (@operand Node _ level) state)
    (ofRest : state.Later fun next =>
      ∀ left, twins.AgreesWithin (@binaryRest Node _ level left) next) :
    twins.Agrees (@binary Node _ level) state := by
  intro other abreast
  rw [binary, binary]
  apply (ofOperand other abreast).andThen
  rintro left _ afterLeft _ taken _ abreast rfl
  exact ofRest afterLeft taken left _ _ _ _ _ abreast

theorem assignment_agrees (state : State)
    (ofLeft : twins.Agrees (@binary Node _ .logicalOr) state)
    (ofRight : state.Later (twins.Agrees (@assignment Node _))) :
    twins.Agrees (@assignment Node _) state := by
  intro other abreast
  rw [assignment, assignment]
  apply (ofLeft other abreast).andThen
  rintro left _ afterLeft otherLeft taken _ abreast rfl
  rcases abreast.lookahead_cases with
    ⟨ended, otherEnded⟩ | ⟨token, otherToken, looked, otherLooked, same⟩
  · simp only [ended, otherEnded]
    exact .ok abreast rfl
  · have kind_eq : otherToken.kind = token.kind := congrArg Lexeme.kind same
    simp only [looked, otherLooked, kind_eq]
    split
    next =>
      split
      next =>
        apply (advance_alike abreast (kind?_of_lookahead looked)).after.andThen
        rintro operator _ afterOperator _ taken _ abreast ⟨_, text_eq, _⟩
        apply (ofRight afterOperator taken _ abreast).after.andThen
        rintro right _ afterRight _ _ _ abreast rfl
        exact .ok abreast (by rw [text_eq])
      next =>
        rw [← position_of_lookahead looked, ← position_of_lookahead otherLooked]
        exact .fail abreast
    next => exact .ok abreast rfl

/-- All expressions are read alike. -/
theorem expression_agrees (state : State) : twins.Agrees (@expression Node _) state := by
  refine (State.expression_induction grouping_agrees primary_agrees memberRest_agrees
    member_agrees unary_agrees ?_ ?_ binaryRest_agrees binary_agrees assignment_agrees state).1
  · intro level state next ofUnary other abreast
    rw [operand_of_tightest next, operand_of_tightest next]
    exact ofUnary other abreast
  · intro level tighter state next ofBinary other abreast
    rw [operand_of_tighter next, operand_of_tighter next]
    exact ofBinary other abreast

end Expressions

/-! ## Parts of statements -/

section Parts

variable {Node : Type} [Builder Node] {twins : Twins}
  {item : (state : State) → Reply α state.weight}

theorem afterCommas_agrees (ofItem : ∀ state, twins.Agrees item state) (state : State) :
    twins.AgreesWithin (@afterCommas α item) state := by
  induction state using State.descend with
  | step state later =>
      intro other bound otherBound moved otherMoved abreast
      rw [afterCommas, afterCommas, abreast.isAt_eq]
      split
      next held =>
        apply (advance_alike abreast (State.isAt_iff.1 held)).andThen
        rintro _ _ afterComma _ _ _ abreast _
        apply (ofItem afterComma _ abreast).after.andThen
        rintro first _ afterFirst _ taken _ abreast rfl
        apply (later afterFirst taken _ _ _ _ _ abreast).andThen
        rintro others _ afterOthers _ _ _ abreast rfl
        exact .ok abreast rfl
      next => exact .ok abreast rfl

theorem commaSeparated_agrees (ofItem : ∀ state, twins.Agrees item state) (state : State) :
    twins.Agrees (commaSeparated item) state := by
  intro other abreast
  unfold commaSeparated
  apply (ofItem state other abreast).andThen
  rintro first _ afterFirst _ _ _ abreast rfl
  apply (afterCommas_agrees ofItem afterFirst _ _ _ _ _ abreast).andThen
  rintro others _ afterOthers _ _ _ abreast rfl
  exact .ok abreast rfl

theorem expressionUnless_agrees (stop : Kind) (state : State) :
    twins.AgreesWithin (@expressionUnless Node _ stop) state := by
  intro other bound otherBound moved otherMoved abreast
  unfold expressionUnless
  rw [abreast.isAt_eq]
  split
  next => exact .ok abreast rfl
  next =>
    apply (expression_agrees state other abreast).after.map
    rintro value _ rfl
    rfl

theorem condition_agrees (state : State) : twins.Agrees (@condition Node _) state := by
  intro other abreast
  unfold condition
  apply (expect_alike abreast).andThen
  rintro _ _ afterOpen _ _ _ abreast _
  apply (expression_agrees afterOpen _ abreast).after.andThen
  rintro test _ afterTest _ _ _ abreast rfl
  apply (expect_alike abreast).after.andThen
  rintro _ _ afterClose _ _ _ abreast _
  exact .ok abreast rfl

theorem declaration_agrees (state : State) : twins.Agrees (@declaration Node _) state := by
  intro other abreast
  unfold declaration
  apply (identifier_agrees state other abreast).andThen
  rintro name _ afterName _ _ _ abreast rfl
  rw [abreast.isAt_eq, abreast.isAt_eq]
  split
  next => exact .ok abreast rfl
  next =>
    apply (expect_alike abreast).after.andThen
    rintro _ _ afterAssign _ _ _ abreast _
    apply (expression_agrees afterAssign _ abreast).after.andThen
    rintro value _ afterValue _ _ _ abreast rfl
    exact .ok abreast rfl

theorem declarations_agrees (state : State) : twins.Agrees (@declarations Node _) state := by
  intro other abreast
  unfold declarations
  apply (expect_alike abreast).andThen
  rintro _ _ afterLet _ _ _ abreast _
  apply (commaSeparated_agrees declaration_agrees afterLet _ abreast).after.andThen
  rintro items _ afterItems _ _ _ abreast rfl
  exact .ok abreast rfl

theorem loopStart_agrees (state : State) : twins.AgreesWithin (@loopStart Node _) state := by
  intro other bound otherBound moved otherMoved abreast
  unfold loopStart
  rw [abreast.isAt_eq]
  split
  next =>
    apply (declarations_agrees state other abreast).after.map
    rintro node _ rfl
    rfl
  next => exact expressionUnless_agrees .semicolon state _ _ _ _ _ abreast

theorem parameters_agrees (state : State) : twins.AgreesWithin (@parameters Node _) state := by
  intro other bound otherBound moved otherMoved abreast
  unfold parameters
  rw [abreast.isAt_eq]
  split
  next => exact .ok abreast rfl
  next => exact (commaSeparated_agrees identifier_agrees state other abreast).after

theorem returnedValue_agrees (state : State) :
    twins.AgreesWithin (@returnedValue Node _) state := by
  intro other bound otherBound moved otherMoved abreast
  unfold returnedValue
  rw [abreast.isNone_eq]
  split
  next => exact .ok abreast rfl
  next => exact expressionUnless_agrees .semicolon state _ _ _ _ _ abreast

end Parts

/-! ## Statements -/

section Statements

variable {Node : Type} [Builder Node] {twins : Twins}

theorem emptyStatement_agrees (state : State) : twins.Agrees (@emptyStatement Node _) state := by
  intro other abreast
  unfold emptyStatement
  exact (expect_alike abreast).map fun _ _ _ => rfl

theorem expressionStatement_agrees (state : State) :
    twins.Agrees (@expressionStatement Node _) state := by
  intro other abreast
  unfold expressionStatement
  apply (expression_agrees state other abreast).andThen
  rintro value _ afterValue _ _ _ abreast rfl
  apply (expect_alike abreast).after.andThen
  rintro _ _ afterEnd _ _ _ abreast _
  exact .ok abreast rfl

theorem declarationStatement_agrees (state : State) :
    twins.Agrees (@declarationStatement Node _) state := by
  intro other abreast
  unfold declarationStatement
  apply (declarations_agrees state other abreast).andThen
  rintro node _ afterDeclarations _ _ _ abreast rfl
  apply (expect_alike abreast).after.andThen
  rintro _ _ afterEnd _ _ _ abreast _
  exact .ok abreast rfl

theorem returnStatement_agrees (state : State) :
    twins.Agrees (@returnStatement Node _) state := by
  intro other abreast
  unfold returnStatement
  apply (expect_alike abreast).andThen
  rintro _ _ afterReturn _ _ _ abreast _
  apply (returnedValue_agrees afterReturn _ _ _ _ _ abreast).andThen
  rintro argument _ afterArgument _ _ _ abreast rfl
  apply (expect_alike abreast).after.andThen
  rintro _ _ afterEnd _ _ _ abreast _
  exact .ok abreast rfl

theorem block_agrees (state : State)
    (ofBody : state.Later (twins.AgreesWithin (@statements Node _ (some .closeCurly)))) :
    twins.Agrees (@block Node _) state := by
  intro other abreast
  rw [block, block]
  apply (expect_alike abreast).andThen
  rintro _ _ afterOpen _ opened _ abreast _
  apply (ofBody afterOpen opened _ _ _ _ _ abreast).andThen
  rintro body _ afterBody _ _ _ abreast rfl
  apply (expect_alike abreast).after.andThen
  rintro _ _ afterClose _ _ _ abreast _
  exact .ok abreast rfl

theorem conditional_agrees (state : State)
    (ofStatement : state.Later (twins.Agrees (@statement Node _))) :
    twins.Agrees (@conditional Node _) state := by
  intro other abreast
  rw [conditional, conditional]
  apply (expect_alike abreast).andThen
  rintro _ _ afterIf _ _ _ abreast _
  apply (condition_agrees afterIf _ abreast).after.andThen
  rintro test _ afterTest _ taken _ abreast rfl
  apply (ofStatement afterTest taken _ abreast).after.andThen
  rintro consequent _ afterConsequent _ _ _ abreast rfl
  rw [abreast.isAt_eq]
  split
  next held =>
    apply (advance_alike abreast (State.isAt_iff.1 held)).after.andThen
    rintro _ _ afterElse _ taken _ abreast _
    apply (ofStatement afterElse taken _ abreast).after.andThen
    rintro alternate _ afterAlternate _ _ _ abreast rfl
    exact .ok abreast rfl
  next => exact .ok abreast rfl

theorem whileLoop_agrees (state : State)
    (ofStatement : state.Later (twins.Agrees (@statement Node _))) :
    twins.Agrees (@whileLoop Node _) state := by
  intro other abreast
  rw [whileLoop, whileLoop]
  apply (expect_alike abreast).andThen
  rintro _ _ afterWhile _ _ _ abreast _
  apply (condition_agrees afterWhile _ abreast).after.andThen
  rintro test _ afterTest _ taken _ abreast rfl
  apply (ofStatement afterTest taken _ abreast).after.andThen
  rintro body _ afterBody _ _ _ abreast rfl
  exact .ok abreast rfl

theorem doWhileLoop_agrees (state : State)
    (ofStatement : state.Later (twins.Agrees (@statement Node _))) :
    twins.Agrees (@doWhileLoop Node _) state := by
  intro other abreast
  rw [doWhileLoop, doWhileLoop]
  apply (expect_alike abreast).andThen
  rintro _ _ afterDo _ taken _ abreast _
  apply (ofStatement afterDo taken _ abreast).after.andThen
  rintro body _ afterBody _ _ _ abreast rfl
  apply (expect_alike abreast).after.andThen
  rintro _ _ afterWhile _ _ _ abreast _
  apply (condition_agrees afterWhile _ abreast).after.andThen
  rintro test _ afterTest _ _ _ abreast rfl
  apply (expect_alike abreast).after.andThen
  rintro _ _ afterEnd _ _ _ abreast _
  exact .ok abreast rfl

theorem forLoop_agrees (state : State)
    (ofStatement : state.Later (twins.Agrees (@statement Node _))) :
    twins.Agrees (@forLoop Node _) state := by
  intro other abreast
  rw [forLoop, forLoop]
  apply (expect_alike abreast).andThen
  rintro _ _ afterFor _ _ _ abreast _
  apply (expect_alike abreast).after.andThen
  rintro _ _ afterOpen _ _ _ abreast _
  apply (loopStart_agrees afterOpen _ _ _ _ _ abreast).andThen
  rintro init _ afterInit _ _ _ abreast rfl
  apply (expect_alike abreast).after.andThen
  rintro _ _ afterFirst _ _ _ abreast _
  apply (expressionUnless_agrees .semicolon afterFirst _ _ _ _ _ abreast).andThen
  rintro test _ afterTest _ _ _ abreast rfl
  apply (expect_alike abreast).after.andThen
  rintro _ _ afterSecond _ _ _ abreast _
  apply (expressionUnless_agrees .closeParen afterSecond _ _ _ _ _ abreast).andThen
  rintro update _ afterUpdate _ _ _ abreast rfl
  apply (expect_alike abreast).after.andThen
  rintro _ _ afterClose _ taken _ abreast _
  apply (ofStatement afterClose taken _ abreast).after.andThen
  rintro body _ afterBody _ _ _ abreast rfl
  exact .ok abreast rfl

theorem function_agrees (state : State) (ofBlock : state.Later (twins.Agrees (@block Node _))) :
    twins.Agrees (@function Node _) state := by
  intro other abreast
  rw [function, function]
  apply (expect_alike abreast).andThen
  rintro _ _ afterDef _ _ _ abreast _
  apply (identifier_agrees afterDef _ abreast).after.andThen
  rintro name _ afterName _ _ _ abreast rfl
  apply (expect_alike abreast).after.andThen
  rintro _ _ afterOpen _ _ _ abreast _
  apply (parameters_agrees afterOpen _ _ _ _ _ abreast).andThen
  rintro params _ afterParams _ _ _ abreast rfl
  apply (expect_alike abreast).after.andThen
  rintro _ _ afterClose _ taken _ abreast _
  apply (ofBlock afterClose taken _ abreast).after.andThen
  rintro body _ afterBody _ _ _ abreast rfl
  exact .ok abreast rfl

theorem statement_agrees (state : State) (ofBlock : twins.Agrees (@block Node _) state)
    (laterBlock : state.Later (twins.Agrees (@block Node _)))
    (laterStatement : state.Later (twins.Agrees (@statement Node _))) :
    twins.Agrees (@statement Node _) state := by
  intro other abreast
  rw [statement, statement, abreast.kind?_eq]
  split
  next => exact emptyStatement_agrees state other abreast
  next => exact ofBlock other abreast
  next => exact declarationStatement_agrees state other abreast
  next => exact conditional_agrees state laterStatement other abreast
  next => exact whileLoop_agrees state laterStatement other abreast
  next => exact doWhileLoop_agrees state laterStatement other abreast
  next => exact forLoop_agrees state laterStatement other abreast
  next => exact returnStatement_agrees state other abreast
  next => exact function_agrees state laterBlock other abreast
  next => exact expressionStatement_agrees state other abreast

theorem statements_agrees (stop : Option Kind) (state : State)
    (ofFirst : twins.Agrees (@statement Node _) state)
    (ofOthers : state.Later (twins.AgreesWithin (@statements Node _ stop))) :
    twins.AgreesWithin (@statements Node _ stop) state := by
  intro other bound otherBound moved otherMoved abreast
  rw [statements, statements, abreast.isNone_eq, abreast.kind?_eq]
  split
  next => exact .ok abreast rfl
  next =>
    apply (ofFirst other abreast).andThen
    rintro first _ afterFirst _ taken _ abreast rfl
    apply (ofOthers afterFirst taken _ _ _ _ _ abreast).andThen
    rintro others _ afterOthers _ _ _ abreast rfl
    exact .ok abreast rfl

/-- All lists of statements are read alike. -/
theorem allStatements_agree (stop : Option Kind) (state : State) :
    twins.AgreesWithin (@statements Node _ stop) state :=
  (State.statement_induction block_agrees statement_agrees statements_agrees state).1 stop

theorem program_alike {state other : State} (abreast : twins.Abreast state other) :
    twins.Alike Eq (program state : Reply Node (state.weight + 1)) (program other) := by
  unfold program
  apply (allStatements_agree none state _ _ _ _ _ abreast).map
  rintro body _ rfl
  rfl

end Statements

/-! ## Whole sources -/

/-- The same place in two sources: where tokens of one index start, or the end of both. -/
inductive SamePlace (source other : String) (tokens otherTokens : List Token) :
    Position → Position → Prop where
  | token {index : Nat} {token otherToken : Token}
      (found : tokens[index]? = some token)
      (otherFound : otherTokens[index]? = some otherToken) :
      SamePlace source other tokens otherTokens token.start otherToken.start
  | ended {position otherPosition : Position}
      (ends : position.offset = source.utf8ByteSize.toUInt32)
      (otherEnds : otherPosition.offset = other.utf8ByteSize.toUInt32) :
      SamePlace source other tokens otherTokens position otherPosition

/-- One value, or one cause at the same place in two sources. -/
inductive SameAnswer (Place : Position → Position → Prop) :
    Except Diagnostic α → Except Diagnostic α → Prop where
  | ok (value : α) : SameAnswer Place (.ok value) (.ok value)
  | error {cause : Cause} {position otherPosition : Position}
      (place : Place position otherPosition) :
      SameAnswer Place (.error ⟨cause, position⟩) (.error ⟨cause, otherPosition⟩)

theorem SameAnswer.map {Place : Position → Position → Prop} {first second : Except Diagnostic α}
    (answers : SameAnswer Place first second) (change : α → β) :
    SameAnswer Place (first.map change) (second.map change) := by
  cases answers with
  | ok value => exact .ok (change value)
  | error place => exact .error place

theorem Twins.Alike.answer {twins : Twins} {Place : Position → Position → Prop}
    {reply : Reply α bound} {otherReply : Reply α otherBound}
    (alike : twins.Alike Eq reply otherReply)
    (places : ∀ state other, twins.Abreast state other → Place state.position other.position) :
    SameAnswer Place reply.outcome.answer otherReply.outcome.answer := by
  cases alike with
  | ok _ same =>
      cases same
      exact .ok _
  | fail abreast => exact .error (places _ _ abreast)

section Sources

variable {source other : String} {file : Option String} {tokens otherTokens : List Token}

/-- A state that looks at nothing stands at the end of its text. -/
theorem Onward.ended {count : Nat} {state : State}
    (onward : Onward source.toList tokens count state) (ended : state.lookahead = none) :
    state.position.offset = source.utf8ByteSize.toUInt32 := by
  have whole := state.lexer.offset_add_byteLength
  rw [onward.settled ended, onward.source_eq, Text.byteLength_toList] at whole
  rw [State.position, ended, Lexer.position, ← whole]
  rfl

theorem Twins.Abreast.samePlace {same : tokens.map Token.lexeme = otherTokens.map Token.lexeme}
    {state otherState : State}
    (abreast : Twins.Abreast ⟨source.toList, other.toList, tokens, otherTokens, same⟩
      state otherState) :
    SamePlace source other tokens otherTokens state.position otherState.position := by
  have looks := abreast.lookahead_cases
  rcases abreast with ⟨count, onward, otherOnward⟩
  rcases looks with ⟨ended, otherEnded⟩ | ⟨token, otherToken, looked, otherLooked, _⟩
  · exact .ended (onward.ended ended) (otherOnward.ended otherEnded)
  · rw [position_of_lookahead looked, position_of_lookahead otherLooked]
    rw [onward.lookahead_eq] at looked
    rw [otherOnward.lookahead_eq] at otherLooked
    exact .token looked otherLooked

/-- A source that has tokens is read from the first of them on. -/
theorem exists_onward (Node : Type) [Builder Node] (lexes : tokenize source file = .ok tokens) :
    ∃ state, Onward source.toList tokens 0 state ∧
      (parse source file : Except Diagnostic Node) = (program state).outcome.answer := by
  rcases tokenize_eq_ok_iff.1 lexes with ⟨complete, rfl⟩
  rcases parseFrom_cases Node (State.initial file) source with
    ⟨diagnostic, drains, _⟩ | ⟨loaded, isLoaded, answers⟩
  · have stopped : (Lexer.start source file).drain = ⟨[], some diagnostic⟩ := drains
    rw [stopped] at complete
    cases complete
  · refine ⟨loaded, ⟨?_, ?_, isLoaded.source_eq, isLoaded.genuine, isLoaded.settled⟩, ?_⟩
    · exact isLoaded.pending_eq
    · exact isLoaded.blocked_eq.trans complete
    · rw [parse, answers]

/-- Sources with the same lexemes have the same answer. -/
theorem sameAnswer_of_lexemes (Node : Type) [Builder Node]
    (lexes : tokenize source file = .ok tokens) (lexesOther : tokenize other file = .ok otherTokens)
    (same : tokens.map Token.lexeme = otherTokens.map Token.lexeme) :
    SameAnswer (SamePlace source other tokens otherTokens)
      (parse source file : Except Diagnostic Node) (parse other file) := by
  rcases exists_onward Node lexes with ⟨state, onward, answers⟩
  rcases exists_onward Node lexesOther with ⟨otherState, otherOnward, otherAnswers⟩
  have abreast : Twins.Abreast ⟨source.toList, other.toList, tokens, otherTokens, same⟩
      state otherState := ⟨0, onward, otherOnward⟩
  rw [answers, otherAnswers]
  exact (program_alike abreast).answer fun _ _ abreast => abreast.samePlace

end Sources

end Script.Parser

namespace Script

/-- The texts of tokens with one space between them. -/
def respaced (tokens : List Token) : String :=
  " ".intercalate (tokens.map Token.text)

theorem respaced_eq_spaced (tokens : List Token) :
    respaced tokens = String.ofList (Tree.spaced (tokens.map Token.lexeme)) := by
  induction tokens with
  | nil => rfl
  | cons first others inductionHypothesis =>
      cases others with
      | nil => simp [respaced, Tree.spaced, Token.lexeme]
      | cons second rest =>
          rw [respaced] at inductionHypothesis ⊢
          rw [List.map_cons, List.map_cons, String.intercalate_cons_cons, ← List.map_cons,
            inductionHypothesis]
          simp [Tree.spaced, Token.lexeme, String.ofList_append, String.append_assoc]

/-- Lexemes survive that their layout is lost. -/
theorem tokenize_respaced {source : String} {file : Option String} {tokens : List Token}
    (lexes : tokenize source file = .ok tokens) :
    ∃ others, tokenize (respaced tokens) file = .ok others ∧
      others.map Token.lexeme = tokens.map Token.lexeme := by
  have ofText := tokenize_iff_lexes.1 ⟨tokens, lexes, rfl⟩
  rw [respaced_eq_spaced]
  exact tokenize_spaced ofText.standsAlone file

/--
Layout is invisible: with one space between them, the tokens of a source have the
same kinds and texts, and in each mode the parser has the same answer to both.
-/
theorem layout_invisible {source : String} {file : Option String} {tokens : List Token}
    (lexes : tokenize source file = .ok tokens) :
    ∃ others, tokenize (respaced tokens) file = .ok others ∧
      others.map Token.lexeme = tokens.map Token.lexeme ∧
        ∀ mode, Parser.SameAnswer (Parser.SamePlace source (respaced tokens) tokens others)
          (parse mode source file) (parse mode (respaced tokens) file) := by
  rcases tokenize_respaced lexes with ⟨others, lexesOthers, same⟩
  refine ⟨others, lexesOthers, same, ?_⟩
  intro mode
  cases mode with
  | tree =>
      have answers := Parser.sameAnswer_of_lexemes Tree lexes lexesOthers same.symm
      exact answers.map Output.tree
  | list =>
      have answers := Parser.sameAnswer_of_lexemes SExpr lexes lexesOthers same.symm
      exact answers.map Output.list

/-- A target that cannot be assigned to is refused with and without the comment before it. -/
theorem layout_invisible_at_target :
    ∃ tokens others, tokenize "a=/* b */1=c" none = .ok tokens ∧ respaced tokens = "a = 1 = c" ∧
      tokenize "a = 1 = c" none = .ok others ∧
        others.map Token.lexeme = tokens.map Token.lexeme ∧
          ∀ mode, Parser.SameAnswer (Parser.SamePlace "a=/* b */1=c" "a = 1 = c" tokens others)
            (parse mode "a=/* b */1=c" none) (parse mode "a = 1 = c" none) := by
  have lexes : tokenize "a=/* b */1=c" none = .ok
      [⟨.identifier, "a", ⟨0, 1, "shell"⟩⟩, ⟨.simpleAssign, "=", ⟨1, 2, "shell"⟩⟩,
        ⟨.number, "1", ⟨9, 10, "shell"⟩⟩, ⟨.simpleAssign, "=", ⟨10, 11, "shell"⟩⟩,
        ⟨.identifier, "c", ⟨11, 12, "shell"⟩⟩] :=
    tokenize_eq_ok_iff.2 ⟨by decide +kernel, by decide +kernel⟩
  rcases layout_invisible lexes with ⟨others, respacedLexes, same, answers⟩
  exact ⟨_, others, lexes, rfl, respacedLexes, same, answers⟩

end Script
