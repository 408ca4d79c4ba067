import Mathlib.Logic.Relation
import Script.Parser.Request
import Script.Proofs.Spelling

/-!
# What a parser has left to read

A parser pulls its tokens one ahead, but what it will see is fixed as soon as it
stands somewhere: the token looked at, the tokens that the lexer still holds, and
perhaps a character after them that no rule accepts.  This file names these parts
of a state and says what taking a token does to them.

The productions change a state only by taking tokens, so everything they keep
follows from what one step keeps.
-/

namespace Script.Parser

namespace State

/-- The tokens that a state has not taken, the one looked at first. -/
def pending (state : State) : List Token :=
  match state.lookahead with
  | none => []
  | some token => token :: state.lexer.drain.tokens

/-- What stops the lexer behind the tokens that are left. -/
def blocked (state : State) : Option Diagnostic :=
  match state.lookahead with
  | none => none
  | some _ => state.lexer.drain.failure

/-- The kinds of the tokens that a state has not taken. -/
def kinds (state : State) : List Kind :=
  state.pending.map Token.kind

@[simp]
theorem head?_pending (state : State) :
    state.pending.head? = state.lookahead := by
  rcases state with ⟨lexer, lookahead, file⟩
  cases lookahead <;> rfl

@[simp]
theorem head?_kinds (state : State) :
    state.kinds.head? = state.kind? := by
  rw [kinds, List.head?_map, head?_pending]
  rfl

theorem pending_eq_nil {state : State} :
    state.pending = [] ↔ state.lookahead = none := by
  rw [← head?_pending, List.head?_eq_none_iff]

theorem isAt_iff {state : State} {kind : Kind} :
    state.isAt kind = true ↔ state.kind? = some kind := by
  simp [isAt]

theorem isNone_lookahead {state : State} :
    state.lookahead.isNone = true ↔ state.kind? = none := by
  simp [kind?]

/-- One token is taken, and the state looks at what follows it. -/
def Takes (state : State) (token : Token) (next : State) : Prop :=
  ∃ lighter, state.advance = .ok token next lighter

/-- Any number of tokens are taken. -/
def Advances : State → State → Prop :=
  Relation.ReflTransGen fun state next => ∃ token, state.Takes token next

/-- A state that looks at nothing takes nothing. -/
theorem advance_of_none {state : State} (ended : state.lookahead = none) :
    state.advance =
      .fail ⟨.unexpectedEndOfInput "token", state.position⟩ state := by
  rcases state with ⟨lexer, lookahead, file⟩
  cases ended
  rfl

/-- A state that looks at a token leaves it to the lexer what comes next. -/
theorem outcome_advance {state : State} {token : Token}
    (held : state.lookahead = some token) :
    state.advance.outcome =
      match state.lexer.next with
      | .token following further _ => ⟨.ok token, further, some following, state.file⟩
      | .finished further _ => ⟨.ok token, further, none, state.file⟩
      | .rejected diagnostic further _ =>
          ⟨.error diagnostic, further, none, state.file⟩ := by
  rcases state with ⟨lexer, lookahead, file⟩
  cases held
  cases pulled : lexer.next <;> simp [advance, pulled, Reply.outcome]

/-- A token is taken where the lexer gives another one behind it, or ends. -/
theorem Takes.cases {state next : State} {token : Token}
    (takes : state.Takes token next) :
    state.lookahead = some token ∧
      ((∃ following further shorter,
          state.lexer.next = .token following further shorter ∧
            next = ⟨further, some following, state.file⟩) ∨
        ∃ further notLonger,
          state.lexer.next = .finished further notLonger ∧
            next = ⟨further, none, state.file⟩) := by
  rcases takes with ⟨lighter, equation⟩
  cases held : state.lookahead with
  | none => simp [advance_of_none held] at equation
  | some other =>
      have outcome := outcome_advance held
      rw [equation, Reply.outcome] at outcome
      cases pulled : state.lexer.next with
      | token following further shorter =>
          simp only [pulled, Outcome.mk.injEq, Except.ok.injEq] at outcome
          exact ⟨by rw [outcome.1], .inl ⟨following, further, shorter, rfl, outcome.2⟩⟩
      | finished further notLonger =>
          simp only [pulled, Outcome.mk.injEq, Except.ok.injEq] at outcome
          exact ⟨by rw [outcome.1], .inr ⟨further, notLonger, rfl, outcome.2⟩⟩
      | rejected diagnostic further notLonger =>
          simp [pulled] at outcome

/-- Taking a token leaves the tokens behind it. -/
theorem Takes.pending_eq {state next : State} {token : Token}
    (takes : state.Takes token next) :
    state.pending = token :: next.pending := by
  rcases takes.cases with ⟨held, ⟨following, further, shorter, pulled, rfl⟩ |
    ⟨further, notLonger, pulled, rfl⟩⟩
  · simp [pending, held, Lexer.drain_of_token pulled]
  · simp [pending, held, Lexer.drain_of_finished pulled]

/-- Taking a token does not change what the lexer will stop at. -/
theorem Takes.blocked_eq {state next : State} {token : Token}
    (takes : state.Takes token next) :
    next.blocked = state.blocked := by
  rcases takes.cases with ⟨held, ⟨following, further, shorter, pulled, rfl⟩ |
    ⟨further, notLonger, pulled, rfl⟩⟩
  · simp [blocked, held, Lexer.drain_of_token pulled]
  · simp [blocked, held, Lexer.drain_of_finished pulled]

/-- The lexer rejects the text behind the last token, which is lost with it. -/
structure Starves (state : State) (diagnostic : Diagnostic) (next : State) : Prop where
  fails : state.advance = .fail diagnostic next
  last : state.pending.tail = []
  blocks : state.blocked = some diagnostic
  emptied : next.lookahead = none

/-- A state that looks at a token takes it, or the text behind it is no token. -/
theorem takes_or_starves {state : State} {token : Token}
    (held : state.lookahead = some token) :
    (∃ next, state.Takes token next) ∨
      ∃ diagnostic next, state.Starves diagnostic next := by
  have outcome := outcome_advance held
  cases reply : state.advance with
  | ok value next lighter =>
      left
      have takes : state.Takes value next := ⟨lighter, reply⟩
      have same : some token = some value := held.symm.trans takes.cases.1
      cases same
      exact ⟨next, takes⟩
  | fail diagnostic next =>
      right
      rw [reply, Reply.outcome] at outcome
      cases pulled : state.lexer.next <;>
        simp only [pulled, Outcome.mk.injEq, reduceCtorEq, false_and,
          Except.error.injEq] at outcome
      rcases outcome with ⟨rfl, rfl⟩
      refine ⟨diagnostic, _, reply, ?_, ?_, rfl⟩
      · simp [pending, held, Lexer.drain_of_rejected pulled]
      · simp [blocked, held, Lexer.drain_of_rejected pulled]

/-- Tokens that are taken are the first of those that were left. -/
theorem Advances.pending_eq {state next : State} (advances : state.Advances next) :
    ∃ taken, state.pending = taken ++ next.pending := by
  induction advances with
  | refl => exact ⟨[], rfl⟩
  | tail _ last inductionHypothesis =>
      rcases last with ⟨token, takes⟩
      rcases inductionHypothesis with ⟨taken, equation⟩
      refine ⟨taken ++ [token], ?_⟩
      rw [equation, takes.pending_eq, List.append_assoc]
      rfl

theorem Advances.blocked_eq {state next : State} (advances : state.Advances next) :
    next.blocked = state.blocked := by
  induction advances with
  | refl => rfl
  | tail _ last inductionHypothesis =>
      rcases last with ⟨token, takes⟩
      rw [takes.blocked_eq, inductionHypothesis]

/-- Taking a token moves the lexer on in its source. -/
theorem Takes.precedes {state next : State} {token : Token} (takes : state.Takes token next) :
    state.lexer.Precedes next.lexer := by
  have before := state.lexer.precedes_next
  rcases takes.cases with ⟨held, ⟨following, further, shorter, pulled, rfl⟩ |
    ⟨further, notLonger, pulled, rfl⟩⟩
  · rw [pulled] at before
    exact before
  · rw [pulled] at before
    exact before

theorem Advances.precedes {state next : State} (advances : state.Advances next) :
    state.lexer.Precedes next.lexer := by
  induction advances with
  | refl => exact .refl _
  | tail _ last inductionHypothesis =>
      rcases last with ⟨token, takes⟩
      exact inductionHypothesis.trans takes.precedes

/-- Taking a token stays within one source. -/
theorem Takes.source_eq {state next : State} {token : Token}
    (takes : state.Takes token next) :
    next.lexer.source = state.lexer.source :=
  takes.precedes.source_eq

theorem Advances.source_eq {state next : State} (advances : state.Advances next) :
    next.lexer.source = state.lexer.source :=
  advances.precedes.source_eq

/-! ## Tokens that come from a lexer -/

/-- The token looked at came from a lexer, if only from that of an earlier source. -/
def Genuine (state : State) : Prop :=
  ∀ token, state.lookahead = some token → token.Spelled

theorem Genuine.spelled {state : State} (genuine : state.Genuine) {token : Token}
    (member : token ∈ state.pending) :
    token.Spelled := by
  cases held : state.lookahead with
  | none => simp [pending, held] at member
  | some first =>
      simp only [pending, held, List.mem_cons] at member
      rcases member with rfl | later
      · exact genuine token held
      · exact Lexer.spelled_of_mem_drain later

theorem genuine_of_none {state : State} (ended : state.lookahead = none) :
    state.Genuine := by
  intro token held
  simp [ended] at held

theorem Takes.genuine {state next : State} {token : Token}
    (takes : state.Takes token next) : next.Genuine := by
  rcases takes.cases with ⟨_, ⟨following, further, shorter, pulled, rfl⟩ |
    ⟨further, notLonger, pulled, rfl⟩⟩
  · intro other held
    cases held
    exact Lexer.spelled_of_next pulled
  · exact genuine_of_none rfl

theorem Advances.genuine {state next : State} (advances : state.Advances next)
    (genuine : state.Genuine) : next.Genuine := by
  induction advances with
  | refl => exact genuine
  | tail _ last _ =>
      rcases last with ⟨token, takes⟩
      exact takes.genuine

/-! ## The end of a source -/

/-- Where no token is looked at, the lexer has come to the end of its source. -/
def Settled (state : State) : Prop :=
  state.lookahead = none → state.lexer.rest = []

theorem Takes.settled {state next : State} {token : Token}
    (takes : state.Takes token next) : next.Settled := by
  rcases takes.cases with ⟨_, ⟨following, further, shorter, pulled, rfl⟩ |
    ⟨further, notLonger, pulled, rfl⟩⟩
  · rintro ⟨⟩
  · exact fun _ => Lexer.rest_of_finished pulled

theorem Advances.settled {state next : State} (advances : state.Advances next)
    (settled : state.Settled) : next.Settled := by
  induction advances with
  | refl => exact settled
  | tail _ last _ =>
      rcases last with ⟨token, takes⟩
      exact takes.settled

/-! ## Induction along the productions -/

/-- A property of all states that are later than one. -/
def Later (state : State) (property : State → Prop) : Prop :=
  ∀ next : State, next.weight < state.weight → property next

/-- What holds of a state as soon as it holds of all later ones holds of every state. -/
theorem descend {property : State → Prop}
    (step : ∀ state, state.Later property → property state) (state : State) :
    property state := by
  induction weighs : state.weight using Nat.strong_induction_on generalizing state with
  | _ weight inductionHypothesis =>
      refine step state fun next lighter => ?_
      exact inductionHypothesis next.weight (weighs ▸ lighter) next rfl

/--
A property of each production of expressions holds if it follows from what the
production calls: other productions on the same state, and all of them on later
states.
-/
theorem expression_induction
    {onAssignment : State → Prop} {onBinary onBinaryRest onOperand : Level → State → Prop}
    {onUnary onMember onMemberRest onPrimary onGrouping : State → Prop}
    (grouping : ∀ state, state.Later onAssignment → onGrouping state)
    (primary : ∀ state, onGrouping state → onPrimary state)
    (memberRest : ∀ state, state.Later onAssignment → state.Later onMemberRest →
      onMemberRest state)
    (member : ∀ state, onPrimary state → state.Later onMemberRest → onMember state)
    (unary : ∀ state, onMember state → state.Later onUnary → onUnary state)
    (innermost : ∀ level state, level.tighter? = none → onUnary state →
      onOperand level state)
    (inner : ∀ level tighter state, level.tighter? = some tighter → onBinary tighter state →
      onOperand level state)
    (binaryRest : ∀ level state, state.Later (onOperand level) →
      state.Later (onBinaryRest level) → onBinaryRest level state)
    (binary : ∀ level state, onOperand level state → state.Later (onBinaryRest level) →
      onBinary level state)
    (assignment : ∀ state, onBinary .logicalOr state → state.Later onAssignment →
      onAssignment state)
    (state : State) :
    onAssignment state ∧ (∀ level, onBinary level state) ∧ (∀ level, onOperand level state) ∧
      onUnary state ∧ onMember state ∧ onPrimary state ∧ onGrouping state := by
  -- The parts that follow an operand take no token, so they go along with the others.
  suffices all : (onAssignment state ∧ (∀ level, onBinary level state) ∧
      (∀ level, onOperand level state) ∧ onUnary state ∧ onMember state ∧ onPrimary state ∧
      onGrouping state) ∧ (∀ level, onBinaryRest level state) ∧ onMemberRest state from all.1
  induction state using descend with
  | step state later =>
      have laterAssignment : state.Later onAssignment :=
        fun next lighter => (later next lighter).1.1
      have laterMemberRest : state.Later onMemberRest :=
        fun next lighter => (later next lighter).2.2
      have laterBinaryRest : ∀ level, state.Later (onBinaryRest level) :=
        fun level next lighter => (later next lighter).2.1 level
      have ofGrouping := grouping state laterAssignment
      have ofPrimary := primary state ofGrouping
      have ofMember := member state ofPrimary laterMemberRest
      have ofUnary := unary state ofMember fun next lighter => (later next lighter).1.2.2.2.1
      have ofOperand : ∀ level, onOperand level state := by
        intro level
        induction steps : level.looseness generalizing level with
        | zero =>
            refine innermost level state ?_ ofUnary
            cases level <;> simp_all [Level.looseness, Level.tighter?]
        | succ looseness inductionHypothesis =>
            cases next : level.tighter? with
            | none => exact innermost level state next ofUnary
            | some tighter =>
                have tightens : tighter.looseness = looseness := by
                  cases level <;> cases next <;> simp_all [Level.looseness]
                exact inner level tighter state next
                  (binary tighter state (inductionHypothesis tighter tightens)
                    (laterBinaryRest tighter))
      have ofBinary : ∀ level, onBinary level state :=
        fun level => binary level state (ofOperand level) (laterBinaryRest level)
      have ofBinaryRest : ∀ level, onBinaryRest level state :=
        fun level => binaryRest level state
          (fun next lighter => (later next lighter).1.2.2.1 level)
          (laterBinaryRest level)
      exact ⟨⟨assignment state (ofBinary .logicalOr) laterAssignment, ofBinary, ofOperand,
        ofUnary, ofMember, ofPrimary, ofGrouping⟩, ofBinaryRest,
        memberRest state laterAssignment laterMemberRest⟩

/-- The same for the productions of statements that contain statements. -/
theorem statement_induction
    {onStatements : Option Kind → State → Prop} {onStatement onBlock : State → Prop}
    (block : ∀ state, state.Later (onStatements (some .closeCurly)) → onBlock state)
    (statement : ∀ state, onBlock state → state.Later onBlock → state.Later onStatement →
      onStatement state)
    (statements : ∀ stop state, onStatement state → state.Later (onStatements stop) →
      onStatements stop state)
    (state : State) :
    (∀ stop, onStatements stop state) ∧ onStatement state ∧ onBlock state := by
  induction state using descend with
  | step state later =>
      have ofBlock := block state fun next lighter => (later next lighter).1 _
      have ofStatement := statement state ofBlock
        (fun next lighter => (later next lighter).2.2)
        (fun next lighter => (later next lighter).2.1)
      exact ⟨fun stop => statements stop state ofStatement
        fun next lighter => (later next lighter).1 stop, ofStatement, ofBlock⟩

end State

/-! ## The token looked at -/

section Lookahead

variable {state : State} {kind : Kind}

theorem kind?_of_lookahead {token : Token} (held : state.lookahead = some token) :
    state.kind? = some token.kind := by
  rw [State.kind?, held, Option.map_some]

theorem position_of_lookahead {token : Token} (held : state.lookahead = some token) :
    state.position = token.start := by
  rw [State.position, held]

theorem exists_lookahead (held : state.kind? = some kind) :
    ∃ token, state.lookahead = some token ∧ token.kind = kind :=
  Option.map_eq_some_iff.1 held

end Lookahead

/-! ## Starting on a source -/

/-- A state that has looked at the first token of a source and taken none. -/
structure Loaded (source : Lexer) (state : State) : Prop where
  pending_eq : state.pending = source.drain.tokens
  blocked_eq : state.blocked = source.drain.failure
  source_eq : state.lexer.source = source.source
  genuine : state.Genuine
  settled : state.Settled

/-- A source is loaded, unless it starts with no token. -/
theorem load_loaded (state : State) (source : String) :
    (∃ diagnostic next, (Lexer.start source state.file).drain = ⟨[], some diagnostic⟩ ∧
      load state source = ⟨.error diagnostic, next⟩) ∨
    ∃ loaded, load state source = ⟨.ok (), loaded⟩ ∧
      Loaded (Lexer.start source state.file) loaded := by
  have same := (Lexer.start source state.file).source_next
  unfold load
  cases pulled : (Lexer.start source state.file).next with
  | token first further shorter =>
      right
      rw [pulled] at same
      refine ⟨_, rfl, ⟨?_, ?_, same, ?_, ?_⟩⟩
      · rw [Lexer.drain_of_token pulled]
        rfl
      · rw [Lexer.drain_of_token pulled]
        rfl
      · rintro _ ⟨⟩
        exact Lexer.spelled_of_next pulled
      · rintro ⟨⟩
  | finished further notLonger =>
      right
      rw [pulled] at same
      refine ⟨_, rfl, ⟨?_, ?_, same, State.genuine_of_none rfl, ?_⟩⟩
      · rw [Lexer.drain_of_finished pulled]
        rfl
      · rw [Lexer.drain_of_finished pulled]
        rfl
      · exact fun _ => Lexer.rest_of_finished pulled
  | rejected diagnostic further notLonger =>
      exact .inl ⟨diagnostic, _, Lexer.drain_of_rejected pulled, rfl⟩

/-- A source is read from its first token on, unless it starts with no token. -/
theorem parseFrom_cases (Node : Type) [Builder Node] (state : State) (source : String) :
    (∃ diagnostic, (Lexer.start source state.file).drain = ⟨[], some diagnostic⟩ ∧
      (parseFrom state source : Outcome Node).answer = .error diagnostic) ∨
    ∃ loaded, Loaded (Lexer.start source state.file) loaded ∧
      (parseFrom state source : Outcome Node) = (program loaded).outcome := by
  unfold parseFrom
  rcases load_loaded state source with
    ⟨diagnostic, next, drains, rejects⟩ | ⟨loaded, loads, isLoaded⟩
  · rw [rejects]
    exact .inl ⟨diagnostic, drains, rfl⟩
  · rw [loads]
    exact .inr ⟨loaded, isLoaded, rfl⟩

/-! ## Operands -/

variable {Node : Type} [Builder Node] {level tighter : Level}

theorem operand_of_tighter (next : level.tighter? = some tighter) (state : State) :
    (operand level state : Reply Node state.weight) = binary tighter state := by
  rw [operand]
  split
  · simp_all
  · simp_all

theorem operand_of_tightest (next : level.tighter? = none) (state : State) :
    (operand level state : Reply Node state.weight) = unary state := by
  rw [operand]
  split
  · simp_all
  · rfl

end Script.Parser
