import Script.Proofs.Progress
import Script.Proofs.Repair

/-!
# Checks that never fail

Three things are checked in productions although no source can make them fail: that a
number has a value, that there is a token to take, and that a literal stands where one is
read.  The first is true of every number that the lexer gives.  The second is looked at
before a token is taken, and the third before the production of literals is run.

So no production reports these causes, but for the production of literals itself, and no
source does.  Only a caller that takes a token or runs that production where it should
not meets them.
-/

namespace Script

/-! ## Where literals are asked for -/

namespace Machine

/-- A control in view of a kind: it asks for a literal on top only, where one comes next. -/
structure Control.Guarded (control : Control) (look : Option Kind) : Prop where
  orderly : control.Orderly
  placed : .goal .literal ∉ control.stack ∨
    ∃ others, control.stack = .goal .literal :: others ∧ .goal .literal ∉ others ∧
      look.any Kind.isLiteral = true

section Guarded

variable {goal : Goal} {assignable : Bool} {look : Option Kind} {parts : List Symbol}
  {control next : Control}

theorem statementForm_ne_literal (look : Option Kind) : statementForm look ≠ .literal := by
  unfold statementForm
  split <;> decide

theorem operand_ne_literal (level : Level) : operand level ≠ .literal := by
  cases level <;> decide

/-- A goal has a literal for a part only where a literal is looked at. -/
theorem literal_of_expand (orderly : (Symbol.goal goal).Orderly)
    (expands : goal.expand assignable look = .ok parts) :
    .goal .literal ∉ parts ∨ parts = [.goal .literal] ∧ look.any Kind.isLiteral = true := by
  cases goal <;> simp only [Goal.expand] at expands
  case primary =>
    split at expands
    · cases expands
      exact .inl (by simp)
    · cases expands
      exact .inl (by simp)
    · split at expands <;> cases expands
      next isLiteral => exact .inr ⟨rfl, isLiteral⟩
    · cases expands
  case statement =>
    cases expands
    exact .inl (by simpa using (statementForm_ne_literal look).symm)
  case binary level =>
    cases expands
    exact .inl (by simpa using (operand_ne_literal level).symm)
  case binaryRest level =>
    split at expands <;> cases expands
    · exact .inl (by simpa using (operand_ne_literal level).symm)
    · exact .inl (by simp)
  case separated item =>
    cases expands
    rcases orderly with rfl | rfl <;> exact .inl (by simp)
  case afterCommas item =>
    split at expands <;> cases expands
    · rcases orderly with rfl | rfl <;> exact .inl (by simp)
    · exact .inl (by simp)
  -- The parts of the other goals are given outright.
  all_goals
    repeat' split at expands
    all_goals
      cases expands
      try exact .inl (by simp)

/-- Below the top no literal is asked for. -/
theorem Control.Guarded.not_mem {symbol : Symbol} {below : List Symbol}
    (guarded : Control.Guarded ⟨assignable, symbol :: below⟩ look) : .goal .literal ∉ below := by
  rcases guarded.placed with absent | ⟨others, stack_eq, absent, _⟩
  · exact fun member => absent (List.mem_cons_of_mem _ member)
  · cases stack_eq
    exact absent

theorem Control.Guarded.idle (guarded : control.Guarded look)
    (moves : control.move look = .idle next) : next.Guarded look := by
  refine ⟨(guarded.orderly.idle moves).1, ?_⟩
  rcases control with ⟨assignable, _ | ⟨symbol, below⟩⟩
  · cases moves
  rcases next_of_idle moves with ⟨build, rfl, rfl⟩ | ⟨goal, parts, rfl, expands, rfl⟩
  · exact .inl guarded.not_mem
  · rcases literal_of_expand (List.forall_mem_cons.1 guarded.orderly).1 expands with
      absent | ⟨rfl, isLiteral⟩
    · exact .inl fun member => (List.mem_append.1 member).elim absent guarded.not_mem
    · exact .inr ⟨below, rfl, guarded.not_mem, isLiteral⟩

theorem Control.Guarded.shift (guarded : control.Guarded look)
    (moves : control.move look = .shift next) (following : Option Kind) :
    next.Guarded following := by
  refine ⟨(guarded.orderly.shift moves).1, .inl ?_⟩
  rcases control with ⟨assignable, _ | ⟨symbol, below⟩⟩
  · cases moves
  rcases next_of_shift moves with ⟨kind, _, _, rfl⟩
  exact guarded.not_mem

/-- Where a literal is asked for, one is looked at. -/
theorem Control.Guarded.isLiteral (guarded : control.Guarded look)
    (top : control.stack.head? = some (.goal .literal)) : look.any Kind.isLiteral = true := by
  rcases guarded.placed with absent | ⟨_, _, _, isLiteral⟩
  · exact absurd (List.mem_of_mem_head? top) absent
  · exact isLiteral

theorem Control.Guarded.not_refuse_literal (guarded : control.Guarded look) :
    control.move look ≠ .refuse .literal := by
  intro refuses
  rcases stack_of_refuse_literal refuses with ⟨top, notLiteral⟩
  rw [guarded.isLiteral top] at notLiteral
  cases notLiteral

/-- A machine that is set to anything but a literal asks for literals only in view of them. -/
theorem guarded_of_runs {kinds rest : List Kind} (orderly : (Symbol.goal goal).Orderly)
    (notLiteral : goal ≠ .literal) (runs : Runs ⟨assignable, [.goal goal]⟩ kinds control rest) :
    control.Guarded rest.head? := by
  have initial (look : Option Kind) : Control.Guarded ⟨assignable, [.goal goal]⟩ look :=
    ⟨List.forall_mem_singleton.2 orderly, .inl (by simpa using notLiteral.symm)⟩
  rcases @runs_induction _ (fun _ control look => control.Guarded look) initial
    Control.Guarded.idle Control.Guarded.shift _ _ _ runs with ⟨_, _, guarded⟩
  exact guarded

end Guarded

end Machine

/-! ## What is never reported -/

namespace Parser

open Machine

/-- What is reported only where a caller did not look before it asked. -/
def Defensive : Cause → Prop
  | .numberParseError _ => True
  | .unexpectedEndOfInput expected => expected = "token" ∨ expected = "literal"
  | _ => False

section Defensive

variable {state last next : State} {control : Control} {diagnostic : Diagnostic} {part : Part}

/-- No kind of token goes by a name that such a check reports. -/
theorem not_defensive_of_name (kind : Kind) : ¬Defensive (.unexpectedEndOfInput kind.name) := by
  rintro (isToken | isLiteral)
  · revert isToken
    cases kind <;> decide
  · revert isLiteral
    cases kind <;> decide

/-- The lexer complains about a character and nothing else. -/
theorem not_defensive_of_drain {lexer : Lexer} (stopped : lexer.drain.failure = some diagnostic) :
    ¬Defensive diagnostic.cause := by
  rcases Lexer.cause_of_drain stopped with ⟨character, cause_eq⟩
  rw [cause_eq]
  exact nofun

/-- Of the refusals only that of a literal is reported as the failure of such a check. -/
theorem Reports.eq_literal {refusal : Refusal} {look : Option Token} {cause : Cause}
    (reports : Reports refusal look cause) (defensive : Defensive cause) :
    refusal = .literal ∧ cause = .unexpectedEndOfInput "literal" := by
  cases reports with
  | ended expected => exact absurd defensive (not_defensive_of_name expected)
  | noExpression => simp [Defensive] at defensive
  | noLiteral => exact ⟨rfl, rfl⟩
  | otherKind | notExpression | notLiteral | notAssignable => cases defensive

theorem State.Starves.not_defensive (starves : state.Starves diagnostic next) :
    ¬Defensive diagnostic.cause := by
  have stopped := starves.blocks
  cases held : state.lookahead with
  | none => simp [State.blocked, held] at stopped
  | some token =>
      simp only [State.blocked, held] at stopped
      exact not_defensive_of_drain stopped

theorem Explains.refuses_literal (explains : Explains control last diagnostic next)
    (defensive : Defensive diagnostic.cause) :
    control.move last.kind? = .refuse .literal ∧
      diagnostic.cause = .unexpectedEndOfInput "literal" := by
  cases explains with
  | refused refuses reports =>
      rcases reports.eq_literal defensive with ⟨rfl, cause_eq⟩
      exact ⟨refuses, cause_eq⟩
  | starved _ starves => exact absurd defensive starves.not_defensive

theorem goal_eq_literal (isLiteral : part.goal = .literal) : part = .production .literal := by
  cases part with
  | production production =>
      cases production with
      | literal => rfl
      | operand level => exact absurd isLiteral (operand_ne_literal level)
      | _ => cases isLiteral
  | statements => cases isLiteral

/-- Only the production of literals reports the failure of a check, where no token is left. -/
theorem eq_literal_of_progresses {outcome : Outcome Unit}
    (progresses : Progresses part state outcome) (fails : outcome.answer = .error diagnostic)
    (defensive : Defensive diagnostic.cause) :
    part = .production .literal ∧ diagnostic.cause = .unexpectedEndOfInput "literal" := by
  cases progresses.settles with
  | done => cases fails
  | failed advances comes explains =>
      cases fails
      rcases explains.refuses_literal defensive with ⟨refuses, cause_eq⟩
      refine ⟨goal_eq_literal ?_, cause_eq⟩
      -- A machine set to anything else asks for a literal only in view of one.
      by_contra notLiteral
      have orderly := List.forall_mem_singleton.1 (orderly_start part state)
      have guarded := guarded_of_runs orderly notLiteral comes.reaches
      rw [State.head?_kinds] at guarded
      exact guarded.not_refuse_literal refuses

/-- Taking a token fails so only where there is none. -/
theorem lookahead_of_advance (fails : state.advance.outcome.answer = .error diagnostic)
    (defensive : Defensive diagnostic.cause) :
    state.lookahead = none ∧ diagnostic.cause = .unexpectedEndOfInput "token" := by
  cases held : state.lookahead with
  | none =>
      rw [State.advance_of_none held] at fails
      cases fails
      exact ⟨rfl, rfl⟩
  | some token =>
      rcases State.takes_or_starves held with ⟨next, lighter, takes⟩ | ⟨other, next, starves⟩
      · rw [takes] at fails
        cases fails
      · rw [starves.fails] at fails
        cases fails
        exact absurd defensive starves.not_defensive

theorem not_defensive_of_expect {kind : Kind}
    (fails : (state.expect kind).outcome.answer = .error diagnostic) :
    ¬Defensive diagnostic.cause := by
  intro defensive
  unfold State.expect at fails
  split at fails
  · cases fails
    exact not_defensive_of_name kind defensive
  · next held =>
      split at fails
      · cases held.symm.trans (lookahead_of_advance fails defensive).1
      · cases fails
        cases defensive

theorem not_defensive_of_source {source : String} {outcome : Outcome Unit}
    (ends : SourceEnds source state outcome) (fails : outcome.answer = .error diagnostic) :
    ¬Defensive diagnostic.cause := by
  intro defensive
  cases ends with
  | rejected rejects =>
      cases fails
      rcases load_loaded state source with ⟨other, next, drains, refuses⟩ | ⟨loaded, loads, _⟩
      · cases rejects.symm.trans refuses
        exact not_defensive_of_drain (congrArg Lexer.Stream.failure drains) defensive
      · cases rejects.symm.trans loads
  | read _ _ progresses =>
      cases (eq_literal_of_progresses progresses fails defensive).1

end Defensive

/-! ## Requests -/

section Requests

variable {mode : Mode} {file : Option String} {state : State} {diagnostic : Diagnostic}

/--
In any state that a parser comes to, only the two requests that are made without a look
at the next token fail for want of one: taking a token, and running the production of
literals.  No number is ever without a value.
-/
theorem request_of_defensive {request : Request} (reached : Reachable mode file state)
    (fails : (respondIn mode request state).answer = .error diagnostic)
    (defensive : Defensive diagnostic.cause) :
    request = .advance ∧ diagnostic.cause = .unexpectedEndOfInput "token" ∨
      request = .produce .literal ∧ diagnostic.cause = .unexpectedEndOfInput "literal" := by
  have progresses (part : Part) : Progresses part state (run mode part state) :=
    progresses_of_genuine mode part reached.genuine
  cases request with
  | parse source =>
      exact absurd defensive (not_defensive_of_source (source_ends mode source) fails)
  | produce production =>
      have runs : respondIn mode (.produce production) state =
          run mode (.production production) state := by
        cases mode <;> exact forget_map _ _
      rw [runs] at fails
      rcases eq_literal_of_progresses (progresses _) fails defensive with ⟨same, cause_eq⟩
      cases same
      exact .inr ⟨rfl, cause_eq⟩
  | statements stop =>
      have runs : respondIn mode (.statements stop) state = run mode (.statements stop) state := by
        cases mode <;> exact forget_map _ _
      rw [runs] at fails
      cases (eq_literal_of_progresses (progresses _) fails defensive).1
  | advance =>
      have failsInside : state.advance.outcome.answer = .error diagnostic := by
        cases mode <;> exact error_of_map (error_of_map fails)
      exact .inl ⟨rfl, (lookahead_of_advance failsInside defensive).2⟩
  | expect kind =>
      have failsInside : (state.expect kind).outcome.answer = .error diagnostic := by
        cases mode <;> exact error_of_map (error_of_map fails)
      exact absurd defensive (not_defensive_of_expect failsInside)

example : (respondIn .tree .advance (.initial none)).answer =
    .error ⟨.unexpectedEndOfInput "token", ⟨0, unnamedSource⟩⟩ := by
  decide +kernel

/--
No source, in either mode, is answered by one of the causes that only checks report; and
wherever the machine that reads it asks for a literal, it looks at one.
-/
theorem sources_meet_no_defence (mode : Mode) (state : State) (source : String) :
    (∀ diagnostic, (respondIn mode (.parse source) state).answer = .error diagnostic →
      (∀ text, diagnostic.cause ≠ .numberParseError text) ∧
        diagnostic.cause ≠ .unexpectedEndOfInput "token" ∧
          diagnostic.cause ≠ .unexpectedEndOfInput "literal") ∧
    ∀ loaded control rest, load state source = ⟨.ok (), loaded⟩ →
      Runs .initial loaded.kinds control rest →
        control.stack.head? = some (.goal .literal) → rest.head?.any Kind.isLiteral = true := by
  constructor
  · intro diagnostic fails
    have never := not_defensive_of_source (source_ends mode source) fails
    refine ⟨fun text isCause => ?_, fun isCause => ?_, fun isCause => ?_⟩
    · exact never (isCause ▸ trivial)
    · exact never (isCause ▸ .inl rfl)
    · exact never (isCause ▸ .inr rfl)
  · intro loaded control rest _ runs
    have orderly : (Symbol.goal .program).Orderly := trivial
    exact (guarded_of_runs orderly nofun runs).isLiteral

/-- A sum without its second operand lacks an expression, not a token or a literal. -/
theorem unfinished_sum_meets_no_defence :
    ∃ diagnostic, (respondIn .list (.parse "1 +") (.initial none)).answer = .error diagnostic ∧
      (∀ text, diagnostic.cause ≠ .numberParseError text) ∧
        diagnostic.cause ≠ .unexpectedEndOfInput "token" ∧
          diagnostic.cause ≠ .unexpectedEndOfInput "literal" := by
  have fails : (respondIn .list (.parse "1 +") (.initial none)).answer =
      .error ⟨.unexpectedEndOfInput "expression", ⟨3, unnamedSource⟩⟩ := by
    decide +kernel
  exact ⟨_, fails, (sources_meet_no_defence .list (.initial none) "1 +").1 _ fails⟩

end Requests

end Parser

end Script
