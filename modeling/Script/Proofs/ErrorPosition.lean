import Script.Proofs.Acceptance
import Script.Proofs.SpacedText
import Script.Proofs.Spans
import Script.Proofs.Viability

/-!
# Where errors are reported

A source is refused at the first token that no accepted program has in its place.
The tokens before it are the start of some accepted program, and no accepted
program starts with these tokens and the refused one.  A source that only ends
too early is refused at its end.

The stack machine says this of kinds.  Every kind has a text, so what the machine
reads to the end is also accepted as a source.
-/

namespace Script

/-! ## Kinds of accepted sources -/

/-- One of the texts of a kind. -/
def Kind.sample : Kind → String
  | .number => "0"
  | .string => "\"\""
  | .identifier => "x"
  | kind => kind.texts.head?.getD kind.name

theorem Kind.spells_sample (kind : Kind) : kind.Spells kind.sample.toList := by
  cases kind with
  | number => exact ⟨by decide, List.all_eq_true.1 rfl⟩
  | string => exact ⟨'"', [], by decide, by decide, by decide⟩
  | identifier => exact ⟨'x', [], by decide, by decide, by simp⟩
  | _ => exact (spells_iff_of_isShort rfl _).2 (by decide)

theorem Kind.standsAlone_sample (kind : Kind) : Lexeme.StandsAlone ⟨kind, kind.sample⟩ := by
  apply Lexeme.standsAlone_of_spells kind.spells_sample
  rintro rfl
  decide

namespace Parser

open Machine

/-- Some source with tokens of these kinds is accepted. -/
def Accepted (kinds : List Kind) : Prop :=
  ∃ (source : String) (file : Option String) (tokens : List Token) (tree : Tree),
    tokenize source file = .ok tokens ∧ tokens.map Token.kind = kinds ∧
      parse source file = .ok tree

/-- Some source is accepted whose tokens start with these kinds. -/
def Viable (kinds : List Kind) : Prop :=
  ∃ rest, Accepted (kinds ++ rest)

/-- A source is accepted where the machine reads all its kinds. -/
theorem parse_of_runs {source : String} {file : Option String} {tokens : List Token}
    {after : Bool} (lexes : tokenize source file = .ok tokens)
    (runs : Runs .initial (tokens.map Token.kind) ⟨after, []⟩ []) :
    ∃ tree : Tree, parse source file = .ok tree := by
  rcases tokenize_eq_ok_iff.1 lexes with ⟨complete, rfl⟩
  unfold parse
  rcases parseFrom_cases Tree (State.initial file) source with
    ⟨diagnostic, drains, _⟩ | ⟨loaded, isLoaded, answers⟩
  · rw [show (Lexer.start source file).drain = _ from drains] at complete
    cases complete
  · have unblocked : loaded.blocked = none := isLoaded.blocked_eq.trans complete
    have kinds_eq : loaded.kinds = (Lexer.start source file).drain.tokens.map Token.kind := by
      rw [State.kinds, isLoaded.pending_eq]
      rfl
    rw [← kinds_eq] at runs
    rcases accepts_of_runs isLoaded.genuine unblocked runs with ⟨tree, next, lighter, accepts⟩
    exact ⟨tree, by rw [answers, accepts]; rfl⟩

/-- Accepted kinds are those that the machine reads to the end. -/
theorem accepted_iff_runs {kinds : List Kind} :
    Accepted kinds ↔ ∃ after, Runs .initial kinds ⟨after, []⟩ [] := by
  constructor
  · rintro ⟨source, file, tokens, tree, lexes, rfl, accepts⟩
    rcases parse_eq_ok_iff.1 accepts with ⟨others, lexesOthers, derives⟩
    cases lexes.symm.trans lexesOthers
    have runs := runs_of_derives derives
    rwa [List.map_map] at runs
  · rintro ⟨after, runs⟩
    have alone : ∀ lexeme ∈ kinds.map fun kind => Lexeme.mk kind kind.sample,
        lexeme.StandsAlone := by
      intro lexeme member
      rcases List.mem_map.1 member with ⟨kind, _, rfl⟩
      exact kind.standsAlone_sample
    rcases tokenize_spaced alone none with ⟨tokens, lexes, lexemes_eq⟩
    have kinds_eq : tokens.map Token.kind = kinds := by
      have mapped := congrArg (List.map Lexeme.kind) lexemes_eq
      simpa [Function.comp_def, Token.lexeme] using mapped
    rw [← kinds_eq] at runs
    rcases parse_of_runs lexes runs with ⟨tree, accepts⟩
    exact ⟨_, none, tokens, tree, lexes, kinds_eq, accepts⟩

theorem viable_iff_runs {kinds : List Kind} :
    Viable kinds ↔ ∃ rest after, Runs .initial (kinds ++ rest) ⟨after, []⟩ [] := by
  simp only [Viable, accepted_iff_runs]

/-! ## What is wrong with a source -/

theorem Reports.grammatical {refusal : Refusal} {look : Option Token} {cause : Cause}
    (reports : Reports refusal look cause) :
    cause.stage = .grammatical := by
  cases reports <;> rfl

theorem Reports.not_end {refusal : Refusal} {token : Token} {cause : Cause}
    (reports : Reports refusal (some token) cause) (expected : String) :
    cause ≠ .unexpectedEndOfInput expected := by
  cases reports <;> simp

theorem Reports.isEnd {refusal : Refusal} {cause : Cause}
    (reports : Reports refusal none cause) :
    ∃ expected, cause = .unexpectedEndOfInput expected := by
  cases reports with
  | ended expected => exact ⟨_, rfl⟩
  | noExpression => exact ⟨_, rfl⟩
  | noLiteral => exact ⟨_, rfl⟩

/-- What a diagnostic about a source can mean. -/
inductive Wrong (source : Lexer) : Diagnostic → Prop where
  /-- The tokens are the start of a program, and what follows them is no token. -/
  | text {diagnostic : Diagnostic}
      (stopped : source.drain.failure = some diagnostic)
      (viable : Viable (source.drain.tokens.map Token.kind)) :
      Wrong source diagnostic
  /-- A program cannot go on with a token. -/
  | token {cause : Cause} {token : Token} {front back : List Token}
      (tokens_eq : source.drain.tokens = front ++ token :: back)
      (grammatical : cause.stage = .grammatical)
      (notEnd : ∀ expected, cause ≠ .unexpectedEndOfInput expected)
      (viable : Viable (front.map Token.kind))
      (dead : ¬Viable (front.map Token.kind ++ [token.kind])) :
      Wrong source ⟨cause, token.start⟩
  /-- The tokens are only the start of a program. -/
  | ending {position : Position} (expected : String)
      (complete : source.drain.failure = none)
      (atEnd : position.offset = (Text.byteLength source.source).toUInt32)
      (viable : Viable (source.drain.tokens.map Token.kind))
      (unfinished : ¬Accepted (source.drain.tokens.map Token.kind)) :
      Wrong source ⟨.unexpectedEndOfInput expected, position⟩

/-- A state in the middle of a source that the machine has come to. -/
structure Amid (source : Lexer) (control : Control) (taken : List Token) (last : State) :
    Prop where
  tokens_eq : source.drain.tokens = taken ++ last.pending
  failure_eq : source.drain.failure = last.blocked
  source_eq : last.lexer.source = source.source
  settled : last.Settled
  reached : Reached (taken.map Token.kind) control last.kind?

/-- Where the machine comes to in a source, it has read the tokens taken so far. -/
theorem amid_of_runs {source : Lexer} {loaded last : State} {control : Control}
    (isLoaded : Loaded source loaded) (advances : loaded.Advances last)
    (runs : Runs .initial loaded.kinds control last.kinds) :
    ∃ taken, Amid source control taken last := by
  rcases advances.pending_eq with ⟨taken, splits⟩
  rcases reached_of_runs runs with ⟨read, kinds_eq, reached⟩
  have read_eq : read = taken.map Token.kind := by
    rw [State.kinds, splits, List.map_append] at kinds_eq
    exact (List.append_cancel_right kinds_eq).symm
  rw [read_eq, State.head?_kinds] at reached
  exact ⟨taken, isLoaded.pending_eq.symm.trans splits,
    isLoaded.blocked_eq.symm.trans advances.blocked_eq.symm,
    advances.source_eq.trans isLoaded.source_eq, advances.settled isLoaded.settled, reached⟩

section Amid

variable {source : Lexer} {control : Control} {taken : List Token} {last : State}

theorem Amid.viable (amid : Amid source control taken last) :
    Viable (taken.map Token.kind) :=
  viable_iff_runs.2 amid.reached.viable

/-- A token that the machine refuses has no place behind those that it has read. -/
theorem Amid.wrong_of_token {refusal : Refusal} {cause : Cause} {token : Token}
    (amid : Amid source control taken last) (held : last.lookahead = some token)
    (refuses : control.move last.kind? = .refuse refusal)
    (reports : Reports refusal last.lookahead cause) :
    Wrong source ⟨cause, last.position⟩ := by
  have position_eq : last.position = token.start := by rw [State.position, held]
  have kind_eq : last.kind? = some token.kind := by rw [State.kind?, held]; rfl
  have pending_eq : last.pending = token :: last.lexer.drain.tokens := by
    rw [State.pending, held]
  rw [held] at reports
  rw [position_eq]
  refine .token (pending_eq ▸ amid.tokens_eq) reports.grammatical reports.not_end
    amid.viable ?_
  rintro viable
  rcases viable_iff_runs.1 viable with ⟨rest, after, runs⟩
  rw [List.append_assoc] at runs
  have looks : ([token.kind] ++ rest).head? = last.kind? := kind_eq.symm
  exact amid.reached.not_runs refuses looks after runs

/-- Where no token is looked at, the whole source lies behind. -/
theorem Amid.offset_of_end (amid : Amid source control taken last)
    (ended : last.lookahead = none) :
    last.lexer.offset = Text.byteLength source.source := by
  rw [← amid.source_eq, ← last.lexer.offset_add_byteLength, amid.settled ended]
  rfl

theorem Amid.position_of_end (amid : Amid source control taken last)
    (short : Text.byteLength source.source < UInt32.size) (ended : last.lookahead = none) :
    last.position.offset.toNat = Text.byteLength source.source := by
  rw [State.position, ended, Lexer.position, Lexer.toNat_offset (amid.source_eq ▸ short)]
  exact amid.offset_of_end ended

/-- Where the machine refuses the end, more tokens had to follow. -/
theorem Amid.wrong_of_end {refusal : Refusal} {cause : Cause}
    (amid : Amid source control taken last) (ended : last.lookahead = none)
    (refuses : control.move last.kind? = .refuse refusal)
    (reports : Reports refusal last.lookahead cause) :
    Wrong source ⟨cause, last.position⟩ := by
  have tokens_eq : source.drain.tokens = taken := by
    rw [amid.tokens_eq, State.pending_eq_nil.2 ended, List.append_nil]
  have kind_eq : last.kind? = none := by rw [State.kind?, ended]; rfl
  have offset_eq := amid.offset_of_end ended
  rw [ended] at reports
  rcases reports.isEnd with ⟨expected, rfl⟩
  refine .ending expected ?_ ?_ ?_ ?_
  · rw [amid.failure_eq, State.blocked, ended]
  · rw [State.position, ended, ← offset_eq]
    rfl
  · rw [tokens_eq]
    exact amid.viable
  · rw [tokens_eq, accepted_iff_runs]
    rintro ⟨after, runs⟩
    rw [← List.append_nil (taken.map Token.kind)] at runs
    have looks : ([] : List Kind).head? = last.kind? := kind_eq.symm
    exact amid.reached.not_runs refuses looks after runs

/-- The last token before a text that is no token has been read, too. -/
theorem Amid.wrong_of_starves {further : Control} {diagnostic : Diagnostic} {next : State}
    (amid : Amid source control taken last)
    (shifts : control.move last.kind? = .shift further)
    (starves : last.Starves diagnostic next) :
    Wrong source diagnostic := by
  cases held : last.lookahead with
  | none =>
      rw [State.kind?, held] at shifts
      exact absurd shifts (move_none_ne_shift control further)
  | some token =>
      have kind_eq : last.kind? = some token.kind := by rw [State.kind?, held]; rfl
      have pending_eq : last.pending = [token] := by
        have alone := starves.last
        rw [State.pending, held] at alone ⊢
        rw [List.tail_cons] at alone
        rw [alone]
      have reached := amid.reached
      rw [kind_eq] at reached shifts
      refine .text (amid.failure_eq.trans starves.blocks) ?_
      rw [amid.tokens_eq, pending_eq, List.map_append]
      exact viable_iff_runs.2 (reached.shift shifts none).viable

end Amid

/-- A source is refused before its first token, or in the middle by the machine. -/
theorem explained_of_parse {source : String} {file : Option String} {diagnostic : Diagnostic}
    (fails : (parse source file : Except Diagnostic Tree) = .error diagnostic) :
    (Lexer.start source file).drain = ⟨[], some diagnostic⟩ ∨
      ∃ control taken last next, Amid (Lexer.start source file) control taken last ∧
        Explains control last diagnostic next := by
  unfold parse at fails
  rcases parseFrom_cases Tree (State.initial file) source with
    ⟨other, drains, answers⟩ | ⟨loaded, isLoaded, answers⟩
  · cases answers.symm.trans fails
    exact .inl drains
  · right
    rw [answers] at fails
    have follows := program_performs loaded false isLoaded.genuine
    cases reply : (program loaded : Reply Tree (loaded.weight + 1)) with
    | ok tree next lighter =>
        rw [reply] at fails
        cases fails
    | fail other next =>
        rw [reply] at fails follows
        cases fails
        rcases follows with ⟨last, advances, stops⟩
        rcases stops [] with ⟨control, runs, explains⟩
        rcases amid_of_runs isLoaded advances runs with ⟨taken, amid⟩
        exact ⟨control, taken, last, next, amid, explains⟩

/-- Every diagnostic says what is wrong with its source. -/
theorem wrong_of_parse {source : String} {file : Option String} {diagnostic : Diagnostic}
    (fails : (parse source file : Except Diagnostic Tree) = .error diagnostic) :
    Wrong (Lexer.start source file) diagnostic := by
  rcases explained_of_parse fails with drains | ⟨control, taken, last, next, amid, explains⟩
  · refine .text (by rw [drains]) ?_
    rw [drains]
    exact viable_iff_runs.2 (reached_initial none).viable
  · cases explains with
    | refused refuses reports =>
        cases held : last.lookahead with
        | none => exact amid.wrong_of_end held refuses reports
        | some token => exact amid.wrong_of_token held refuses reports
    | starved shifts starves => exact amid.wrong_of_starves shifts starves

/-! ## The first token that makes a source unrecoverable -/

/-- The kinds of the tokens that lie before a position of a source. -/
def kindsBefore (source : String) (file : Option String) (position : Position) : List Kind :=
  ((Lexer.start source file).drain.tokens.filter (Token.liesBefore position)).map Token.kind

/-- A diagnostic stands at the first token of a source that no program goes on with. -/
structure MarksFirstFault (source : String) (file : Option String) (diagnostic : Diagnostic) :
    Prop where
  /-- What lies before it is the start of an accepted program. -/
  viable : Viable (kindsBefore source file diagnostic.position)
  /-- With the token that it stands at, this is the start of none. -/
  dead : diagnostic.cause.stage = .grammatical →
    (∀ expected, diagnostic.cause ≠ .unexpectedEndOfInput expected) →
      ∃ front token back,
        (Lexer.start source file).drain.tokens = front ++ token :: back ∧
          token.start = diagnostic.position ∧
            kindsBefore source file diagnostic.position = front.map Token.kind ∧
              ¬Viable (kindsBefore source file diagnostic.position ++ [token.kind])
  /-- Where it complains about the end, all tokens lie before it and are not enough. -/
  unfinished : ∀ expected, diagnostic.cause = .unexpectedEndOfInput expected →
    ∃ tokens, tokenize source file = .ok tokens ∧
      kindsBefore source file diagnostic.position = tokens.map Token.kind ∧
        ¬Accepted (tokens.map Token.kind)

/--
Errors are reported neither too early nor too late: every diagnostic stands at the
first token that makes its source unrecoverable.
-/
theorem error_marks_first_fault {source : String} {file : Option String}
    {diagnostic : Diagnostic} (short : source.utf8ByteSize < 2 ^ 32)
    (fails : (parse source file : Except Diagnostic Tree) = .error diagnostic) :
    MarksFirstFault source file diagnostic := by
  have size : Text.byteLength (Lexer.start source file).source < UInt32.size := by
    rw [← Text.byteLength_toList] at short
    exact short
  have ordered := Lexer.inOrder_drain size
  cases wrong_of_parse fails with
  | text stopped viable =>
      -- The lexer is stopped behind all tokens.
      have before : kindsBefore source file diagnostic.position =
          (Lexer.start source file).drain.tokens.map Token.kind := by
        rw [Lexer.limit, stopped] at ordered
        rw [kindsBefore, ordered.filter_eq_self (Nat.le_refl _)]
      rcases Lexer.cause_of_drain stopped with ⟨character, cause_eq⟩
      refine ⟨before ▸ viable, ?_, ?_⟩
      · rw [cause_eq]
        rintro ⟨⟩
      · rw [cause_eq]
        rintro expected ⟨⟩
  | @token cause token front back tokens_eq grammatical notEnd viable dead =>
      have before : kindsBefore source file token.start = front.map Token.kind := by
        rw [tokens_eq] at ordered
        rw [kindsBefore, tokens_eq, ordered.filter_start]
      refine ⟨before ▸ viable, fun _ _ => ?_, fun expected isEnd => ?_⟩
      · exact ⟨front, token, back, tokens_eq, rfl, before, before ▸ dead⟩
      · exact absurd isEnd (notEnd expected)
  | @ending position expected complete atEnd viable unfinished =>
      have before : kindsBefore source file position =
          (Lexer.start source file).drain.tokens.map Token.kind := by
        rw [Lexer.limit, complete] at ordered
        rw [kindsBefore, ordered.filter_eq_self]
        rw [atEnd]
        exact Nat.le_of_eq (UInt32.toNat_ofNat_of_lt' size).symm
      refine ⟨before ▸ viable, fun _ notEnd => ?_, fun _ _ => ?_⟩
      · exact absurd rfl (notEnd expected)
      · exact ⟨_, tokenize_eq_ok_iff.2 ⟨complete, rfl⟩, before, unfinished⟩

/-- A second assignment, to a number, is refused at its operator and no earlier. -/
theorem repeated_assignment_marked :
    Viable [.identifier, .simpleAssign, .number] ∧
      ¬Viable [.identifier, .simpleAssign, .number, .simpleAssign] := by
  have fails : (parse "x = 1 = 2;" none : Except Diagnostic Tree) =
      .error ⟨.invalidAssignmentTarget "NumericLiteral", ⟨6, unnamedSource⟩⟩ := by
    decide +kernel
  have kinds_eq : (Lexer.start "x = 1 = 2;" none).drain.tokens.map Token.kind =
      [.identifier, .simpleAssign, .number, .simpleAssign, .number, .semicolon] := by
    decide +kernel
  have before : kindsBefore "x = 1 = 2;" none ⟨6, unnamedSource⟩ =
      [.identifier, .simpleAssign, .number] := by
    decide +kernel
  have marks := error_marks_first_fault (by decide) fails
  refine ⟨before ▸ marks.viable, ?_⟩
  rcases marks.dead rfl (by simp) with ⟨front, token, back, tokens_eq, _, front_eq, dead⟩
  rw [tokens_eq, List.map_append, ← front_eq, before] at kinds_eq
  have refused : token.kind = .simpleAssign := by
    simp only [List.map_cons, List.cons_append, List.nil_append, List.cons.injEq, true_and]
      at kinds_eq
    exact kinds_eq.1
  rw [before, refused] at dead
  exact dead

end Parser

end Script
