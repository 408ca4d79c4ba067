import Script.Proofs.Completeness

/-!
# Every prefix that the machine has read can be completed

The machine expands a goal in view of the next kind, and it may find out only
afterwards that it cannot take that kind.  What it has taken so far is still the
start of something that it reads to the end: below each symbol of its stack
stands something that can be read next, and that the symbol does not mistake for
a part of itself.  This holds of the first stack and is kept by every move.
-/

namespace Script.Machine

open Semantics

/-! ## Completing a stack -/

/-- A stack can be read to the end, from some kinds of which the first is given. -/
def Ends (stack : List Symbol) (look : Option Kind) : Prop :=
  ∀ assignable, ∃ kinds after,
    kinds.head? = look ∧ Runs ⟨assignable, stack⟩ kinds ⟨after, []⟩ []

/-- Whether nothing takes a kind for its continuation. -/
def calm (look : Option Kind) : Bool :=
  EndsExpression look ∧ look ≠ some .comma ∧ look ≠ some .elseWord

/-- Whether a symbol can be completed in front of a kind. -/
def Allows : Symbol → Option Kind → Prop
  | .take _, _ | .keep _, _ | .build _, _ | .goal .name, _ => True
  | .goal .program, look => look = none
  | .goal (.statements stop), look => look = stop ∧ calm look = true
  | .goal (.separated item), look | .goal (.afterCommas item), look =>
      (item = .declaration ∨ item = .name) ∧ calm look = true
  | .goal (.expressionUnless stop), look => stop ≠ .identifier ∧ calm look = true
  | .goal _, look => calm look = true

/-- The first kind of a symbol that is completed in front of a kind. -/
def opening : Symbol → Option Kind → Option Kind
  | .take kind, _ | .keep kind, _ => some kind
  | .build _, look => look
  | .goal goal, look =>
      match goal with
      | .program | .statements _ | .alternate | .afterCommas _ | .assigned
      | .binaryRest _ | .memberRest => look
      | .statement | .emptyStatement => some .semicolon
      | .block => some .openCurly
      | .declarationStatement | .declarations => some .letWord
      | .conditional => some .ifWord
      | .whileLoop => some .whileWord
      | .doWhileLoop => some .doWord
      | .forLoop => some .forWord
      | .function => some .defWord
      | .returnStatement => some .returnWord
      | .condition | .grouping => some .openParen
      | .initialiser => some .simpleAssign
      | .literal => some .nullWord
      | _ => some .identifier

section Ends

variable {stack : List Symbol} {look : Option Kind}

theorem Ends.take {kind : Kind} (ends : Ends stack look) :
    Ends (.take kind :: stack) (some kind) := by
  intro assignable
  rcases ends assignable with ⟨kinds, after, _, runs⟩
  exact ⟨kind :: kinds, after, rfl, Reaches.trans (reaches_take rfl) runs⟩

theorem Ends.keep {kind : Kind} (ends : Ends stack look) :
    Ends (.keep kind :: stack) (some kind) := by
  intro assignable
  rcases ends assignable with ⟨kinds, after, _, runs⟩
  exact ⟨kind :: kinds, after, rfl, Reaches.trans (reaches_keep rfl) runs⟩

theorem Ends.build {build : Build} (ends : Ends stack look) :
    Ends (.build build :: stack) look := by
  intro assignable
  rcases ends (build.leaves assignable) with ⟨kinds, after, looks, runs⟩
  exact ⟨kinds, after, looks, Reaches.trans reaches_build runs⟩

theorem Ends.goal {goal : Goal} {parts : List Symbol}
    (expands : ∀ assignable, goal.expand assignable look = .ok parts)
    (ends : Ends (parts ++ stack) look) :
    Ends (.goal goal :: stack) look := by
  intro assignable
  rcases ends assignable with ⟨kinds, after, looks, runs⟩
  refine ⟨kinds, after, looks, Reaches.trans (reaches_goal ?_) runs⟩
  rw [looks, map_kind_onKinds]
  exact expands assignable

theorem Ends.skip {goal : Goal} (expands : ∀ assignable, goal.expand assignable look = .ok [])
    (ends : Ends stack look) :
    Ends (.goal goal :: stack) look :=
  .goal expands ends

theorem calm_iff : calm look = true ↔
    EndsExpression look ∧ look ≠ some .comma ∧ look ≠ some .elseWord := by
  simp [calm]

theorem ends_name (ends : Ends stack look) :
    Ends (.goal .name :: stack) (some .identifier) :=
  .goal (fun _ => rfl) ends.build.keep

theorem ends_primary (ends : Ends stack look) :
    Ends (.goal .primary :: stack) (some .identifier) :=
  .goal (fun _ => rfl) (ends_name ends)

theorem ends_memberRest (isCalm : calm look = true) (ends : Ends stack look) :
    Ends (.goal .memberRest :: stack) look :=
  .goal (fun _ => expand_memberRest (calm_iff.1 isCalm).1.1) ends

theorem ends_member (isCalm : calm look = true) (ends : Ends stack look) :
    Ends (.goal .member :: stack) (some .identifier) :=
  .goal (fun _ => rfl) (ends_primary (ends_memberRest isCalm ends))

theorem ends_unary (isCalm : calm look = true) (ends : Ends stack look) :
    Ends (.goal .unary :: stack) (some .identifier) :=
  .goal (fun _ => rfl) (ends_member isCalm ends)

theorem ends_binaryRest {level : Level} (isCalm : calm look = true) (ends : Ends stack look) :
    Ends (.goal (.binaryRest level) :: stack) look := by
  refine .skip (fun _ => ?_) ends
  rw [Goal.expand, if_neg]
  simp [(calm_iff.1 isCalm).1.2.1]

theorem ends_binary {level : Level} (isCalm : calm look = true) (ends : Ends stack look) :
    Ends (.goal (.binary level) :: stack) (some .identifier) := by
  induction steps : level.looseness using Nat.strong_induction_on
    generalizing level stack with
  | _ looseness inductionHypothesis =>
      refine .goal (fun _ => rfl) ?_
      have rest : Ends (.goal (.binaryRest level) :: stack) look := ends_binaryRest isCalm ends
      cases next : level.tighter? with
      | none =>
          rw [operand, next]
          exact ends_unary isCalm rest
      | some tighter =>
          rw [operand, next]
          have tightens := Level.looseness_lt_of_tighter? next
          exact inductionHypothesis tighter.looseness (steps ▸ tightens) rest rfl

theorem ends_assigned (isCalm : calm look = true) (ends : Ends stack look) :
    Ends (.goal .assigned :: stack) look := by
  refine .skip (fun _ => ?_) ends
  have notAssigning := (calm_iff.1 isCalm).1.2.2
  cases look with
  | none => rfl
  | some kind => simp_all [Goal.expand]

theorem ends_expression (isCalm : calm look = true) (ends : Ends stack look) :
    Ends (.goal .expression :: stack) (some .identifier) :=
  .goal (fun _ => rfl) (ends_binary isCalm (ends_assigned isCalm ends))

/-- What may be followed by commas is completed without one. -/
theorem ends_afterCommas {item : Goal} (isCalm : calm look = true) (ends : Ends stack look) :
    Ends (.goal (.afterCommas item) :: stack) look := by
  have parts : ∀ assignable,
      (Goal.afterCommas item).expand assignable look = .ok [.build .nothing] :=
    fun _ => if_neg (calm_iff.1 isCalm).2.1
  exact .goal parts ends.build

theorem ends_initialiser (isCalm : calm look = true) (ends : Ends stack look) :
    Ends (.goal .initialiser :: stack) (some .simpleAssign) :=
  .goal (fun _ => rfl) (ends_expression isCalm ends).take

theorem ends_declaration (isCalm : calm look = true) (ends : Ends stack look) :
    Ends (.goal .declaration :: stack) (some .identifier) :=
  .goal (fun _ => rfl) (ends_name (ends_initialiser isCalm ends.build))

theorem ends_separated {item : Goal} (isItem : item = .declaration ∨ item = .name)
    (isCalm : calm look = true) (ends : Ends stack look) :
    Ends (.goal (.separated item) :: stack) (some .identifier) := by
  refine .goal (fun _ => rfl) ?_
  have others : Ends (.goal (.afterCommas item) :: .build .cons :: stack) look :=
    ends_afterCommas isCalm ends.build
  rcases isItem with rfl | rfl
  · exact ends_declaration isCalm others
  · exact ends_name others

theorem ends_declarations (isCalm : calm look = true) (ends : Ends stack look) :
    Ends (.goal .declarations :: stack) (some .letWord) :=
  .goal (fun _ => rfl) (ends_separated (.inl rfl) isCalm ends.build).take

theorem ends_expressionUnless (stop : Kind) (notName : stop ≠ .identifier)
    (isCalm : calm look = true) (ends : Ends stack look) :
    Ends (.goal (.expressionUnless stop) :: stack) (some .identifier) := by
  have parts : ∀ assignable,
      (Goal.expressionUnless stop).expand assignable (some .identifier) =
        .ok [.goal .expression] :=
    fun _ => if_neg (by simpa using notName.symm)
  exact .goal parts (ends_expression isCalm ends)

theorem ends_loopStart (isCalm : calm look = true) (ends : Ends stack look) :
    Ends (.goal .loopStart :: stack) (some .identifier) :=
  .goal (fun _ => rfl) (ends_expressionUnless .semicolon (by decide) isCalm ends)

theorem ends_returnedValue (isCalm : calm look = true) (ends : Ends stack look) :
    Ends (.goal .returnedValue :: stack) (some .identifier) :=
  .goal (fun _ => rfl) (ends_expressionUnless .semicolon (by decide) isCalm ends)

theorem ends_parameters (isCalm : calm look = true) (ends : Ends stack look) :
    Ends (.goal .parameters :: stack) (some .identifier) :=
  .goal (fun _ => rfl) (ends_separated (.inr rfl) isCalm ends)

theorem ends_condition (ends : Ends stack look) :
    Ends (.goal .condition :: stack) (some .openParen) :=
  .goal (fun _ => rfl) (ends_expression rfl ends.take).take

theorem ends_statement (ends : Ends stack look) :
    Ends (.goal .statement :: stack) (some .semicolon) :=
  .goal (fun _ => rfl) (.goal (fun _ => rfl) ends.build.take)

theorem ends_statements {stop : Option Kind} (isStop : look = stop) (ends : Ends stack look) :
    Ends (.goal (.statements stop) :: stack) look := by
  have parts : ∀ assignable,
      (Goal.statements stop).expand assignable look = .ok [.build .nothing] :=
    fun _ => if_pos (.inr isStop)
  exact .goal parts ends.build

theorem ends_block (ends : Ends stack look) :
    Ends (.goal .block :: stack) (some .openCurly) :=
  .goal (fun _ => rfl) (ends_statements rfl ends.build.take).take

theorem ends_alternate (isCalm : calm look = true) (ends : Ends stack look) :
    Ends (.goal .alternate :: stack) look := by
  have parts : ∀ assignable, Goal.alternate.expand assignable look = .ok [.build .nothing] :=
    fun _ => if_neg (calm_iff.1 isCalm).2.2
  exact .goal parts ends.build

/-- A symbol on top of a stack that can be completed can be completed with it. -/
theorem Ends.cons {symbol : Symbol} (ends : Ends stack look) (allows : Allows symbol look) :
    Ends (symbol :: stack) (opening symbol look) := by
  cases symbol with
  | take kind => exact ends.take
  | keep kind => exact ends.keep
  | build build => exact ends.build
  | goal goal =>
      cases goal with
      | program => exact .goal (fun _ => rfl) (ends_statements allows ends.build)
      | statements stop => exact ends_statements allows.1 ends
      | statement => exact ends_statement ends
      | emptyStatement => exact .goal (fun _ => rfl) ends.build.take
      | block => exact ends_block ends
      | expressionStatement =>
          exact .goal (fun _ => rfl) (ends_expression rfl ends.build.take)
      | declarationStatement =>
          exact .goal (fun _ => rfl) (ends_declarations rfl ends.take)
      | conditional =>
          exact .goal (fun _ => rfl)
            (ends_condition (ends_statement (ends_alternate allows ends.build))).take
      | alternate => exact ends_alternate allows ends
      | whileLoop =>
          exact .goal (fun _ => rfl) (ends_condition (ends_statement ends.build)).take
      | doWhileLoop =>
          exact .goal (fun _ => rfl)
            (ends_statement (ends_condition ends.build.take).take).take
      | forLoop =>
          have ofUpdate : Ends (.goal (.expressionUnless .closeParen) :: .take .closeParen ::
              .goal .statement :: .build .forLoop :: stack) (some .identifier) :=
            ends_expressionUnless .closeParen (by decide) rfl (ends_statement ends.build).take
          have ofTest : Ends (.goal (.expressionUnless .semicolon) :: .take .semicolon :: _)
              (some .identifier) :=
            ends_expressionUnless .semicolon (by decide) rfl ofUpdate.take
          exact .goal (fun _ => rfl) (ends_loopStart rfl ofTest.take).take.take
      | function =>
          exact .goal (fun _ => rfl)
            (ends_name (ends_parameters rfl (ends_block ends.build).take).take).take
      | returnStatement =>
          exact .goal (fun _ => rfl) (ends_returnedValue rfl ends.build.take).take
      | condition => exact ends_condition ends
      | declarations => exact ends_declarations allows ends
      | separated item => exact ends_separated allows.1 allows.2 ends
      | afterCommas item => exact ends_afterCommas allows.2 ends
      | declaration => exact ends_declaration allows ends
      | initialiser => exact ends_initialiser allows ends
      | loopStart => exact ends_loopStart allows ends
      | expressionUnless stop => exact ends_expressionUnless stop allows.1 allows.2 ends
      | returnedValue => exact ends_returnedValue allows ends
      | parameters => exact ends_parameters allows ends
      | expression => exact ends_expression allows ends
      | assigned => exact ends_assigned allows ends
      | binary level => exact ends_binary allows ends
      | binaryRest level => exact ends_binaryRest allows ends
      | unary => exact ends_unary allows ends
      | member => exact ends_member allows ends
      | memberRest => exact ends_memberRest allows ends
      | primary => exact ends_primary ends
      | grouping => exact .goal (fun _ => rfl) (ends_expression rfl ends.take).take
      | name => exact ends_name ends
      | literal => exact .goal (fun _ => rfl) ends.build.keep

end Ends

/-! ## What every move keeps -/

/-- Each symbol of a stack can be completed in front of what stands below it. -/
inductive Kept : List Symbol → Option Kind → Prop where
  | nil : Kept [] none
  | cons {symbol : Symbol} {stack : List Symbol} {look : Option Kind}
      (below : Kept stack look) (allows : Allows symbol look) :
      Kept (symbol :: stack) (opening symbol look)

theorem Kept.ends {stack : List Symbol} {look : Option Kind} (kept : Kept stack look) :
    Ends stack look := by
  induction kept with
  | nil => exact fun assignable => ⟨[], assignable, rfl, .refl _⟩
  | cons _ allows inductionHypothesis => exact inductionHypothesis.cons allows

/-- The first kind of some symbols that are completed in front of a kind. -/
def openings (symbols : List Symbol) (look : Option Kind) : Option Kind :=
  symbols.foldr opening look

/-- Some symbols can be completed one after the other in front of a kind. -/
def AllowsAll : List Symbol → Option Kind → Prop
  | [], _ => True
  | symbol :: others, look => Allows symbol (openings others look) ∧ AllowsAll others look

theorem Kept.append {symbols stack : List Symbol} {look : Option Kind} (kept : Kept stack look)
    (allows : AllowsAll symbols look) :
    Kept (symbols ++ stack) (openings symbols look) := by
  induction symbols with
  | nil => exact kept
  | cons symbol others inductionHypothesis =>
      exact .cons (inductionHypothesis allows.2) allows.1

theorem allows_statementForm {look : Option Kind} (isCalm : calm look = true)
    (seen : Option Kind) : Allows (.goal (statementForm seen)) look := by
  unfold statementForm
  split <;> exact isCalm

theorem allows_operand {look : Option Kind} (isCalm : calm look = true) (level : Level) :
    Allows (.goal (operand level)) look := by
  unfold operand
  split <;> exact isCalm

theorem allows_item {item : Goal} {look : Option Kind} (isCalm : calm look = true)
    (isItem : item = .declaration ∨ item = .name) : Allows (.goal item) look := by
  rcases isItem with rfl | rfl
  · exact isCalm
  · trivial

/-- The parts of a goal can be completed wherever the goal can be. -/
theorem allowsAll_of_expand {goal : Goal} {assignable : Bool} {seen look : Option Kind}
    {parts : List Symbol} (allows : Allows (.goal goal) look)
    (expands : goal.expand assignable seen = .ok parts) :
    AllowsAll parts look := by
  have atEnd : calm none = true := rfl
  have closes : ∀ kind ∈ [Kind.semicolon, .closeParen, .closeBracket, .closeCurly, .whileWord],
      calm (some kind) = true := by decide
  cases goal <;> simp only [Goal.expand] at expands
  case statement =>
    cases expands
    exact ⟨allows_statementForm allows seen, trivial⟩
  case statements stop =>
    split at expands <;> cases expands
    · exact ⟨trivial, trivial⟩
    · exact ⟨allows.2, allows, trivial, trivial⟩
  case separated item =>
    cases expands
    exact ⟨allows_item allows.2 allows.1, allows, trivial, trivial⟩
  case binary level =>
    cases expands
    exact ⟨allows_operand allows level, allows, trivial⟩
  case binaryRest level =>
    split at expands <;> cases expands
    · exact ⟨trivial, allows_operand allows level, trivial, allows, trivial⟩
    · trivial
  case afterCommas item =>
    split at expands <;> cases expands
    · exact ⟨trivial, allows_item allows.2 allows.1, allows, trivial, trivial⟩
    · exact ⟨trivial, trivial⟩
  -- The parts of the other goals are given outright.
  all_goals
    repeat' split at expands
    all_goals
      cases expands
      try simp_all [AllowsAll, Allows, openings, opening]

/-- A move leaves a stack that can be completed where there was one. -/
theorem kept_of_move {control next : Control} {seen look : Option Kind}
    (kept : Kept control.stack look)
    (moves : control.move seen = .shift next ∨ control.move seen = .idle next) :
    ∃ further, Kept next.stack further := by
  rcases control with ⟨assignable, stack⟩
  cases kept with
  | nil => simp [Control.move] at moves
  | @cons symbol below look kept allows =>
      cases symbol with
      | take kind | keep kind =>
          simp only [Control.move] at moves
          split at moves <;> simp at moves
          exact ⟨look, moves ▸ kept⟩
      | build build =>
          simp only [Control.move, reduceCtorEq, Move.idle.injEq, false_or] at moves
          exact ⟨look, moves ▸ kept⟩
      | goal goal =>
          simp only [Control.move] at moves
          split at moves <;> simp at moves
          next parts expands =>
            exact ⟨openings parts look, moves ▸ kept.append (allowsAll_of_expand allows expands)⟩

/-! ## What has been read -/

/-- The machine has read some kinds and is looking at another one, or at the end. -/
structure Reached (read : List Kind) (control : Control) (look : Option Kind) : Prop where
  /-- It comes here whatever follows the kind looked at. -/
  runs : ∀ rest, rest.head? = look → Runs .initial (read ++ rest) control rest
  kept : ∃ further, Kept control.stack further
  /-- What it has read can be completed. -/
  viable : ∃ rest after, Runs .initial (read ++ rest) ⟨after, []⟩ []

theorem reached_initial (look : Option Kind) : Reached [] .initial look := by
  have kept : Kept Control.initial.stack none := .cons .nil rfl
  rcases kept.ends false with ⟨kinds, after, _, runs⟩
  exact ⟨fun _ _ => .refl _, ⟨none, kept⟩, kinds, after, runs⟩

section Reached

variable {read : List Kind} {control next : Control} {look : Option Kind} {kind : Kind}

theorem runs_of_idle {rest : List Kind} (moves : control.move rest.head? = .idle next) :
    Runs control rest next rest := by
  refine .of_step ?_
  simp [Semantics.step, moves]

theorem runs_of_shift {rest : List Kind} (moves : control.move (some kind) = .shift next) :
    Runs control (kind :: rest) next rest := by
  refine .of_step ?_
  have looks : (kind :: rest).head?.map onKinds.kind = some kind := rfl
  simp only [Semantics.step, looks, moves]
  rfl

theorem Reached.idle (reached : Reached read control look)
    (moves : control.move look = .idle next) :
    Reached read next look := by
  rcases reached.kept with ⟨further, kept⟩
  refine ⟨fun rest looks => ?_, kept_of_move kept (.inr moves), reached.viable⟩
  exact (reached.runs rest looks).trans (runs_of_idle (looks ▸ moves))

theorem Reached.shift (reached : Reached read control (some kind))
    (moves : control.move (some kind) = .shift next) (look : Option Kind) :
    Reached (read ++ [kind]) next look := by
  have runs : ∀ rest, Runs .initial (read ++ [kind] ++ rest) next rest := by
    intro rest
    rw [List.append_assoc]
    exact (reached.runs (kind :: rest) rfl).trans (runs_of_shift moves)
  rcases reached.kept with ⟨further, kept⟩
  rcases kept_of_move kept (.inl moves) with ⟨below, keptNext⟩
  rcases keptNext.ends next.assignable with ⟨rest, after, _, completes⟩
  exact ⟨fun rest _ => runs rest, ⟨below, keptNext⟩, rest, after, (runs rest).trans completes⟩

/-- What the machine refuses is the start of nothing that it reads to the end. -/
theorem Reached.not_runs {refusal : Refusal} (reached : Reached read control look)
    (refuses : control.move look = .refuse refusal) {rest : List Kind}
    (looks : rest.head? = look) (after : Bool) :
    ¬Runs .initial (read ++ rest) ⟨after, []⟩ [] := by
  intro runs
  rw [← looks, ← map_kind_onKinds rest.head?] at refuses
  have same := (reached.runs rest looks).unique (step_of_refuse refuses) runs rfl
  simp only [Config.mk.injEq] at same
  rw [same.1] at refuses
  cases refuses

end Reached

/--
What holds at the start, and is kept by every move, holds of what the machine has
read, wherever it comes to.
-/
theorem runs_induction {first : Control} {property : List Kind → Control → Option Kind → Prop}
    (initial : ∀ look, property [] first look)
    (idle : ∀ {read control look next}, property read control look →
      control.move look = .idle next → property read next look)
    (shift : ∀ {read control kind next}, property read control (some kind) →
      control.move (some kind) = .shift next → ∀ look, property (read ++ [kind]) next look)
    {kinds rest : List Kind} {control : Control} (runs : Runs first kinds control rest) :
    ∃ read, kinds = read ++ rest ∧ property read control rest.head? := by
  suffices holds : ∀ config, onKinds.Reaches ⟨first, (), kinds⟩ config →
      ∃ read, kinds = read ++ config.rest ∧ property read config.control config.rest.head? from
    holds _ runs
  intro config reaches
  induction reaches with
  | refl => exact ⟨[], rfl, initial _⟩
  | @tail middle last _ steps inductionHypothesis =>
      rcases inductionHypothesis with ⟨read, splits, holds⟩
      rcases middle with ⟨control, ⟨⟩, remaining⟩
      rcases step_onKinds_cases steps with ⟨next, moves, rfl⟩ | ⟨kind, others, next, rfl, moves, rfl⟩
      · exact ⟨read, splits, idle holds moves⟩
      · refine ⟨read ++ [kind], ?_, shift holds moves others.head?⟩
        rw [splits, List.append_assoc]
        rfl

/-- Wherever the machine comes to, it has read a start of the kinds. -/
theorem reached_of_runs {kinds rest : List Kind} {control : Control}
    (runs : Runs .initial kinds control rest) :
    ∃ read, kinds = read ++ rest ∧ Reached read control rest.head? :=
  runs_induction reached_initial Reached.idle Reached.shift runs

end Script.Machine
