import Script.Proofs.ErrorPosition

/-!
# What a diagnostic asks for would repair the source

A diagnostic that names a kind of token names one that some accepted program has in
that place; where it asks for an expression, a name could stand there.

The stack machine has looked at the refused token for some steps before it refuses
it, and it has chosen among the parts of its goals in view of that token.  In view of
the missing kind it would have chosen differently at times, but always so that it
could take that kind in the end.  The steps are gone back one by one from the refusal
to the last token that was taken; what stands below each goal decides what the goal
would have become.
-/

namespace Script.Machine

open Semantics

/-! ## Missing kinds -/

/-- The kind that a refusal asks for; where it asks for an expression, that of a name. -/
def Refusal.missing? : Refusal → Option Kind
  | .kind expected => some expected
  | .expression => some .identifier
  | .literal | .target => none

/-- The machine comes to refuse what it looks at, because it misses a kind. -/
inductive Misses (look : Option Kind) (kind : Kind) : Control → Prop where
  | refused {control : Control} {refusal : Refusal}
      (refuses : control.move look = .refuse refusal)
      (missing : refusal.missing? = some kind) : Misses look kind control
  | idle {control next : Control} (moves : control.move look = .idle next)
      (misses : Misses look kind next) : Misses look kind control

section Misses

variable {look : Option Kind} {kind : Kind} {control next : Control}

theorem Misses.of_idle (misses : Misses look kind control)
    (moves : control.move look = .idle next) : Misses look kind next := by
  cases misses with
  | refused refuses missing =>
      rw [moves] at refuses
      cases refuses
  | idle movesOn misses =>
      rw [moves] at movesOn
      cases movesOn
      exact misses

theorem Misses.of_refuse {refusal : Refusal} (misses : Misses look kind control)
    (refuses : control.move look = .refuse refusal) : refusal.missing? = some kind := by
  cases misses with
  | refused refusesHere missing =>
      rw [refuses] at refusesHere
      cases refusesHere
      exact missing
  | idle moves misses =>
      rw [refuses] at moves
      cases moves

/-- Where something is missed, the machine stops without taking a kind. -/
theorem Misses.stops (misses : Misses look kind control) {kinds : List Kind}
    (looks : kinds.head? = look) :
    ∃ last refusal, Runs control kinds last kinds ∧ last.move look = .refuse refusal := by
  induction misses with
  | @refused control refusal refuses missing => exact ⟨control, refusal, .refl _, refuses⟩
  | idle moves _ inductionHypothesis =>
      rcases inductionHypothesis with ⟨last, refusal, runs, refuses⟩
      exact ⟨last, refusal, (runs_of_idle (looks ▸ moves)).trans runs, refuses⟩

/-- A stack that can be read to the end from a kind misses nothing in view of it. -/
theorem Misses.not_ends (misses : Misses look kind control) : ¬Ends control.stack look := by
  intro ends
  rcases ends control.assignable with ⟨kinds, after, looks, runs⟩
  rcases misses.stops looks with ⟨last, refusal, comes, refuses⟩
  rw [← looks, ← map_kind_onKinds kinds.head?] at refuses
  have same := comes.unique (step_of_refuse refuses) runs rfl
  simp only [Config.mk.injEq] at same
  rw [same.1] at refuses
  cases refuses

end Misses

/-- A kind is missed by a symbol that stands for it, or where an expression has to start. -/
theorem symbol_of_refuse {assignable : Bool} {symbol : Symbol} {stack : List Symbol}
    {look : Option Kind} {kind : Kind} {refusal : Refusal}
    (refuses : (Control.mk assignable (symbol :: stack)).move look = .refuse refusal)
    (missing : refusal.missing? = some kind) :
    symbol = .take kind ∨ symbol = .keep kind ∨
      symbol = .goal .primary ∧ kind = .identifier := by
  cases symbol with
  | take expected | keep expected =>
      simp only [Control.move] at refuses
      split at refuses <;> cases refuses
      cases missing
      simp
  | build build => cases refuses
  | goal goal =>
      simp only [Control.move] at refuses
      split at refuses <;> cases refuses
      next expands =>
        cases goal <;> simp only [Goal.expand] at expands
        all_goals
          repeat' split at expands
          all_goals
            cases expands <;> simp_all [Refusal.missing?]

/-- At the end of the input a stack misses nothing but one kind. -/
def MissesOnly (stack : List Symbol) (stop : Option Kind) : Prop :=
  ∀ assignable kind, Misses none kind ⟨assignable, stack⟩ → stop = some kind

theorem missesOnly_take (kind : Kind) (stack : List Symbol) :
    MissesOnly (.take kind :: stack) (some kind) := by
  intro assignable missing misses
  exact misses.of_refuse rfl

theorem MissesOnly.build {stack : List Symbol} {stop : Option Kind} {build : Build}
    (only : MissesOnly stack stop) : MissesOnly (.build build :: stack) stop := by
  intro assignable missing misses
  exact only _ missing (misses.of_idle rfl)

theorem missesOnly_of_ends {stack : List Symbol} (ends : Ends stack none) :
    MissesOnly stack none := by
  intro assignable missing misses
  exact absurd ends misses.not_ends

/-! ## What stands below a goal -/

/-- What a goal counts on to stand below it. -/
def Seats : Symbol → List Symbol → Prop
  | .goal (.statements stop), stack => MissesOnly stack stop
  | .goal .returnedValue, stack => Ends stack (some .semicolon) ∧ MissesOnly stack (some .semicolon)
  | .goal (.expressionUnless stop), stack => Ends stack (some stop)
  | .goal .parameters, stack => Ends stack (some .closeParen)
  | .goal .loopStart, stack | .goal .declarations, stack => Ends stack (some .semicolon)
  | .goal (.separated item), stack | .goal (.afterCommas item), stack =>
      item = .declaration → Ends stack (some .semicolon)
  | .goal .declaration, stack | .goal .initialiser, stack =>
      Ends stack (some .comma) ∧ Ends stack (some .semicolon)
  | .goal .literal, _ => False
  | _, _ => True

/-- Each symbol of a stack has below it what it counts on. -/
def Seated : List Symbol → Prop
  | [] => True
  | symbol :: stack => Seats symbol stack ∧ Seated stack

/-- Some symbols have below them what they count on, on top of a stack. -/
def SeatsAll : List Symbol → List Symbol → Prop
  | [], _ => True
  | symbol :: others, stack => Seats symbol (others ++ stack) ∧ SeatsAll others stack

theorem Seated.append {symbols stack : List Symbol} (seated : Seated stack)
    (seats : SeatsAll symbols stack) : Seated (symbols ++ stack) := by
  induction symbols with
  | nil => exact seated
  | cons symbol others inductionHypothesis => exact ⟨seats.1, inductionHypothesis seats.2⟩

/-- A further item can follow behind a comma. -/
theorem ends_comma {stack : List Symbol} (ends : Ends stack (some .semicolon)) :
    Ends (.goal (.afterCommas .declaration) :: stack) (some .comma) :=
  .goal (fun _ => rfl)
    (ends_declaration rfl (ends_afterCommas rfl ends.build)).take

theorem seats_statementForm (look : Option Kind) (stack : List Symbol) :
    Seats (.goal (statementForm look)) stack := by
  unfold statementForm
  split <;> trivial

theorem seats_operand (level : Level) (stack : List Symbol) :
    Seats (.goal (operand level)) stack := by
  unfold operand
  split <;> trivial

/-- An item has below it what it counts on, if more items may follow. -/
theorem seats_item {item : Goal} {below : Option Kind} {stack : List Symbol}
    (allows : Allows (.goal (.afterCommas item)) below)
    (seats : Seats (.goal (.afterCommas item)) stack) :
    Seats (.goal item) (.goal (.afterCommas item) :: .build .cons :: stack) := by
  rcases allows.1 with rfl | rfl
  · have ends : Ends (.build .cons :: stack) (some .semicolon) := (seats rfl).build
    exact ⟨ends_comma ends, ends_afterCommas rfl ends⟩
  · trivial

/-- The parts of a goal have below them what they count on, where the goal has. -/
theorem seatsAll_of_expand {goal : Goal} {assignable : Bool} {look below : Option Kind}
    {parts stack : List Symbol} (kept : Kept stack below)
    (allows : Allows (.goal goal) below) (seats : Seats (.goal goal) stack)
    (notPrimary : goal ≠ .primary)
    (expands : goal.expand assignable look = .ok parts) :
    SeatsAll parts stack := by
  cases goal <;> simp only [Goal.expand] at expands
  case program =>
    cases expands
    have ended : below = none := allows
    exact ⟨(missesOnly_of_ends (ended ▸ kept.ends)).build, trivial, trivial⟩
  case statements stop =>
    split at expands <;> cases expands
    · exact ⟨trivial, trivial⟩
    · exact ⟨trivial, MissesOnly.build seats, trivial, trivial⟩
  case statement =>
    cases expands
    exact ⟨seats_statementForm look stack, trivial⟩
  case block =>
    cases expands
    exact ⟨trivial, missesOnly_take _ _, trivial, trivial, trivial⟩
  case declarationStatement =>
    cases expands
    exact ⟨kept.ends.take, trivial, trivial⟩
  case forLoop =>
    cases expands
    have ofBody : Ends (.goal .statement :: .build .forLoop :: stack) (some .semicolon) :=
      ends_statement kept.ends.build
    have ofUpdate : Ends (.goal (.expressionUnless .closeParen) :: .take .closeParen :: _)
        (some .identifier) :=
      ends_expressionUnless .closeParen (by decide) rfl ofBody.take
    have ofTest : Ends (.goal (.expressionUnless .semicolon) :: .take .semicolon :: _)
        (some .identifier) :=
      ends_expressionUnless .semicolon (by decide) rfl ofUpdate.take
    exact ⟨trivial, trivial, ofTest.take, trivial, ofUpdate.take, trivial, ofBody.take,
      trivial, trivial, trivial, trivial⟩
  case function =>
    cases expands
    exact ⟨trivial, trivial, trivial, (ends_block kept.ends.build).take, trivial, trivial,
      trivial, trivial⟩
  case returnStatement =>
    cases expands
    exact ⟨trivial, ⟨kept.ends.build.take, missesOnly_take _ _⟩, trivial, trivial, trivial⟩
  case declarations =>
    cases expands
    exact ⟨trivial, fun _ => Ends.build seats, trivial, trivial⟩
  case separated item =>
    cases expands
    exact ⟨seats_item allows seats, fun isDeclaration => (seats isDeclaration).build, trivial,
      trivial⟩
  case afterCommas item =>
    split at expands <;> cases expands
    · exact ⟨trivial, seats_item allows seats, fun isDeclaration => (seats isDeclaration).build,
        trivial, trivial⟩
    · exact ⟨trivial, trivial⟩
  case declaration =>
    cases expands
    exact ⟨trivial, ⟨seats.1.build, seats.2.build⟩, trivial, trivial⟩
  case loopStart =>
    split at expands <;> cases expands
    · exact ⟨seats, trivial⟩
    · exact ⟨seats, trivial⟩
  case returnedValue =>
    split at expands <;> cases expands
    · exact ⟨trivial, trivial⟩
    · exact ⟨seats.1, trivial⟩
  case parameters =>
    split at expands <;> cases expands
    · exact ⟨trivial, trivial⟩
    · exact ⟨by rintro ⟨⟩, trivial⟩
  case binary level =>
    cases expands
    exact ⟨seats_operand level _, trivial, trivial⟩
  case binaryRest level =>
    split at expands <;> cases expands
    · exact ⟨trivial, seats_operand level _, trivial, trivial, trivial⟩
    · trivial
  case primary => exact absurd rfl notPrimary
  -- The parts of the other goals count on nothing.
  all_goals
    repeat' split at expands
    all_goals
      cases expands
      try simp [SeatsAll, Seats]

/-! ## What is missed continues nothing -/

theorem calm_statementForm (look below : Option Kind) :
    calm (opening (.goal (statementForm look)) below) = true := by
  unfold statementForm
  split <;> rfl

theorem opening_operand (level : Level) (below : Option Kind) :
    opening (.goal (operand level)) below = some .identifier := by
  unfold operand
  split <;> rfl

/-- The parts of a goal start with what continues nothing, or with the kind looked at. -/
theorem calm_openings {goal : Goal} {assignable : Bool} {look below : Option Kind}
    {parts : List Symbol} (allows : Allows (.goal goal) below)
    (expands : goal.expand assignable look = .ok parts)
    (isCalm : calm (opening (.goal goal) below) = true) :
    calm (openings parts below) = true ∨ openings parts below = look := by
  cases goal <;> simp only [Goal.expand] at expands
  case statements stop =>
    split at expands <;> cases expands
    · exact .inl isCalm
    · exact .inl rfl
  case statement =>
    cases expands
    exact .inl (calm_statementForm look below)
  case separated item =>
    cases expands
    rcases allows.1 with rfl | rfl <;> exact .inl rfl
  case binary level =>
    cases expands
    left
    have starts := opening_operand level (opening (.goal (.binaryRest level)) below)
    exact (congrArg calm starts).trans rfl
  case binaryRest level =>
    split at expands <;> cases expands
    · next binds =>
        rcases Option.bind_eq_some_iff.1 binds with ⟨kind, rfl, ofKind⟩
        right
        exact congrArg some (Level.ofKind?_eq_some.1 ofKind).symm
    · exact .inl isCalm
  case expressionUnless stop =>
    split at expands <;> cases expands
    · exact .inl allows.2
    · exact .inl rfl
  case alternate =>
    split at expands <;> cases expands
    · next seen => exact .inr seen.symm
    · exact .inl isCalm
  case afterCommas item =>
    split at expands <;> cases expands
    · next seen => exact .inr seen.symm
    · exact .inl isCalm
  -- The others start as before, with what they stand in front of, or with a fixed kind.
  all_goals
    repeat' split at expands
    all_goals
      cases expands <;>
        first
          | exact .inl isCalm
          | exact .inl allows
          | exact .inl rfl
          | exact .inr rfl

/-- What is missed where nothing continues what was read does not continue it either. -/
theorem Misses.calm {look : Option Kind} {kind : Kind} {control : Control}
    (misses : Misses look kind control) {first : Option Kind}
    (kept : Kept control.stack first) (isCalm : calm first = true) :
    Machine.calm (some kind) = true := by
  induction misses generalizing first with
  | @refused control refusal refuses missing =>
      rcases control with ⟨assignable, stack⟩
      cases kept with
      | nil => cases refuses
      | cons kept allows =>
          rcases symbol_of_refuse refuses missing with rfl | rfl | ⟨rfl, rfl⟩
          · exact isCalm
          · exact isCalm
          · rfl
  | @idle control next moves misses inductionHypothesis =>
      rcases control with ⟨assignable, stack⟩
      cases kept with
      | nil => cases moves
      | cons kept allows =>
          rcases next_of_idle moves with ⟨build, rfl, rfl⟩ | ⟨goal, parts, rfl, expands, rfl⟩
          · exact inductionHypothesis kept isCalm
          · have keptParts := kept.append (allowsAll_of_expand allows expands)
            rcases calm_openings allows expands isCalm with isCalm | looks
            · exact inductionHypothesis keptParts isCalm
            · exact absurd (looks ▸ keptParts.ends) misses.not_ends

/-! ## Going back to the last token taken -/

/-- A statement that is no expression starts with its own kind. -/
theorem opening_statementForm {look below : Option Kind}
    (form : statementForm look ≠ .expressionStatement) :
    opening (.goal (statementForm look)) below = look := by
  cases look with
  | none => exact absurd rfl form
  | some kind => cases kind <;> first | rfl | exact absurd rfl form

/-- The parts of a primary expression can be read from the kind that they were chosen for. -/
theorem ends_of_primary {assignable : Bool} {look below : Option Kind}
    {parts stack : List Symbol} (kept : Kept stack below)
    (allows : Allows (.goal .primary) below)
    (expands : Goal.primary.expand assignable look = .ok parts) :
    Ends (parts ++ stack) look := by
  have ofParts := (kept.append (allowsAll_of_expand allows expands)).ends
  simp only [Goal.expand] at expands
  split at expands
  next =>
    cases expands
    exact ofParts
  next =>
    cases expands
    exact ofParts
  next =>
    split at expands <;> cases expands
    next isLiteral => exact .goal (fun _ => if_pos isLiteral) kept.ends.build.keep
  next => cases expands

/--
A goal whose parts can be read from what they miss can itself be read from it.  In
view of that kind the goal may have other parts; then these can be read from it.
-/
theorem ends_of_parts {goal : Goal} {assignable : Bool} {look below : Option Kind}
    {kind : Kind} {parts stack : List Symbol} (kept : Kept stack below)
    (allows : Allows (.goal goal) below) (seats : Seats (.goal goal) stack)
    (expands : goal.expand assignable look = .ok parts)
    (misses : Misses look kind ⟨assignable, parts ++ stack⟩)
    (isCalm : calm (opening (.goal goal) below) = true → calm (some kind) = true)
    (notPrimary : goal ≠ .primary) (ends : Ends (parts ++ stack) (some kind)) :
    Ends (.goal goal :: stack) (some kind) := by
  have ofParts := (kept.append (allowsAll_of_expand allows expands)).ends
  have unread : ¬Ends (parts ++ stack) look := misses.not_ends
  cases goal <;> simp only [Goal.expand] at expands
  case statements stop =>
    split at expands <;> cases expands
    next ended =>
      rcases ended with rfl | rfl
      · have stop_eq : stop = some kind := seats _ kind (misses.of_idle rfl)
        exact .goal (fun _ => if_pos (.inr stop_eq.symm)) ends
      · exact absurd (allows.1 ▸ kept.ends.build) unread
    next goesOn =>
      by_cases stops : some kind = stop
      · have starts : Ends stack (some kind) := stops ▸ allows.1 ▸ kept.ends
        exact ends_statements stops starts
      · exact .goal (fun _ => if_neg (by simp [stops])) ends
  case statement =>
    cases expands
    by_cases form : statementForm (some kind) = .expressionStatement
    · by_cases seen : statementForm look = .expressionStatement
      · refine .goal (fun _ => ?_) ends
        rw [Goal.expand, form, seen]
      · have opens := kept.ends.cons (allows_statementForm allows look)
        rw [opening_statementForm seen] at opens
        exact absurd opens unread
    · have opens := kept.ends.cons (allows_statementForm allows (some kind))
      rw [opening_statementForm form] at opens
      exact .goal (fun _ => rfl) opens
  case alternate =>
    split at expands <;> cases expands
    next seen =>
      rw [seen] at unread
      exact absurd ofParts unread
    next => exact .goal (fun _ => if_neg (calm_iff.1 (isCalm allows)).2.2) ends
  case afterCommas item =>
    split at expands <;> cases expands
    next seen =>
      rw [seen] at unread
      exact absurd ofParts unread
    next => exact .goal (fun _ => if_neg (calm_iff.1 (isCalm allows.2)).2.1) ends
  case initialiser =>
    split at expands <;> cases expands
    next ended =>
      rcases ended with rfl | rfl
      · exact absurd seats.2.build unread
      · exact absurd seats.1.build unread
    next =>
      by_cases assigns : look = some .simpleAssign
      · rw [assigns] at unread
        exact absurd ofParts unread
      · have missing := misses.of_refuse (if_neg assigns)
        cases missing
        exact ends_initialiser allows kept.ends
  case loopStart =>
    split at expands <;> cases expands
    next seen =>
      rw [seen] at unread
      exact absurd ofParts unread
    next =>
      by_cases declares : kind = .letWord
      · rw [declares]
        exact .goal (fun _ => rfl) (ends_declarations allows kept.ends)
      · exact .goal (fun _ => if_neg (by simpa using declares)) ends
  case expressionUnless stop =>
    split at expands <;> cases expands
    next seen =>
      rw [seen] at unread
      exact absurd (Ends.build seats) unread
    next =>
      by_cases stops : kind = stop
      · rw [stops]
        exact .goal (fun _ => if_pos rfl) (Ends.build seats)
      · exact .goal (fun _ => if_neg (by simpa using stops)) ends
  case returnedValue =>
    split at expands <;> cases expands
    next ended =>
      rw [ended] at misses
      have missing : some Kind.semicolon = some kind := seats.2 _ kind (misses.of_idle rfl)
      cases missing
      exact .goal (fun _ => rfl) (.goal (fun _ => rfl) ends)
    next => exact .goal (fun _ => rfl) ends
  case parameters =>
    split at expands <;> cases expands
    next seen =>
      rw [seen] at unread
      exact absurd (Ends.build seats) unread
    next =>
      by_cases closes : kind = .closeParen
      · rw [closes]
        exact .goal (fun _ => rfl) (Ends.build seats)
      · exact .goal (fun _ => if_neg (by simpa using closes)) ends
  case assigned =>
    split at expands
    next =>
      cases expands
      exact ends_assigned (isCalm allows) ends
    next seen =>
      split at expands
      next =>
        split at expands <;> cases expands
        exact absurd ofParts unread
      next =>
        cases expands
        exact ends_assigned (isCalm allows) ends
  case binaryRest level =>
    split at expands <;> cases expands
    next binds =>
      rcases Option.bind_eq_some_iff.1 binds with ⟨seen, rfl, ofKind⟩
      rw [Level.ofKind?_eq_some.1 ofKind] at unread
      exact absurd ofParts unread
    next => exact ends_binaryRest (isCalm allows) ends
  case unary =>
    have withoutSign : Ends (.goal .member :: stack) (some kind) →
        Ends (.goal .unary :: stack) (some kind) := by
      intro ofMember
      by_cases signs : kind.isUnary = true
      · exact .goal (fun _ => if_pos signs) (ends_unary allows kept.ends.build).keep
      · exact .goal (fun _ => if_neg signs) ofMember
    split at expands
    next =>
      cases expands
      exact withoutSign ends
    next seen =>
      split at expands <;> cases expands
      · exact absurd ofParts unread
      · exact withoutSign ends
  case memberRest =>
    split at expands <;> cases expands
    · exact absurd ofParts unread
    · exact absurd ofParts unread
    · exact ends_memberRest (isCalm allows) ends
  case primary => exact absurd rfl notPrimary
  case literal => exact seats.elim
  -- The other goals have the same parts in view of any kind.
  all_goals
    cases expands
    exact .goal (fun _ => rfl) ends

/-- From what a stack misses it can be read to the end. -/
theorem Misses.ends {look : Option Kind} {kind : Kind} {control : Control}
    (misses : Misses look kind control) {first : Option Kind}
    (kept : Kept control.stack first) (seated : Seated control.stack) :
    Ends control.stack (some kind) := by
  induction misses generalizing first with
  | @refused control refusal refuses missing =>
      rcases control with ⟨assignable, stack⟩
      cases kept with
      | nil => cases refuses
      | cons kept allows =>
          rcases symbol_of_refuse refuses missing with rfl | rfl | ⟨rfl, rfl⟩
          · exact kept.ends.take
          · exact kept.ends.keep
          · exact ends_primary kept.ends
  | @idle control next moves misses inductionHypothesis =>
      have missesHere : Misses look kind control := .idle moves misses
      rcases control with ⟨assignable, stack⟩
      cases kept with
      | nil => cases moves
      | cons kept allows =>
          rcases next_of_idle moves with ⟨build, rfl, rfl⟩ | ⟨goal, parts, rfl, expands, rfl⟩
          · exact (inductionHypothesis kept seated.2).build
          · have notPrimary : goal ≠ .primary := by
              rintro rfl
              exact misses.not_ends (ends_of_primary kept allows expands)
            have seatedParts := seatsAll_of_expand kept allows seated.1 notPrimary expands
            apply ends_of_parts kept allows seated.1 expands misses
            · exact missesHere.calm (.cons kept allows)
            · exact notPrimary
            · exact inductionHypothesis (kept.append (allowsAll_of_expand allows expands))
                (seated.2.append seatedParts)

/-! ## What has been read -/

/-- A stack in view of a kind: all is seated, but for a literal on top that comes next. -/
def Ready (look : Option Kind) (stack : List Symbol) : Prop :=
  Seated stack ∨
    ∃ others, stack = .goal .literal :: others ∧ Seated others ∧ look.any Kind.isLiteral = true

section Ready

variable {look first : Option Kind} {control next : Control}

theorem Ready.idle (ready : Ready look control.stack) (kept : Kept control.stack first)
    (moves : control.move look = .idle next) : Ready look next.stack := by
  rcases control with ⟨assignable, stack⟩
  cases kept with
  | nil => cases moves
  | @cons symbol stack below kept allows =>
      rcases next_of_idle moves with ⟨build, rfl, rfl⟩ | ⟨goal, parts, rfl, expands, rfl⟩
      · rcases ready with seated | ⟨others, top, _⟩
        · exact .inl seated.2
        · cases top
      · rcases ready with seated | ⟨others, top, seated, isLiteral⟩
        · by_cases isPrimary : goal = .primary
          · subst isPrimary
            simp only [Goal.expand] at expands
            split at expands
            · cases expands
              exact .inl ⟨trivial, seated.2⟩
            · cases expands
              exact .inl ⟨trivial, seated.2⟩
            · split at expands <;> cases expands
              next isLiteral => exact .inr ⟨stack, rfl, seated.2, isLiteral⟩
            · cases expands
          · exact .inl (seated.2.append
              (seatsAll_of_expand kept allows seated.1 isPrimary expands))
        · cases top
          simp only [Goal.expand] at expands
          split at expands
          · cases expands
          · split at expands <;> cases expands
            exact .inl ⟨trivial, trivial, seated⟩

theorem Ready.shift (ready : Ready look control.stack) (moves : control.move look = .shift next) :
    Seated next.stack := by
  rcases control with ⟨assignable, stack⟩
  cases stack with
  | nil => cases moves
  | cons symbol stack =>
      rcases next_of_shift moves with ⟨kind, _, awaits, rfl⟩
      rcases ready with seated | ⟨others, top, _⟩
      · exact seated.2
      · cases top
        rcases awaits with awaits | awaits <;> cases awaits

/-- Only the goal of a literal refuses what is no literal. -/
theorem stack_of_refuse_literal (refuses : control.move look = .refuse .literal) :
    control.stack.head? = some (.goal .literal) ∧ look.any Kind.isLiteral = false := by
  rcases control with ⟨assignable, stack⟩
  cases stack with
  | nil => cases refuses
  | cons symbol stack =>
      cases symbol with
      | take kind | keep kind =>
          simp only [Control.move] at refuses
          split at refuses <;> cases refuses
      | build build => cases refuses
      | goal goal =>
          simp only [Control.move] at refuses
          split at refuses <;> cases refuses
          next expands =>
            cases goal <;> simp only [Goal.expand] at expands
            all_goals
              repeat' split at expands
              all_goals
                cases expands <;> simp_all

/-- A literal is never asked for, because its goal is set up only in view of one. -/
theorem Ready.not_refuse_literal (ready : Ready look control.stack) :
    control.move look ≠ .refuse .literal := by
  intro refuses
  rcases stack_of_refuse_literal refuses with ⟨top, notLiteral⟩
  rcases ready with seated | ⟨others, _, _, isLiteral⟩
  · rcases List.head?_eq_some_iff.1 top with ⟨others, stack_eq⟩
    rw [stack_eq] at seated
    exact seated.1
  · rw [notLiteral] at isLiteral
    cases isLiteral

end Ready

/-- What the machine has read can be completed from whatever it misses. -/
structure Poised (read : List Kind) (control : Control) (look : Option Kind) : Prop where
  reached : Reached read control look
  ready : Ready look control.stack
  repairs : ∀ kind, Misses look kind control →
    ∃ rest after, Runs .initial (read ++ kind :: rest) ⟨after, []⟩ []

/-- A control that the machine comes to whatever follows can be completed so. -/
theorem repairs_of_seated {read : List Kind} {control : Control} {look : Option Kind}
    (reached : ∀ look, Reached read control look) (seated : Seated control.stack)
    (kind : Kind) (misses : Misses look kind control) :
    ∃ rest after, Runs .initial (read ++ kind :: rest) ⟨after, []⟩ [] := by
  rcases (reached none).kept with ⟨first, kept⟩
  rcases misses.ends kept seated control.assignable with ⟨kinds, after, looks, runs⟩
  rcases List.head?_eq_some_iff.1 looks with ⟨rest, rfl⟩
  exact ⟨rest, after, ((reached (some kind)).runs _ rfl).trans runs⟩

theorem poised_initial (look : Option Kind) : Poised [] .initial look := by
  have seated : Seated Control.initial.stack := ⟨trivial, trivial⟩
  exact ⟨reached_initial look, .inl seated, repairs_of_seated reached_initial seated⟩

theorem Poised.idle {read : List Kind} {control next : Control} {look : Option Kind}
    (poised : Poised read control look) (moves : control.move look = .idle next) :
    Poised read next look := by
  rcases poised.reached.kept with ⟨first, kept⟩
  exact ⟨poised.reached.idle moves, poised.ready.idle kept moves,
    fun kind misses => poised.repairs kind (.idle moves misses)⟩

theorem Poised.shift {read : List Kind} {control next : Control} {kind : Kind}
    (poised : Poised read control (some kind)) (moves : control.move (some kind) = .shift next)
    (look : Option Kind) : Poised (read ++ [kind]) next look := by
  have reached := poised.reached.shift moves
  have seated := poised.ready.shift moves
  exact ⟨reached look, .inl seated, repairs_of_seated reached seated⟩

/-- Wherever the machine comes to, what it has read can be completed from what it misses. -/
theorem poised_of_runs {kinds rest : List Kind} {control : Control}
    (runs : Runs .initial kinds control rest) :
    ∃ read, kinds = read ++ rest ∧ Poised read control rest.head? :=
  runs_induction poised_initial Poised.idle Poised.shift runs

end Script.Machine

namespace Script.Parser

open Machine

/-! ## What a diagnostic asks for -/

/-- A cause asks for the kind that it names, or for a name where it asks for an expression. -/
inductive Asks : Cause → Kind → Prop where
  | otherKind (token : String) (kind : Kind) : Asks (.unexpectedToken token kind.name) kind
  | ended (kind : Kind) : Asks (.unexpectedEndOfInput kind.name) kind
  | noExpression : Asks (.unexpectedEndOfInput "expression") .identifier
  | notExpression (token : String) : Asks (.unexpectedLiteral token) .identifier

theorem name_ne_expression (kind : Kind) : kind.name ≠ "expression" := by
  cases kind <;> decide

/-- What a cause asks for is what the machine misses. -/
theorem Reports.missing_eq {refusal : Refusal} {look : Option Token} {cause : Cause} {kind : Kind}
    (reports : Reports refusal look cause) (asks : Asks cause kind)
    (notLiteral : refusal ≠ .literal) : refusal.missing? = some kind := by
  generalize same : cause = reported at asks
  cases reports with
  | ended expected =>
      cases asks with
      | ended kind =>
          have name_eq := Cause.unexpectedEndOfInput.inj same
          exact congrArg some (Kind.name_injective name_eq)
      | noExpression =>
          exact absurd (Cause.unexpectedEndOfInput.inj same) (name_ne_expression expected)
      | otherKind => cases same
      | notExpression => cases same
  | otherKind expected token =>
      cases asks with
      | otherKind text kind =>
          have name_eq := (Cause.unexpectedToken.inj same).2
          exact congrArg some (Kind.name_injective name_eq)
      | ended => cases same
      | noExpression => cases same
      | notExpression => cases same
  | noExpression =>
      cases asks with
      | ended kind =>
          exact absurd (Cause.unexpectedEndOfInput.inj same).symm (name_ne_expression kind)
      | noExpression => rfl
      | otherKind => cases same
      | notExpression => cases same
  | notExpression token =>
      cases asks with
      | notExpression text => rfl
      | otherKind => cases same
      | ended => cases same
      | noExpression => cases same
  | noLiteral => exact absurd rfl notLiteral
  | notLiteral token => exact absurd rfl notLiteral
  | notAssignable token target => cases asks <;> cases same

theorem Reports.kind_of_token {refusal : Refusal} {look : Option Token}
    {token expected : String} (reports : Reports refusal look (.unexpectedToken token expected)) :
    ∃ kind : Kind, kind.name = expected := by
  cases reports with
  | otherKind kind seen => exact ⟨kind, rfl⟩

section Amid

variable {source : Lexer} {control : Control} {taken : List Token} {last : State}

theorem Amid.poised (amid : Amid source control taken last) :
    Poised (taken.map Token.kind) control last.kind? := by
  have runs := amid.reached.runs last.kinds last.head?_kinds
  rcases poised_of_runs runs with ⟨read, splits, poised⟩
  rw [List.append_cancel_right splits, ← last.head?_kinds]
  exact poised

/-- A kind that is missed is the next one of some accepted program. -/
theorem Amid.viable_missing {refusal : Refusal} {kind : Kind}
    (amid : Amid source control taken last)
    (refuses : control.move last.kind? = .refuse refusal)
    (missing : refusal.missing? = some kind) :
    Viable (taken.map Token.kind ++ [kind]) := by
  rcases amid.poised.repairs kind (.refused refuses missing) with ⟨rest, after, runs⟩
  refine viable_iff_runs.2 ⟨rest, after, ?_⟩
  rw [List.append_assoc]
  exact runs

/-- The tokens before the place that a state looks at are those taken so far. -/
theorem Amid.filter_eq (amid : Amid source control taken last)
    (short : Text.byteLength source.source < UInt32.size) :
    source.drain.tokens.filter (Token.liesBefore last.position) = taken := by
  have ordered := source.inOrder_drain short
  cases held : last.lookahead with
  | some token =>
      have tokens_eq : source.drain.tokens = taken ++ token :: last.lexer.drain.tokens := by
        rw [amid.tokens_eq, State.pending, held]
      rw [tokens_eq] at ordered ⊢
      rw [position_of_lookahead held]
      exact ordered.filter_start
  | none =>
      have complete : source.drain.failure = none := by
        rw [amid.failure_eq, State.blocked, held]
      have tokens_eq : source.drain.tokens = taken := by
        rw [amid.tokens_eq, State.pending_eq_nil.2 held, List.append_nil]
      have atEnd := amid.position_of_end short held
      rw [Lexer.limit, complete] at ordered
      rw [ordered.filter_eq_self (Nat.le_of_eq atEnd.symm), tokens_eq]

end Amid

/-- A source is refused because of its text, or by the machine in the middle. -/
theorem refused_of_parse {source : String} {file : Option String} {diagnostic : Diagnostic}
    (fails : (parse source file : Except Diagnostic Tree) = .error diagnostic) :
    (∃ character, diagnostic.cause = .unrecognisedToken character) ∨
      ∃ control taken last refusal, Amid (Lexer.start source file) control taken last ∧
        control.move last.kind? = .refuse refusal ∧
          Reports refusal last.lookahead diagnostic.cause ∧
            diagnostic.position = last.position := by
  rcases explained_of_parse fails with drains | ⟨control, taken, last, next, amid, explains⟩
  · left
    exact Lexer.cause_of_drain (show (Lexer.start source file).drain.failure = _ by rw [drains])
  · cases explains with
    | refused refuses reports =>
        exact .inr ⟨control, taken, last, _, amid, refuses, reports, rfl⟩
    | starved shifts starves =>
        exact .inl (Lexer.cause_of_drain (amid.failure_eq.trans starves.blocks))

/--
What a diagnostic asks for would repair the source: the kinds before its place and the
kind that it names, or that of a name for an expression, are the start of an accepted
program.  A token that is refused for another one is always refused for a kind.
-/
theorem expected_kind_repairs {source : String} {file : Option String} {diagnostic : Diagnostic}
    (short : source.utf8ByteSize < 2 ^ 32)
    (fails : (parse source file : Except Diagnostic Tree) = .error diagnostic) :
    (∀ kind, Asks diagnostic.cause kind →
      Viable (kindsBefore source file diagnostic.position ++ [kind])) ∧
    ∀ token expected, diagnostic.cause = .unexpectedToken token expected →
      ∃ kind : Kind, kind.name = expected := by
  have size : Text.byteLength (Lexer.start source file).source < UInt32.size :=
    Text.byteLength_toList_lt short
  rcases refused_of_parse fails with
    ⟨character, cause_eq⟩ | ⟨control, taken, last, refusal, amid, refuses, reports, place⟩
  · -- A text that is no token asks for none.
    rw [cause_eq]
    constructor
    · rintro kind ⟨⟩
    · rintro token expected ⟨⟩
  · constructor
    · intro kind asks
      have notLiteral : refusal ≠ .literal := by
        rintro rfl
        exact amid.poised.ready.not_refuse_literal refuses
      rw [kindsBefore, place, amid.filter_eq size]
      exact amid.viable_missing refuses (reports.missing_eq asks notLiteral)
    · intro token expected cause_eq
      exact (cause_eq ▸ reports).kind_of_token

/-- A loop that lacks its condition can go on with it, a sum without an end with a name. -/
theorem unfinished_loops_repaired :
    Viable [.doWord, .identifier, .semicolon, .whileWord] ∧
      Viable [.doWord, .identifier, .additiveOperator, .identifier] := by
  have lacksCondition : (parse "do x; y" none : Except Diagnostic Tree) =
      .error ⟨.unexpectedToken "y" Kind.whileWord.name, ⟨6, unnamedSource⟩⟩ := by
    decide +kernel
  have lacksOperand : (parse "do x + ;" none : Except Diagnostic Tree) =
      .error ⟨.unexpectedLiteral ";", ⟨7, unnamedSource⟩⟩ := by
    decide +kernel
  have beforeName : kindsBefore "do x; y" none ⟨6, unnamedSource⟩ =
      [.doWord, .identifier, .semicolon] := by
    decide +kernel
  have beforeEnd : kindsBefore "do x + ;" none ⟨7, unnamedSource⟩ =
      [.doWord, .identifier, .additiveOperator] := by
    decide +kernel
  constructor
  · have repairs := (expected_kind_repairs (by decide) lacksCondition).1 _ (.otherKind _ _)
    rwa [beforeName] at repairs
  · have repairs := (expected_kind_repairs (by decide) lacksOperand).1 _ (.notExpression _)
    rwa [beforeEnd] at repairs

end Script.Parser
