import Script.Proofs.Machine

/-!
# The stack machine comes to a halt

Whatever the machine is set to read, and whatever tokens it is given, it stops after a
number of moves that is linear in the number of tokens.

Between two tokens the machine only takes goals apart, and a goal can be part of itself
only behind a token.  So the goals that take a token before anything below them comes up
are put in an order, in which each one comes before the goals that it starts with.  Every
token brings an allowance, which pays for the goals that are set up behind it.  The goals
that may take no token pay for themselves.
-/

namespace Script.Machine

/-- What each token pays for. -/
def allowance : Nat :=
  30

/--
How many moves a goal on top of a stack can be charged with before a token is taken.  A
goal that may take no token is charged with the allowance of the next one, too.
-/
def Goal.charge : Goal → Nat
  | .literal | .name | .emptyStatement => 3
  | .condition | .grouping | .declarations => 4
  | .primary | .whileLoop => 5
  | .block | .declarationStatement => 6
  | .member | .declaration | .conditional | .doWhileLoop | .returnStatement => 7
  | .unary => 8
  | .function => 10
  | .binary level => 10 + 2 * level.looseness
  | .separated _ => 11
  | .forLoop => 15
  | .expression => 22
  | .expressionStatement => 25
  | .statement => 26
  | .assigned | .binaryRest _ | .memberRest => allowance + 1
  | .alternate | .statements _ | .afterCommas _ | .initialiser | .expressionUnless _ =>
      allowance + 2
  | .loopStart | .returnedValue | .parameters => allowance + 3
  | .program => allowance + 4

/-- What the symbol on top of a stack is charged with. -/
def Symbol.charge : Symbol → Nat
  | .take _ | .keep _ => 1
  | .build _ => allowance + 1
  | .goal part => part.charge

/-- What a symbol is charged with as long as others stand above it. -/
def Symbol.reserve (symbol : Symbol) : Nat :=
  symbol.charge - (allowance + 1) + 1

/-- What the symbols below the top of a stack are charged with. -/
def reserves : List Symbol → Nat
  | [] => 0
  | symbol :: others => symbol.reserve + reserves others

/-- What a stack is charged with. -/
def charges : List Symbol → Nat
  | [] => allowance
  | top :: below => top.charge + reserves below

/-- A bound of the moves that are left. -/
def Config.movesLeft (config : Config Kind Unit) : Nat :=
  allowance * config.rest.length + charges config.control.stack

/-- A bound of the moves that are left where a goal is set up before some tokens. -/
def moveLimit (tokens : Nat) : Nat :=
  allowance * tokens + (allowance + 4)

/-- Items between commas are declarations or names. -/
def Symbol.Orderly : Symbol → Prop
  | .goal (.separated item) | .goal (.afterCommas item) => item = .declaration ∨ item = .name
  | _ => True

/-! ## Taking goals apart -/

section Expand

variable {goal : Goal} {assignable : Bool} {look : Option Kind} {parts : List Symbol}

@[simp]
theorem reserves_cons (symbol : Symbol) (others : List Symbol) :
    reserves (symbol :: others) = symbol.reserve + reserves others :=
  rfl

@[simp]
theorem reserves_append (symbols others : List Symbol) :
    reserves (symbols ++ others) = reserves symbols + reserves others := by
  induction symbols with
  | nil => exact (Nat.zero_add _).symm
  | cons symbol more inductionHypothesis =>
      rw [List.cons_append, reserves_cons, reserves_cons, inductionHypothesis, Nat.add_assoc]

theorem charges_cons (top : Symbol) (below : List Symbol) :
    charges (top :: below) = top.charge + reserves below :=
  rfl

theorem charge_le (symbol : Symbol) : symbol.charge ≤ allowance + symbol.reserve := by
  rw [Symbol.reserve]
  omega

theorem charges_le (stack : List Symbol) : charges stack ≤ allowance + reserves stack := by
  cases stack with
  | nil => exact Nat.le_refl _
  | cons top below =>
      have bounded := charge_le top
      rw [charges_cons, reserves_cons]
      omega

theorem charges_append_le (symbols below : List Symbol) :
    charges (symbols ++ below) ≤ charges symbols + reserves below := by
  cases symbols with
  | nil => exact charges_le below
  | cons top others =>
      rw [List.cons_append, charges_cons, charges_cons, reserves_append]
      omega

theorem charge_statementForm_le (look : Option Kind) : (statementForm look).charge ≤ 25 := by
  unfold statementForm
  split <;> decide

theorem charge_operand_lt (level : Level) :
    (operand level).charge + 1 < (Goal.binary level).charge := by
  cases level <;> decide

theorem reserve_operand (level : Level) : (Symbol.goal (operand level)).reserve = 1 := by
  cases level <;> decide

theorem charge_goal_le (goal : Goal) : goal.charge ≤ allowance + 4 := by
  cases goal with
  | binary level => cases level <;> decide
  | _ => exact Nat.le_of_ble_eq_true rfl

theorem charge_item_le {item : Goal} (isItem : item = .declaration ∨ item = .name) :
    item.charge ≤ 7 := by
  rcases isItem with rfl | rfl <;> decide

/-- The parts of a goal are charged with less than the goal. -/
theorem charges_lt_of_expand (orderly : (Symbol.goal goal).Orderly)
    (expands : goal.expand assignable look = .ok parts) : charges parts < goal.charge := by
  cases goal <;> simp only [Goal.expand] at expands
  case statement =>
    cases expands
    have bounded := charge_statementForm_le look
    exact Nat.lt_succ_of_le bounded
  case binary level =>
    cases expands
    have tightens := charge_operand_lt level
    have below : reserves [.goal (.binaryRest level)] = 1 := rfl
    rw [charges_cons, below, Symbol.charge]
    exact tightens
  case binaryRest level =>
    split at expands <;> cases expands
    · have below : reserves [.goal (operand level), .build (.binary level),
          .goal (.binaryRest level)] = 3 := by
        rw [reserves_cons, reserve_operand]
        rfl
      rw [charges_cons, below]
      exact Nat.le_of_ble_eq_true rfl
    · exact Nat.lt_succ_self _
  case separated item =>
    cases expands
    have bounded := charge_item_le orderly
    have others : reserves [.goal (.afterCommas item), .build .cons] = 3 := rfl
    rw [charges_cons, others, Symbol.charge, Goal.charge]
    omega
  case afterCommas item =>
    split at expands <;> cases expands
    · rcases orderly with rfl | rfl <;> exact Nat.le_of_ble_eq_true rfl
    · exact Nat.lt_succ_self _
  -- The parts of the other goals are given outright.
  all_goals
    repeat' split at expands
    all_goals
      cases expands
      try exact Nat.le_of_ble_eq_true rfl

theorem orderly_statementForm (look : Option Kind) :
    (Symbol.goal (statementForm look)).Orderly := by
  unfold statementForm
  split <;> trivial

theorem orderly_operand (level : Level) : (Symbol.goal (operand level)).Orderly := by
  cases level <;> trivial

theorem orderly_item {item : Goal} (isItem : item = .declaration ∨ item = .name) :
    (Symbol.goal item).Orderly := by
  rcases isItem with rfl | rfl <;> trivial

/-- The parts of an orderly goal are orderly. -/
theorem orderly_of_expand (orderly : (Symbol.goal goal).Orderly)
    (expands : goal.expand assignable look = .ok parts) :
    ∀ symbol ∈ parts, symbol.Orderly := by
  cases goal <;> simp only [Goal.expand] at expands
  case statement =>
    cases expands
    exact List.forall_mem_singleton.2 (orderly_statementForm look)
  case binary level =>
    cases expands
    simp only [List.forall_mem_cons]
    exact ⟨orderly_operand level, trivial, List.forall_mem_nil _⟩
  case binaryRest level =>
    split at expands <;> cases expands
    · simp only [List.forall_mem_cons]
      exact ⟨trivial, orderly_operand level, trivial, trivial, List.forall_mem_nil _⟩
    · exact List.forall_mem_nil _
  case separated item =>
    cases expands
    simp only [List.forall_mem_cons]
    exact ⟨orderly_item orderly, orderly, trivial, List.forall_mem_nil _⟩
  case afterCommas item =>
    split at expands <;> cases expands
    · simp only [List.forall_mem_cons]
      exact ⟨trivial, orderly_item orderly, orderly, trivial, List.forall_mem_nil _⟩
    · exact List.forall_mem_singleton.2 trivial
  -- The parts of the other goals are given outright.
  all_goals
    repeat' split at expands
    all_goals
      cases expands
      try simp [Symbol.Orderly]

end Expand

theorem movesLeft_le_moveLimit (goal : Goal) (assignable : Bool) (kinds : List Kind) :
    Config.movesLeft ⟨⟨assignable, [.goal goal]⟩, (), kinds⟩ ≤ moveLimit kinds.length :=
  Nat.add_le_add_left (charge_goal_le goal) _

/-! ## Moves -/

/-- Every symbol of a stack is orderly. -/
def Control.Orderly (control : Control) : Prop :=
  ∀ symbol ∈ control.stack, symbol.Orderly

section Moves

variable {control next : Control} {look : Option Kind}

/-- A move that takes no token lowers the charges. -/
theorem Control.Orderly.idle (orderly : control.Orderly) (moves : control.move look = .idle next) :
    next.Orderly ∧ charges next.stack < charges control.stack := by
  rcases control with ⟨assignable, _ | ⟨symbol, below⟩⟩
  · cases moves
  rcases List.forall_mem_cons.1 orderly with ⟨ofTop, ofBelow⟩
  rcases next_of_idle moves with ⟨build, rfl, rfl⟩ | ⟨goal, parts, rfl, expands, rfl⟩
  · have bounded := charges_le below
    refine ⟨ofBelow, ?_⟩
    simp only [charges_cons, Symbol.charge]
    omega
  · have ofParts := orderly_of_expand ofTop expands
    have lighter := charges_lt_of_expand ofTop expands
    have joined := charges_append_le parts below
    refine ⟨List.forall_mem_append.2 ⟨ofParts, ofBelow⟩, ?_⟩
    simp only [charges_cons, Symbol.charge]
    omega

/-- A move that takes a token raises the charges by less than the allowance. -/
theorem Control.Orderly.shift (orderly : control.Orderly)
    (moves : control.move look = .shift next) :
    next.Orderly ∧ charges next.stack < allowance + charges control.stack := by
  rcases control with ⟨assignable, _ | ⟨symbol, below⟩⟩
  · cases moves
  rcases List.forall_mem_cons.1 orderly with ⟨_, ofBelow⟩
  rcases next_of_shift moves with ⟨kind, _, awaits, rfl⟩
  have bounded := charges_le below
  refine ⟨ofBelow, ?_⟩
  rcases awaits with rfl | rfl
  · simp only [charges_cons, Symbol.charge]
    omega
  · simp only [charges_cons, Symbol.charge]
    omega

end Moves

/-! ## Runs -/

section Runs

variable {config next final : Config Kind Unit}

/-- Every step uses up some of the moves that are left. -/
theorem movesLeft_lt_of_step (orderly : config.control.Orderly)
    (steps : onKinds.step config = some next) :
    next.control.Orderly ∧ next.movesLeft < config.movesLeft := by
  rcases config with ⟨control, ⟨⟩, kinds⟩
  rcases step_onKinds_cases steps with ⟨further, moves, rfl⟩ | ⟨kind, others, further, rfl, moves, rfl⟩
  · rcases orderly.idle moves with ⟨orderlyNext, lower⟩
    exact ⟨orderlyNext, Nat.add_lt_add_left lower _⟩
  · rcases orderly.shift moves with ⟨orderlyNext, lower⟩
    refine ⟨orderlyNext, ?_⟩
    simp only [Config.movesLeft, List.length_cons, Nat.mul_succ] at lower ⊢
    omega

open StateTransition (EvalsToInTime)

/-- The machine comes from one place to another in at most so many steps. -/
def ComesWithin (count : Nat) (start final : Config Kind Unit) : Prop :=
  Nonempty (EvalsToInTime onKinds.step start (some final) count)

theorem ComesWithin.mono {count more : Nat} (comes : ComesWithin count config final)
    (bounded : count ≤ more) : ComesWithin more config final := by
  rcases comes with ⟨comes⟩
  exact ⟨⟨comes.toEvalsTo, comes.steps_le_m.trans bounded⟩⟩

/-- One step is made before the others. -/
theorem ComesWithin.head {count more : Nat} (steps : onKinds.step config = some next)
    (comes : ComesWithin count next final) (bounded : count < more) :
    ComesWithin more config final := by
  rcases comes with ⟨comes⟩
  have one : EvalsToInTime onKinds.step config (some next) 1 := ⟨⟨1, steps⟩, Nat.le_refl _⟩
  have both : ComesWithin (count + 1) config final := ⟨.trans _ _ _ _ _ _ one comes⟩
  exact both.mono bounded

/-- Wherever the machine comes to, it comes there with no more steps than it had left. -/
theorem comesWithin_of_reaches (orderly : config.control.Orderly)
    (reaches : onKinds.Reaches config final) : ComesWithin config.movesLeft config final := by
  induction reaches using Relation.ReflTransGen.head_induction_on with
  | refl => exact ⟨⟨(EvalsToInTime.refl _ _).toEvalsTo, Nat.zero_le _⟩⟩
  | head steps _ inductionHypothesis =>
      rcases movesLeft_lt_of_step orderly steps with ⟨orderlyNext, lower⟩
      exact .head steps (inductionHypothesis orderlyNext) lower

/-- Where the machine comes to in some steps, it runs to. -/
theorem ComesWithin.reaches {count : Nat} (comes : ComesWithin count config final) :
    onKinds.Reaches config final := by
  rcases comes with ⟨⟨steps, evaluates⟩, bounded⟩
  clear bounded
  induction steps generalizing config with
  | zero =>
      cases evaluates
      exact .refl _
  | succ steps inductionHypothesis =>
      have later : (flip bind onKinds.step)^[steps] (onKinds.step config) = some final := evaluates
      cases moves : onKinds.step config with
      | none =>
          have stays : (flip bind onKinds.step)^[steps] none = none := Function.iterate_fixed rfl _
          rw [moves, stays] at later
          cases later
      | some next =>
          rw [moves] at later
          exact (Semantics.Reaches.of_step moves).trans (inductionHypothesis later)

/-- The machine halts, with no more steps than it had left. -/
theorem exists_halt (orderly : config.control.Orderly) :
    ∃ final, onKinds.step final = none ∧ ComesWithin config.movesLeft config final := by
  induction left : config.movesLeft using Nat.strong_induction_on generalizing config with
  | _ count inductionHypothesis =>
      cases steps : onKinds.step config with
      | none => exact ⟨config, steps, ⟨⟨(EvalsToInTime.refl _ _).toEvalsTo, Nat.zero_le _⟩⟩⟩
      | some next =>
          rcases movesLeft_lt_of_step orderly steps with ⟨orderlyNext, lower⟩
          rcases inductionHypothesis _ (left ▸ lower) orderlyNext rfl with ⟨final, halts, comes⟩
          exact ⟨final, halts, comes.head steps (left ▸ lower)⟩

end Runs

end Script.Machine
