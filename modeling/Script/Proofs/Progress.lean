import Script.Proofs.FailedRequest
import Script.Proofs.Halting

/-!
# Every production comes to an end and gets further

Wherever a parser stands, each production comes to an end: the machine that is set to its
goal gets to where the production stops with a number of moves that is linear in the
tokens that are left.  On the way the lexer only moves on, and a production that succeeds
has taken a token, unless it is one that accepts nothing at all.

So a whole source is read in a number of moves that is linear in its length, whatever is
wrong with it.
-/

namespace Script

/-- A source has no more tokens than characters. -/
theorem Lexer.length_drain_le (lexer : Lexer) : lexer.drain.tokens.length ≤ lexer.rest.length := by
  fun_induction Lexer.drain lexer with
  | case1 lexer token next shorter pulled others inductionHypothesis =>
      exact Nat.lt_of_le_of_lt inductionHypothesis shorter
  | case2 => exact Nat.zero_le _
  | case3 => exact Nat.zero_le _

namespace Parser

open Machine

/-! ## Where a parser can stand -/

/--
The states that a parser of a mode comes through: between requests, and within one, where
a source is loaded and where tokens are taken one after the other.
-/
inductive Reachable (mode : Mode) (file : Option String) : State → Prop where
  | initial : Reachable mode file (.initial file)
  | answered {state : State} (request : Request) (reached : Reachable mode file state) :
      Reachable mode file (respondIn mode request state).next
  | loaded {state : State} (source : String) (reached : Reachable mode file state) :
      Reachable mode file (load state source).next
  | taken {state next : State} {token : Token} (takes : state.Takes token next)
      (reached : Reachable mode file state) : Reachable mode file next

section Reachable

variable {mode : Mode} {file : Option String} {state : State}

theorem genuine_respondIn (mode : Mode) (request : Request) (genuine : state.Genuine) :
    (respondIn mode request state).next.Genuine := by
  have agrees := respond_agrees request genuine
  cases mode with
  | tree => exact agrees.genuine
  | list => exact agrees.next_eq ▸ agrees.genuine

/-- The token looked at always came from a lexer. -/
theorem Reachable.genuine (reached : Reachable mode file state) : state.Genuine := by
  induction reached with
  | initial => exact State.genuine_of_none rfl
  | answered request _ inductionHypothesis => exact genuine_respondIn mode request inductionHypothesis
  | loaded source _ inductionHypothesis => exact load_genuine inductionHypothesis source
  | taken takes _ _ => exact takes.genuine

theorem reachable_stateIn (mode : Mode) (file : Option String) (requests : List Request) :
    Reachable mode file (stateIn mode file requests) := by
  induction requests using List.reverseRecOn with
  | nil => cases mode <;> exact .initial
  | append_singleton earlier request inductionHypothesis =>
      have answered := inductionHypothesis.answered request
      cases mode with
      | tree =>
          rw [stateIn, stateAfter, List.foldl_append]
          exact answered
      | list =>
          rw [stateIn, stateAfter, List.foldl_append]
          exact answered

end Reachable

/-! ## Productions -/

/-- What can be read from where a parser stands, one node or a list of them. -/
inductive Part where
  | production (production : Production)
  /-- Statements up to a kind of token. -/
  | statements (stop : Option Kind)
  deriving DecidableEq, Repr

/-- A part that accepts no text without a token. -/
def Part.Consumes : Part → Prop
  | .production .program | .statements _ => False
  | _ => True

/-- What the machine is set to do where a part is run. -/
def Part.goal : Part → Goal
  | .production named => named.goal
  | .statements stop => .statements stop

/-- What a part comes to, without what it builds. -/
def outcomeOf (Node : Type) [Builder Node] (part : Part) (state : State) : Outcome Unit :=
  match part with
  | .production production => (produce production state : Outcome Node).map fun _ => ()
  | .statements stop =>
      (statements stop state state.weight_lt_succ :
        Reply (List Node) (state.weight + 1)).outcome.map fun _ => ()

/-- What a part comes to in a mode. -/
def run (mode : Mode) (part : Part) (state : State) : Outcome Unit :=
  match mode with
  | .tree => outcomeOf Tree part state
  | .list => outcomeOf SExpr part state

/-- The machine set to a part, before the tokens that are left. -/
def Part.start (part : Part) (state : State) : Config Kind Unit :=
  ⟨⟨false, [.goal part.goal]⟩, (), state.kinds⟩

/--
Where a part stops, the machine stands as well, after no more than some moves: it has
nothing left to read, or what it looks at explains the diagnostic.
-/
inductive Settles (moves : Nat) (part : Part) (state : State) : Outcome Unit → Prop where
  | done {next : State} {assignable : Bool}
      (comes : ComesWithin moves (part.start state) ⟨⟨assignable, []⟩, (), next.kinds⟩) :
      Settles moves part state ⟨.ok (), next⟩
  | failed {last next : State} {control : Control} {diagnostic : Diagnostic}
      (advances : state.Advances last)
      (comes : ComesWithin moves (part.start state) ⟨control, (), last.kinds⟩)
      (explains : Explains control last diagnostic next) :
      Settles moves part state ⟨.error diagnostic, next⟩

/-- A part comes to an end, and gets further. -/
structure Progresses (part : Part) (state : State) (outcome : Outcome Unit) : Prop where
  /-- The machine halts, whatever it is given. -/
  halts : ∃ final, onKinds.step final = none ∧
    ComesWithin (moveLimit state.pending.length) (part.start state) final
  /-- The part stops where the machine stands after a bounded number of moves. -/
  settles : Settles (moveLimit state.pending.length) part state outcome
  /-- The lexer has not moved back. -/
  onward : state.lexer.Precedes outcome.next.lexer
  /-- A part that succeeds has taken a token. -/
  takes : part.Consumes → outcome.answer = .ok () →
    ∃ token middle, state.Takes token middle ∧ middle.Advances outcome.next

/-! ## Parts with trees -/

section Trees

variable {part : Part} {state : State}

/-- What a part builds is no matter to the machine. -/
theorem Performs.forget {α : Type} {bound : Nat} {goal : Goal} {leaves : α → Bool → Prop}
    {reply : Reply α bound} (performs : Performs goal state leaves reply) :
    Performs goal state Anything (reply.map fun _ => ()) :=
  fun assignable => (performs assignable).map fun _ _ _ => trivial

theorem outcome_map {α β : Type} {bound : Nat} (reply : Reply α bound) (change : α → β) :
    (reply.map change).outcome = reply.outcome.map change := by
  cases reply <;> rfl

/-- Each part does what the machine does with its goal. -/
theorem part_performs (part : Part) (state : State) :
    ∃ (bound : Nat) (reply : Reply Unit bound),
      outcomeOf Tree part state = reply.outcome ∧ Performs part.goal state Anything reply ∧
        (part.Consumes → bound = state.weight) := by
  cases part with
  | production production =>
      rcases produce_performs production state with ⟨_, bound, reply, equation, performs, lighter⟩
      refine ⟨bound, reply.map fun _ => (), ?_, performs.forget, fun consumes => lighter ?_⟩
      · rw [outcomeOf, equation, outcome_map]
      · rintro rfl
        exact consumes
  | statements stop =>
      exact ⟨_, _, (outcome_map _ _).symm, ((allStatements_perform state).1 stop _ _).forget, nofun⟩

/-- A state that is lighter after some tokens is so after at least one. -/
theorem exists_takes {next : State} (advances : state.Advances next)
    (lighter : next.weight < state.weight) :
    ∃ token middle, state.Takes token middle ∧ middle.Advances next := by
  cases advances using Relation.ReflTransGen.head_induction_on with
  | refl => exact absurd lighter (Nat.lt_irrefl _)
  | head takes later =>
      rcases takes with ⟨token, takes⟩
      exact ⟨token, _, takes, later⟩

theorem orderly_start (part : Part) (state : State) : (part.start state).control.Orderly := by
  refine List.forall_mem_singleton.2 ?_
  cases part with
  | production production =>
      cases production with
      | operand level => exact orderly_operand level
      | _ => trivial
  | statements => trivial

theorem movesLeft_start_le (part : Part) (state : State) :
    (part.start state).movesLeft ≤ moveLimit state.pending.length := by
  rw [← List.length_map Token.kind]
  exact movesLeft_le_moveLimit _ _ _

/-- Where the machine gets from the start of a part, it gets in a bounded number of moves. -/
theorem comesWithin_of_runs {control : Control} {rest : List Kind}
    (runs : Runs ⟨false, [.goal part.goal]⟩ state.kinds control rest) :
    ComesWithin (moveLimit state.pending.length) (part.start state) ⟨control, (), rest⟩ :=
  (comesWithin_of_reaches (orderly_start part state) runs).mono (movesLeft_start_le part state)

/-- Where trees are built, each part comes to an end and gets further. -/
theorem progresses_with_trees (part : Part) (genuine : state.Genuine) :
    Progresses part state (outcomeOf Tree part state) := by
  rcases part_performs part state with ⟨bound, reply, equation, performs, lightens⟩
  have onward := (performs.drifts genuine).precedes
  have performed := performs false genuine
  rcases exists_halt (orderly_start part state) with ⟨final, stands, comes⟩
  have halts : ∃ final, onKinds.step final = none ∧
      ComesWithin (moveLimit state.pending.length) (part.start state) final :=
    ⟨final, stands, comes.mono (movesLeft_start_le part state)⟩
  rw [equation]
  -- Nothing stands below the goal, so a machine that has dealt with it has nothing left.
  cases reply with
  | ok value next lighter =>
      rcases performed with ⟨advances, after, _, runs⟩
      refine ⟨halts, .done (comesWithin_of_runs (runs [])), onward, fun consumes _ => ?_⟩
      have isBound := lightens consumes
      exact exists_takes advances (isBound ▸ lighter)
  | fail diagnostic next =>
      rcases performed with ⟨last, advances, stops⟩
      rcases stops [] with ⟨control, runs, explains⟩
      exact ⟨halts, .failed advances (comesWithin_of_runs runs) explains, onward, nofun⟩

end Trees

/-! ## Both modes -/

section Modes

variable {part : Part} {state : State}

/-- Whatever is built, a part comes to the same. -/
theorem part_agrees (part : Part) (genuine : state.Genuine) :
    OutcomesAgree (fun _ _ => True) (outcomeOf Tree part state) (outcomeOf SExpr part state) := by
  cases part with
  | production production => exact (produce_agrees production genuine).map fun _ _ _ => trivial
  | statements stop =>
      exact ((allStatements_inStep state).1 stop _ _ genuine).outcome.map fun _ _ _ => trivial

/-- What a target is called is no matter to why the machine gets no further. -/
theorem Explains.agree {control : Control} {last next : State} {diagnostic other : Diagnostic}
    (explains : Explains control last diagnostic next)
    (agree : AgreeUpToTarget diagnostic other) : Explains control last other next := by
  rcases other with ⟨otherCause, otherPosition⟩
  rcases agree with ⟨rfl, rfl | ⟨target, otherTarget, isTarget, rfl⟩⟩
  · exact explains
  cases explains with
  | refused refuses reports =>
      cases isTarget
      refine .refused refuses ?_
      generalize last.lookahead = look at reports
      cases reports with
      | notAssignable token => exact .notAssignable token otherTarget
  | starved shifts starves =>
      have faces := starves.stopsAt.faces
      rw [isTarget] at faces
      rcases faces with ⟨token, held, _⟩
      rw [starves.emptied] at held
      cases held

theorem Progresses.agree {Same : Unit → Unit → Prop} {first second : Outcome Unit}
    (progresses : Progresses part state first) (agree : OutcomesAgree Same first second) :
    Progresses part state second := by
  rcases first with ⟨answer, next⟩
  rcases second with ⟨otherAnswer, _⟩
  rcases progresses with ⟨halts, settles, onward, takes⟩
  rcases agree with ⟨rfl, _, answers⟩
  refine ⟨halts, ?_, onward, ?_⟩
  · cases answers with
    | ok => exact settles
    | error agree =>
        cases settles with
        | failed advances comes explains => exact .failed advances comes (explains.agree agree)
  · cases answers with
    | ok => exact takes
    | error => exact nofun

theorem progresses_of_genuine (mode : Mode) (part : Part) (genuine : state.Genuine) :
    Progresses part state (run mode part state) := by
  have withTrees := progresses_with_trees part genuine
  cases mode with
  | tree => exact withTrees
  | list => exact withTrees.agree (part_agrees part genuine)

/-! ## Whole sources -/

/-- What a source comes to where a state is given it. -/
inductive SourceEnds (source : String) (state : State) : Outcome Unit → Prop where
  /-- The first character that is not skipped is rejected. -/
  | rejected {diagnostic : Diagnostic} {next : State}
      (rejects : load state source = ⟨.error diagnostic, next⟩) :
      SourceEnds source state ⟨.error diagnostic, next⟩
  /-- The first token is looked at, and a program is read in a bounded number of moves. -/
  | read {loaded : State} {outcome : Outcome Unit}
      (loads : load state source = ⟨.ok (), loaded⟩)
      (few : loaded.pending.length ≤ source.length)
      (progresses : Progresses (.production .program) loaded outcome) :
      SourceEnds source state outcome

theorem forget_map {α β : Type} (outcome : Outcome α) (change : α → β) :
    (outcome.map change).map (fun _ => ()) = outcome.map fun _ => () := by
  rcases outcome with ⟨_ | _, _⟩ <;> rfl

/-- A source is read as a program from where it is loaded, in either mode. -/
theorem respondIn_of_loads {source : String} {loaded : State} (mode : Mode)
    (loads : load state source = ⟨.ok (), loaded⟩) :
    respondIn mode (.parse source) state = run mode (.production .program) loaded := by
  cases mode with
  | tree =>
      rw [respondIn, respond, parseFrom, loads]
      exact forget_map _ _
  | list =>
      rw [respondIn, respond, parseFrom, loads]
      exact forget_map _ _

theorem respondIn_of_rejects {source : String} {diagnostic : Diagnostic} {next : State}
    (mode : Mode) (rejects : load state source = ⟨.error diagnostic, next⟩) :
    respondIn mode (.parse source) state = ⟨.error diagnostic, next⟩ := by
  cases mode with
  | tree =>
      rw [respondIn, respond, parseFrom, rejects]
      rfl
  | list =>
      rw [respondIn, respond, parseFrom, rejects]
      rfl

theorem source_ends (mode : Mode) (source : String) :
    SourceEnds source state (respondIn mode (.parse source) state) := by
  rcases load_loaded state source with
    ⟨diagnostic, next, _, rejects⟩ | ⟨loaded, loads, isLoaded⟩
  · rw [respondIn_of_rejects mode rejects]
    exact .rejected rejects
  · have few : loaded.pending.length ≤ source.length := by
      rw [isLoaded.pending_eq]
      exact (Lexer.start source state.file).length_drain_le
    rw [respondIn_of_loads mode loads]
    exact .read loads few (progresses_of_genuine mode (.production .program) isLoaded.genuine)

/--
Wherever a parser of either mode stands, every production comes to an end and gets
further, and every source it is given is read to an end.
-/
theorem productions_end_and_progress {mode : Mode} {file : Option String}
    (reached : Reachable mode file state) :
    (∀ part, Progresses part state (run mode part state)) ∧
      ∀ source, SourceEnds source state (respondIn mode (.parse source) state) :=
  ⟨fun part => progresses_of_genuine mode part reached.genuine,
    fun source => source_ends mode source⟩

/-- An `if` behind a token that was refused is taken, and an unfinished loop is read to its end. -/
theorem refused_source_taken_up :
    (∃ token middle,
      (stateIn .tree none [.parse ") if (a) b;", .advance]).Takes token middle ∧
        middle.Advances (run .tree (.production .conditional)
          (stateIn .tree none [.parse ") if (a) b;", .advance])).next) ∧
      SourceEnds "for (let" (stateIn .list none [.parse "1 2", .parse " @"])
        (respondIn .list (.parse "for (let") (stateIn .list none [.parse "1 2", .parse " @"])) := by
  have succeeds : (run .tree (.production .conditional)
      (stateIn .tree none [.parse ") if (a) b;", .advance])).answer = .ok () := by
    decide +kernel
  constructor
  · have reached := reachable_stateIn .tree none [.parse ") if (a) b;", .advance]
    exact ((productions_end_and_progress reached).1 (.production .conditional)).takes trivial
      succeeds
  · exact (productions_end_and_progress (reachable_stateIn .list none _)).2 "for (let"

end Modes

end Parser

end Script
