import Script.Proofs.Completeness
import Script.Proofs.Simulation
import Script.Proofs.Soundness
import Script.Tree.Equality

/-!
# The parser accepts what the grammar derives

A source is accepted with a tree exactly where all of it consists of tokens and
the grammar derives the tree from their lexemes.  From left to right this is
soundness of the productions.  From right to left, a production that failed would
stop the stack machine, which reads every derivable program to the end; so the
parser succeeds, and its tree is the one that the lexemes spell.
-/

namespace Script.Parser

open Grammar Machine

/-- The answers of a parser can be compared. -/
instance decidableEqAnswer : DecidableEq (Except Diagnostic Tree)
  | .ok first, .ok second => decidable_of_iff (first = second) (by simp)
  | .error first, .error second => decidable_of_iff (first = second) (by simp)
  | .ok _, .error _ => isFalse (by simp)
  | .error _, .ok _ => isFalse (by simp)

/-- The parser accepts where the machine reads everything that is left. -/
theorem accepts_of_runs {state : State} {after : Bool} (genuine : state.Genuine)
    (unblocked : state.blocked = none) (runs : Runs .initial state.kinds ⟨after, []⟩ []) :
    ∃ (tree : Tree) (next : State) (lighter : next.weight < state.weight + 1),
      program state = .ok tree next lighter := by
  have follows := program_performs state false genuine
  cases reply : (program state : Reply Tree (state.weight + 1)) with
  | ok tree next lighter => exact ⟨tree, next, lighter, rfl⟩
  | fail diagnostic next =>
      rw [reply] at follows
      rcases follows with ⟨last, advances, stops⟩
      rcases stops [] with ⟨control, runsToLast, explains⟩
      exfalso
      cases explains with
      | refused refuses reports =>
          -- The machine would be stuck in front of a token, but it comes to the end.
          have looks : next.kinds.head?.map onKinds.kind = next.kind? := by simp
          rw [← looks] at refuses
          have same := runsToLast.unique (Semantics.step_of_refuse refuses) runs rfl
          simp only [Config.mk.injEq] at same
          rw [same.1] at refuses
          cases refuses
      | starved shifts starves =>
          have blocks := starves.blocks
          rw [advances.blocked_eq, unblocked] at blocks
          cases blocks

/-- A program that is accepted leaves no token, and the lexer did not fail. -/
theorem ended_of_program {state next : State} {tree : Tree}
    {lighter : next.weight < state.weight + 1} (genuine : state.Genuine)
    (accepts : program state = .ok tree next lighter) :
    state.Advances next ∧ next.lookahead = none ∧ state.blocked = none := by
  have follows := program_performs state false genuine
  rw [accepts] at follows
  have ended := (derives_of_program accepts).1
  refine ⟨follows.1, ended, ?_⟩
  rw [← follows.1.blocked_eq, State.blocked, ended]

/-- A state accepts a tree exactly where what is left is derived from it. -/
theorem program_eq_ok_iff {state : State} {tree : Tree} (genuine : state.Genuine) :
    (program state : Reply Tree (state.weight + 1)).outcome.answer = .ok tree ↔
      state.blocked = none ∧ Derives .program (state.pending.map Token.lexeme) [tree] := by
  constructor
  · intro answers
    cases reply : (program state : Reply Tree (state.weight + 1)) with
    | fail diagnostic next =>
        rw [reply] at answers
        cases answers
    | ok value next lighter =>
        rw [reply] at answers
        cases answers
        exact ⟨(ended_of_program genuine reply).2.2, (derives_of_program reply).2⟩
  · rintro ⟨unblocked, derives⟩
    rcases runs_of_derives derives with ⟨after, runs⟩
    rw [List.map_map] at runs
    rcases accepts_of_runs genuine unblocked runs with ⟨value, next, lighter, accepts⟩
    have same : value = tree := tree_unique (derives_of_program accepts).2 derives
    rw [accepts, same]
    rfl

/-- A source is accepted exactly where it has tokens that derive the tree. -/
theorem parse_eq_ok_iff {source : String} {file : Option String} {tree : Tree} :
    parse source file = .ok tree ↔
      ∃ tokens, tokenize source file = .ok tokens ∧
        Derives .program (tokens.map Token.lexeme) [tree] := by
  simp only [tokenize_eq_ok_iff, and_assoc, exists_and_left, exists_eq_left]
  unfold parse
  rcases parseFrom_cases Tree (State.initial file) source with
    ⟨diagnostic, drains, answers⟩ | ⟨loaded, isLoaded, answers⟩
  · have fails : (Lexer.start source file).drain.failure = some diagnostic := by
      rw [show (Lexer.start source file).drain = _ from drains]
    simp [answers, fails]
  · rw [answers, program_eq_ok_iff isLoaded.genuine, isLoaded.pending_eq, isLoaded.blocked_eq]
    rfl

/-- A source that is accepted is read to its end. -/
theorem ended_of_parseFrom {source : String} {state : State} {tree : Tree}
    (accepts : (parseFrom state source).answer = .ok tree) :
    (parseFrom state source : Outcome Tree).next.lookahead = none ∧
      (parseFrom state source : Outcome Tree).next.lexer.rest = [] := by
  rcases parseFrom_cases Tree state source with
    ⟨diagnostic, drains, answers⟩ | ⟨loaded, isLoaded, answers⟩
  · rw [answers] at accepts
    cases accepts
  · rw [answers] at accepts ⊢
    cases reply : (program loaded : Reply Tree (loaded.weight + 1)) with
    | fail diagnostic next =>
        rw [reply] at accepts
        cases accepts
    | ok value next lighter =>
        rcases ended_of_program isLoaded.genuine reply with ⟨advances, ended, _⟩
        exact ⟨ended, advances.settled isLoaded.settled ended⟩

/--
The parser and the grammar agree: a source is accepted with a tree exactly where
it has tokens that derive the tree, no lexemes derive two trees, and whatever is
accepted is read to its end.
-/
theorem parse_agrees_with_grammar :
    (∀ (source : String) (file : Option String) (tree : Tree),
      parse source file = .ok tree ↔
        ∃ tokens, tokenize source file = .ok tokens ∧
          Derives .program (tokens.map Token.lexeme) [tree]) ∧
    (∀ (lexemes : List Lexeme) (first second : Tree),
      Derives .program lexemes [first] → Derives .program lexemes [second] →
        first = second) ∧
    (∀ (source : String) (file : Option String) (tree : Tree),
      parse source file = .ok tree →
        (parseFrom (State.initial file) source : Outcome Tree).next.lookahead = none ∧
          (parseFrom (State.initial file) source : Outcome Tree).next.lexer.rest = []) :=
  ⟨fun _ _ _ => parse_eq_ok_iff, fun _ _ _ => tree_unique, fun _ _ _ => ended_of_parseFrom⟩

/-- An `else` goes to the nearest `if`: the only tree of the lexemes is the one that is read. -/
theorem nested_else_agrees :
    ∃ tokens, tokenize "if (a) if (b) ; else ;" none = .ok tokens ∧
      Derives .program (tokens.map Token.lexeme)
        [.program [.conditional (.identifier "a")
          (.conditional (.identifier "b") .empty (some .empty)) none]] ∧
      (∀ tree, Derives .program (tokens.map Token.lexeme) [tree] →
        tree = .program [.conditional (.identifier "a")
          (.conditional (.identifier "b") .empty (some .empty)) none]) ∧
      (parseFrom (State.initial none) "if (a) if (b) ; else ;" : Outcome Tree).next.lookahead =
        none := by
  have accepts : parse "if (a) if (b) ; else ;" none =
      .ok (Tree.program [.conditional (.identifier "a")
        (.conditional (.identifier "b") .empty (some .empty)) none]) := by
    decide +kernel
  rcases parse_agrees_with_grammar with ⟨agrees, unique, ends⟩
  rcases (agrees _ _ _).1 accepts with ⟨tokens, lexes, derives⟩
  exact ⟨tokens, lexes, derives, fun tree others => unique _ _ _ others derives,
    (ends _ _ _ accepts).1⟩

end Script.Parser
