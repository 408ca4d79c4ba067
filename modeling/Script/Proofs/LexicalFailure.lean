import Script.Proofs.ErrorPosition
import Script.Proofs.Lockstep
import Script.Proofs.Partition

/-!
# Failures of the lexer, met by the parser or not

A parser pulls its tokens one ahead and may refuse a source before the lexer comes
to a character that no rule accepts.  All tokens of a source together are refused
at that character whatever they are.  Still the two agree: a lexical diagnostic of
the parser is that of the tokens, and a source without tokens is never parsed.
Where the parser reports something else about such a source, it is a fault of the
grammar in front of the character.

The places are those of the tokens, so this is said of sources that have fewer than
`2 ^ 32` bytes.
-/

namespace Script

namespace Parser

/-! ## Diagnostics about a source that the lexer does not read to its end -/

namespace Wrong

variable {source : Lexer} {diagnostic stopping : Diagnostic}

/-- A lexical diagnostic is the one that stops the lexer. -/
theorem failure_of_lexical (wrong : Wrong source diagnostic)
    (lexical : diagnostic.cause.stage = .lexical) :
    source.drain.failure = some diagnostic := by
  cases wrong with
  | text stopped viable => exact stopped
  | token tokens_eq grammatical notEnd viable dead =>
      rw [grammatical] at lexical
      cases lexical
  | ending expected complete atEnd viable unfinished => cases lexical

/-- A diagnostic is the one that stops the lexer, or it lies in front of that one. -/
theorem eq_or_before (short : Text.byteLength source.source < UInt32.size)
    (wrong : Wrong source diagnostic) (stopped : source.drain.failure = some stopping) :
    diagnostic = stopping ∨
      diagnostic.cause.stage = .grammatical ∧
        diagnostic.position.offset < stopping.position.offset := by
  cases wrong with
  | text stoppedHere viable =>
      left
      rw [stoppedHere, Option.some.injEq] at stopped
      exact stopped
  | @token cause token front back tokens_eq grammatical notEnd viable dead =>
      right
      -- The lexer is stopped behind all tokens, and the one refused is not empty.
      have ordered := source.inOrder_drain short
      rw [Lexer.limit, stopped, tokens_eq] at ordered
      rcases ordered.of_append with ⟨middle, _, ordered⟩
      cases ordered with
      | cons follows nonempty rest =>
          exact ⟨grammatical, UInt32.lt_iff_toNat_lt.2 (Nat.lt_of_lt_of_le nonempty rest.le)⟩
  | ending expected complete atEnd viable unfinished =>
      rw [complete] at stopped
      cases stopped

end Wrong

/-! ## The modes -/

/-- Diagnostics that agree up to a target are of one stage. -/
theorem AgreeUpToTarget.stage_eq {first second : Diagnostic}
    (agree : AgreeUpToTarget first second) :
    first.cause.stage = second.cause.stage := by
  rcases agree with ⟨_, same | ⟨target, other, ofFirst, ofSecond⟩⟩
  · rw [same]
  · rw [ofFirst, ofSecond]
    rfl

/-- A lexical diagnostic has no target, so it agrees with none but itself. -/
theorem AgreeUpToTarget.eq_of_lexical {first second : Diagnostic}
    (agree : AgreeUpToTarget first second) (lexical : first.cause.stage = .lexical) :
    first = second := by
  rcases first with ⟨cause, position⟩
  rcases second with ⟨otherCause, otherPosition⟩
  rcases agree with ⟨samePosition, sameCause | ⟨target, other, ofFirst, _⟩⟩
  · cases samePosition
    cases sameCause
    rfl
  · rw [ofFirst] at lexical
    cases lexical

section Modes

variable {α β γ : Type} {Corresponds : α → β → Prop}

theorem AnswersAgree.refl (answer : Except Diagnostic α) : AnswersAgree Eq answer answer := by
  cases answer with
  | ok value => exact .ok rfl
  | error diagnostic => exact .error (.refl diagnostic)

/-- Answers agree on failure whatever is made of one of the values. -/
theorem AnswersAgree.forget {first : Except Diagnostic α} {second : Except Diagnostic β}
    (agree : AnswersAgree Corresponds first second) (change : β → γ) :
    AnswersAgree (fun _ _ => True) first (second.map change) := by
  cases agree with
  | ok corresponds => exact .ok trivial
  | error agree => exact .error agree

end Modes

/-- Each mode accepts what is accepted where trees are built, and refuses it alike. -/
theorem parse_agrees_with_tree (mode : Mode) (source : String) (file : Option String) :
    AnswersAgree (fun _ _ => True) (parse source file : Except Diagnostic Tree)
      (Script.parse mode source file) := by
  have started : (State.initial file).Genuine := State.genuine_of_none rfl
  cases mode with
  | tree => exact (AnswersAgree.refl _).forget Output.tree
  | list => exact (parseFrom_agrees started source).answers.forget Output.list

/-- A source that the lexer does not read to its end is refused. -/
theorem exists_error_of_failure {source : String} {file : Option String}
    {stopping : Diagnostic} (stopped : tokenize source file = .error stopping) :
    ∃ diagnostic, (parse source file : Except Diagnostic Tree) = .error diagnostic := by
  cases answers : (parse source file : Except Diagnostic Tree) with
  | error diagnostic => exact ⟨diagnostic, rfl⟩
  | ok tree =>
      rcases parse_eq_ok_iff.1 answers with ⟨tokens, lexes, _⟩
      rw [lexes] at stopped
      cases stopped

end Parser

/--
The parser and the tokens agree on lexical failure.  A lexical diagnostic of the
parser is the one that the tokens fail with.  A source whose tokens fail is refused
with that diagnostic, or with one of the grammar at an earlier place.
-/
theorem lexical_failures_agree (mode : Mode) {source : String} (file : Option String)
    (short : source.utf8ByteSize < 2 ^ 32) :
    (∀ diagnostic, parse mode source file = .error diagnostic →
      diagnostic.cause.stage = .lexical → tokenize source file = .error diagnostic) ∧
    ∀ stopping, tokenize source file = .error stopping →
      ∃ diagnostic, parse mode source file = .error diagnostic ∧
        (diagnostic = stopping ∨
          diagnostic.cause.stage = .grammatical ∧
            diagnostic.position.offset < stopping.position.offset) := by
  have agree := Parser.parse_agrees_with_tree mode source file
  constructor
  · intro diagnostic fails lexical
    rw [fails] at agree
    generalize answers : (Parser.parse source file : Except Diagnostic Tree) = answer at agree
    cases agree with
    | @error reported _ agree =>
        rw [← agree.stage_eq] at lexical
        rw [← agree.eq_of_lexical lexical]
        exact tokenize_eq_error_iff.2
          ((Parser.wrong_of_parse answers).failure_of_lexical lexical)
  · intro stopping stopped
    have size : Text.byteLength (Lexer.start source file).source < UInt32.size :=
      Text.byteLength_toList_lt short
    rcases Parser.exists_error_of_failure stopped with ⟨reported, refuses⟩
    have before := (Parser.wrong_of_parse refuses).eq_or_before size
      (tokenize_eq_error_iff.1 stopped)
    rw [refuses] at agree
    generalize answers : parse mode source file = answer at agree
    cases agree with
    | @error _ diagnostic agree =>
        refine ⟨diagnostic, rfl, ?_⟩
        rcases before with rfl | ⟨grammatical, earlier⟩
        · have lexical : reported.cause.stage = .lexical := by
            rcases Lexer.cause_of_drain (tokenize_eq_error_iff.1 stopped) with ⟨character, cause_eq⟩
            rw [cause_eq]
            rfl
          exact .inl (agree.eq_of_lexical lexical).symm
        · rw [agree.stage_eq] at grammatical
          rw [agree.1] at earlier
          exact .inr ⟨grammatical, earlier⟩

/--
The same stray character is reported behind an operator, and behind a missing one it
is not, because the parser stops in front of it.
-/
theorem stray_character_met_or_not :
    tokenize "x = @" none = .error ⟨.unrecognisedToken "@", ⟨4, "shell"⟩⟩ ∧
      ∃ diagnostic, parse .tree "x y @" none = .error diagnostic ∧
        diagnostic.cause.stage = .grammatical ∧ diagnostic.position.offset < 4 := by
  have met : (Parser.parse "x = @" none : Except Diagnostic Tree) =
      .error ⟨.unrecognisedToken "@", ⟨4, "shell"⟩⟩ := by
    decide +kernel
  have notMet : (Parser.parse "x y @" none : Except Diagnostic Tree) =
      .error ⟨.unexpectedToken "y" ";", ⟨2, "shell"⟩⟩ := by
    decide +kernel
  have stopped : tokenize "x y @" none = .error ⟨.unrecognisedToken "@", ⟨4, "shell"⟩⟩ :=
    tokenize_eq_error_iff.2 (by decide +kernel)
  constructor
  · apply (lexical_failures_agree .tree none (by decide +kernel)).1 _ ?_ rfl
    exact congrArg (Except.map Output.tree) met
  · rcases (lexical_failures_agree .tree none (by decide +kernel)).2 _ stopped with
      ⟨diagnostic, refuses, same | before⟩
    · have reported := refuses.symm.trans (congrArg (Except.map Output.tree) notMet)
      rw [same] at reported
      cases reported
    · exact ⟨diagnostic, refuses, before⟩

end Script
