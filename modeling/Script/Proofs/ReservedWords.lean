import Script.Proofs.Lexing

/-!
# Reserved words are no names

Reserved words end where no word character follows, in any script, while names have
ASCII characters only.  So a reserved word is read as a name where a letter of another
script, a mark or a joiner is glued to it.  No rule accepts such a character, and the
very next pull is rejected there.

A source that is read to its end therefore has no reserved word among its names.
-/

namespace Script

/-- A name that is spelled like a reserved word. -/
def Token.MasksReserved (token : Token) : Prop :=
  token.kind = .identifier ∧ ∃ word ∈ Kind.reserved, word.name = token.text

/-- A word character that no name goes on with lies outside ASCII. -/
theorem outsideAscii_of_foreign {character : Char}
    (continues : Text.isWordCharacter character = true)
    (foreign : Tree.continuesName character = false) : 128 ≤ character.toNat := by
  -- Only the first four ranges of word characters lie in ASCII.
  have others : ∀ range ∈ Text.wordRanges,
      range ∈ Text.wordRanges.take 4 ∨ 128 ≤ range.first := by
    decide +kernel
  have ofNames : ∀ code < 128, ∀ range ∈ Text.wordRanges.take 4,
      range.holds (Char.ofNat code) = true → Tree.continuesName (Char.ofNat code) = true := by
    decide +kernel
  by_contra ascii
  rcases List.any_eq_true.1 continues with ⟨range, member, holds⟩
  rcases others range member with first | beyond
  · have inName := ofNames character.toNat (by omega) range first
    rw [Char.ofNat_toNat] at inName
    exact absurd (inName holds) (Bool.eq_false_iff.1 foreign)
  · simp only [Text.CodeRange.holds, Bool.and_eq_true, decide_eq_true_eq] at holds
    omega

namespace Lexer

variable {lexer further : Lexer} {token : Token}
  {shorter : further.rest.length < lexer.rest.length}

/-- A token ends where the lexer goes on. -/
theorem span_of_next (pulled : lexer.next = .token token further shorter) :
    token.span.stop = further.offset.toUInt32 ∧ token.span.file = further.file := by
  rcases lexer.exists_stops with ⟨place, _, stops⟩
  cases stops with
  | finished _ _ finished => cases pulled.symm.trans finished
  | rejected _ _ _ rejected => cases pulled.symm.trans rejected
  | token _ _ _ given =>
      cases pulled.symm.trans given
      exact ⟨rfl, rfl⟩

/-- Behind a name that is spelled like a reserved word a word goes on as no name does. -/
theorem exists_foreign_of_masksReserved (pulled : lexer.next = .token token further shorter)
    (masks : token.MasksReserved) :
    ∃ character rest, further.rest = character :: rest ∧
      Text.isWordCharacter character = true ∧ Tree.continuesName character = false := by
  rcases masks with ⟨isName, word, reserved, spelled⟩
  rcases lexer.exists_stops with ⟨place, _, stops⟩
  cases stops with
  | finished _ _ finished => cases pulled.symm.trans finished
  | rejected _ _ _ rejected => cases pulled.symm.trans rejected
  | token found emits _ given =>
      cases pulled.symm.trans given
      cases isName
      rw [Rule.eq_name_of_first? found emits] at found
      have isReserved := Rule.ofReserved?_name reserved
      rw [spelled] at isReserved
      exact Rule.exists_foreign_of_name found isReserved

end Lexer

/--
Whenever a pull gives a name that is spelled like a reserved word, a word character
outside ASCII follows it, and the next pull is rejected with that character, where the
name ends.  A source that is read to its end has no such name, and no name of it starts
with a digit.
-/
theorem reserved_names_stop_short :
    (∀ (lexer further : Lexer) (token : Token)
      (shorter : further.rest.length < lexer.rest.length),
      lexer.next = .token token further shorter → token.MasksReserved →
        ∃ character rest, further.rest = character :: rest ∧
          Text.isWordCharacter character = true ∧ 128 ≤ character.toNat ∧
            further.next =
              .rejected ⟨.unrecognisedToken (String.singleton character),
                ⟨token.span.stop, token.span.file⟩⟩ further (Nat.le_refl _)) ∧
    ∀ (source : String) (file : Option String) (tokens : List Token),
      tokenize source file = .ok tokens → ∀ token ∈ tokens,
        ¬token.MasksReserved ∧
          (token.kind = .identifier → ∀ first ∈ token.text.toList.head?, first.isDigit = false) := by
  constructor
  · intro lexer further token shorter pulled masks
    rcases Lexer.exists_foreign_of_masksReserved pulled masks with
      ⟨character, rest, behind, continues, foreign⟩
    refine ⟨character, rest, behind, continues, outsideAscii_of_foreign continues foreign, ?_⟩
    have refused : Rule.first? further.rest = none :=
      behind ▸ Rule.first?_of_foreign continues foreign rest
    rcases Lexer.span_of_next pulled with ⟨stop_eq, file_eq⟩
    rw [Lexer.next_of_refused (by rw [behind]; rfl) refused, stop_eq, file_eq]
    rfl
  · intro source file tokens lexes token member
    have ofText := tokenize_iff_lexes.1 ⟨tokens, lexes, rfl⟩
    have isLexeme : token.lexeme ∈ tokens.map Token.lexeme := List.mem_map_of_mem member
    constructor
    · rintro ⟨isName, word, reserved, spelled⟩
      have unreserved := ofText.unreserved _ isLexeme isName
      rw [show token.lexeme.text = word.name from spelled.symm,
        Rule.ofReserved?_name reserved] at unreserved
      cases unreserved
    · intro isName first isFirst
      have spells := ofText.spells _ isLexeme
      rw [show token.lexeme.kind = .identifier from isName] at spells
      rcases spells with ⟨start, others, whole, starts, _⟩
      rw [show token.text.toList = start :: others from whole] at isFirst
      cases isFirst
      exact isDigit_of_startsName starts

/-- An accent behind `let` makes it a name that nothing can follow; `lets` is a name. -/
theorem accented_let_stops_short :
    (∃ (further : Lexer) (token : Token)
      (shorter : further.rest.length < (Lexer.start "leté" none).rest.length),
      (Lexer.start "leté" none).next = .token token further shorter ∧ token.MasksReserved ∧
        ∃ character rest, further.rest = character :: rest ∧
          Text.isWordCharacter character = true ∧ 128 ≤ character.toNat ∧
            further.next =
              .rejected ⟨.unrecognisedToken (String.singleton character),
                ⟨token.span.stop, token.span.file⟩⟩ further (Nat.le_refl _)) ∧
    ∃ tokens, tokenize "lets 2x" none = .ok tokens ∧ ∀ token ∈ tokens,
      ¬token.MasksReserved ∧
        (token.kind = .identifier → ∀ first ∈ token.text.toList.head?, first.isDigit = false) := by
  constructor
  · have pulled : (Lexer.start "leté" none).next =
        .token ⟨.identifier, "let", ⟨0, 3, "shell"⟩⟩ ((Lexer.start "leté" none).forward 3)
          (by decide +kernel) := by
      decide +kernel
    have masks : Token.MasksReserved ⟨.identifier, "let", ⟨0, 3, "shell"⟩⟩ :=
      ⟨rfl, .letWord, by decide, rfl⟩
    exact ⟨_, _, _, pulled, masks, reserved_names_stop_short.1 _ _ _ _ pulled masks⟩
  · have lexes : tokenize "lets 2x" none = .ok
        [⟨.identifier, "lets", ⟨0, 4, "shell"⟩⟩, ⟨.number, "2", ⟨5, 6, "shell"⟩⟩,
          ⟨.identifier, "x", ⟨6, 7, "shell"⟩⟩] := by
      decide +kernel
    exact ⟨_, lexes, reserved_names_stop_short.2 _ _ _ lexes⟩

end Script
