import Mathlib.Data.List.Find
import Script.Proofs.Spelling
import Script.Tree.Printer

/-!
# Texts made of lexemes

A lexeme that is spelled as its kind asks is read back from its text, whatever
follows it, as long as a space stands between them.  Lexemes with spaces between
them are therefore the tokens of their text.

Words need the most care.  A reserved word is recognised only where no word
character follows, and the space ends every word, so a word is reserved exactly
where all of it is.
-/

namespace Script

/-- A text is empty or starts with a space. -/
def Parted (tail : List Char) : Prop :=
  tail = [] ∨ ∃ others, tail = ' ' :: others

/-- The first token of a text is a lexeme, if a space or nothing follows the lexeme. -/
def Lexeme.StandsAlone (lexeme : Lexeme) : Prop :=
  ∀ tail, Parted tail →
    ∃ rule,
      Rule.first? (lexeme.text.toList ++ tail) = some (rule, lexeme.text.toList.length) ∧
        rule.kind? lexeme.text = some lexeme.kind

/-- A run of characters ends where a space follows, if it has no space. -/
theorem takeWhile_append_of_parted {holds : Char → Bool} {text tail : List Char}
    (parted : Parted tail) (spaceless : holds ' ' = false)
    (held : ∀ character ∈ text, holds character = true) :
    (text ++ tail).takeWhile holds = text := by
  rw [List.takeWhile_append_of_pos held]
  rcases parted with rfl | ⟨others, rfl⟩
  · simp
  · simp [spaceless]

/-! ## Words -/

/-- What continues a name continues a word. -/
theorem isWordCharacter_of_continuesName {character : Char}
    (continues : Tree.continuesName character = true) :
    Text.isWordCharacter character = true := by
  have covered : ∀ range ∈ Text.wordRanges.take 4, range.holds character = true →
      Text.isWordCharacter character = true := by
    intro range member holds
    exact List.any_eq_true.2 ⟨range, List.mem_of_mem_take member, holds⟩
  rcases continuesName_iff.1 continues with starts | digit
  · rcases toNat_of_startsName starts with upper | lower | rfl
    · exact covered ⟨0x41, 0x5a⟩ (by decide) (by simpa [Text.CodeRange.holds] using upper)
    · exact covered ⟨0x61, 0x7a⟩ (by decide) (by simpa [Text.CodeRange.holds] using lower)
    · exact covered ⟨0x5f, 0x5f⟩ (by decide) (by decide)
  · have bounds := toNat_of_isDigit digit
    exact covered ⟨0x30, 0x39⟩ (by decide) (by simpa [Text.CodeRange.holds] using bounds)

theorem endsWord_of_parted {tail : List Char} (parted : Parted tail) :
    Pattern.endsWord tail = true := by
  rcases parted with rfl | ⟨others, rfl⟩
  · rfl
  · have notWord : Text.isWordCharacter ' ' = false := by decide +kernel
    simp [Pattern.endsWord, notWord]

/-- A text of name characters that a space follows starts with no word but itself. -/
theorem startsWithWord_iff_of_parted {word text tail : List Char} (parted : Parted tail)
    (ofWord : ∀ character ∈ word, Tree.continuesName character = true)
    (ofText : ∀ character ∈ text, Tree.continuesName character = true) :
    Pattern.startsWithWord word (text ++ tail) = true ↔ word = text := by
  rw [Pattern.startsWithWord, Bool.and_eq_true, List.isPrefixOf_iff_prefix]
  constructor
  · rintro ⟨starts, ends⟩
    rcases List.prefix_or_prefix_of_prefix starts (List.prefix_append text tail) with
      ⟨more, rfl⟩ | ⟨more, rfl⟩
    · -- A shorter word would end in front of a word character.
      cases more with
      | nil => simp
      | cons first others =>
          have continues := isWordCharacter_of_continuesName (ofText first (by simp))
          simp [Pattern.endsWord, continues] at ends
    · -- A longer word would contain the space.
      cases more with
      | nil => simp
      | cons first others =>
          rw [List.prefix_append_right_inj] at starts
          rcases parted with rfl | ⟨behind, rfl⟩
          · simp at starts
          · have space : first = ' ' := (List.cons_prefix_cons.1 starts).1
            have continues := ofWord first (by simp)
            rw [space] at continues
            cases continues
  · rintro rfl
    refine ⟨List.prefix_append word tail, ?_⟩
    rw [List.drop_left]
    exact endsWord_of_parted parted

theorem continuesName_of_mem_reserved {kind : Kind} (member : kind ∈ Kind.reserved) :
    ∀ character ∈ kind.name.toList, Tree.continuesName character = true := by
  have settled : (Kind.reserved.all fun kind =>
      kind.name.toList.all Tree.continuesName) = true := by
    decide
  exact List.all_eq_true.1 (List.all_eq_true.1 settled kind member)

/-- A word that a space follows is reserved where all of it is. -/
theorem reservedAt?_of_parted {text tail : List Char} (parted : Parted tail)
    (continues : ∀ character ∈ text, Tree.continuesName character = true) :
    Pattern.reservedAt? (text ++ tail) = Kind.ofReserved? (String.ofList text) := by
  rw [Pattern.reservedAt?, Kind.ofReserved?]
  apply List.find?_congr
  intro kind member
  rw [Bool.eq_iff_iff, decide_eq_true_eq,
    startsWithWord_iff_of_parted parted (continuesName_of_mem_reserved member) continues]
  constructor
  · rintro rfl
    rw [String.ofList_toList]
  · intro same
    rw [same, String.toList_ofList]

/-! ## Lexemes of each kind -/

namespace Lexeme

theorem standsAlone_number {text : String} (spells : Kind.number.Spells text.toList) :
    StandsAlone ⟨.number, text⟩ := by
  intro tail parted
  rcases spells with ⟨nonempty, digits⟩
  have taken : (text.toList ++ tail).takeWhile Char.isDigit = text.toList :=
    takeWhile_append_of_parted parted rfl digits
  refine ⟨.number, ?_, rfl⟩
  generalize text.toList = characters at *
  cases characters with
  | nil => exact absurd rfl nonempty
  | cons first others =>
      have found := Rule.first?_of_digit (digits first (by simp)) (others ++ tail)
      rw [← List.cons_append, taken] at found
      exact found

theorem standsAlone_name {text : String} (spells : Kind.identifier.Spells text.toList)
    (unreserved : Kind.ofReserved? text = none) :
    StandsAlone ⟨.identifier, text⟩ := by
  intro tail parted
  rcases spells with ⟨first, others, whole, starts, continues⟩
  have held : ∀ character ∈ text.toList, Tree.continuesName character = true := by
    rw [whole]
    rintro character (_ | ⟨_, member⟩)
    · exact continuesName_iff.2 (.inl starts)
    · exact continues character member
  have taken : (text.toList ++ tail).takeWhile CharacterClass.nameCharacter.holds =
      text.toList :=
    takeWhile_append_of_parted parted rfl held
  have unreservedAt : Pattern.reservedAt? (text.toList ++ tail) = none := by
    rw [reservedAt?_of_parted parted held, String.ofList_toList, unreserved]
  refine ⟨.name, ?_, rfl⟩
  dsimp only
  rw [whole, List.cons_append] at unreservedAt taken ⊢
  rw [Rule.first?_of_startsName starts unreservedAt, taken]

theorem standsAlone_string {text : String} (spells : Kind.string.Spells text.toList) :
    StandsAlone ⟨.string, text⟩ := by
  intro tail parted
  rcases spells with ⟨mark, inner, isMark, whole, absent⟩
  have taken : (inner ++ mark :: tail).takeWhile (· != mark) = inner := by
    have held : ∀ character ∈ inner, (character != mark) = true := by
      intro character member
      rw [bne_iff_ne]
      rintro rfl
      exact absent member
    rw [List.takeWhile_append_of_pos held]
    simp
  have extent : (Pattern.quoted mark).extent? (text.toList ++ tail) =
      some text.toList.length := by
    rw [whole]
    simp [Pattern.extent?, taken]
  have order : ∃ before after,
      Rule.all = before ++ ⟨.quoted mark, .emit .string⟩ :: after ∧
        Rule.noneStarts before [mark] = true := by
    simp only [List.mem_cons, List.not_mem_nil, or_false] at isMark
    rcases isMark with rfl | rfl
    · exact ⟨Rule.all.take 24, Rule.all.drop 25, by decide, by decide⟩
    · exact ⟨Rule.all.take 25, [], by decide, by decide⟩
  rcases order with ⟨before, after, order, refused⟩
  refine ⟨⟨.quoted mark, .emit .string⟩, Rule.first?_eq order ?_ extent, rfl⟩
  intro earlier member
  dsimp only
  rw [whole]
  exact Rule.extent?_of_noneStarts refused member (List.mem_singleton.2 rfl) _

theorem standsAlone_reserved {kind : Kind} (member : kind ∈ Kind.reserved) :
    StandsAlone ⟨kind, kind.name⟩ := by
  intro tail parted
  have order : Rule.all = Rule.all.take 12 ++ ⟨.reservedWord, .classify⟩ :: Rule.all.drop 13 := by
    decide
  have refused : Rule.noneStarts (Rule.all.take 12) nameStarts = true := by decide
  have starts : (Kind.reserved.all fun kind =>
      kind.name.toList.head?.all nameStarts.contains) = true := by
    decide
  have extent : Pattern.reservedWord.extent? (kind.name.toList ++ tail) =
      some kind.name.toList.length := by
    simp [Pattern.extent?, reservedAt?_of_parted parted (continuesName_of_mem_reserved member),
      Rule.ofReserved?_name member]
  refine ⟨⟨.reservedWord, .classify⟩, Rule.first?_eq order ?_ extent, ?_⟩
  · intro earlier ofEarlier
    have head := List.all_eq_true.1 starts kind member
    have nonempty := Pattern.name_length_pos kind
    dsimp only
    generalize kind.name.toList = characters at head nonempty ⊢
    cases characters with
    | nil => simp at nonempty
    | cons first others =>
        exact Rule.extent?_of_noneStarts refused ofEarlier (List.contains_iff_mem.1 head) _
  · simp [Rule.kind?, Rule.ofReserved?_name member]

/-- A mark or an operator is settled by the one or two characters it has. -/
theorem standsAlone_mark {kind : Kind} {text : String} (short : kind.isShort = true)
    (unreserved : kind ∉ Kind.reserved) (member : text ∈ kind.texts) :
    StandsAlone ⟨kind, text⟩ := by
  intro tail parted
  cases kind <;> first
    | exact absurd short (by decide)
    | exact absurd (by decide) unreserved
    | simp only [Kind.texts, List.mem_cons, List.not_mem_nil, or_false, Kind.name] at member
  all_goals
    rcases parted with rfl | ⟨others, rfl⟩
    all_goals
      repeat' rcases member with rfl | member
      all_goals exact ⟨_, rfl, rfl⟩

/-- A lexeme that is spelled as its kind asks stands alone, but a name must not be reserved. -/
theorem standsAlone_of_spells {lexeme : Lexeme} (spells : lexeme.kind.Spells lexeme.text.toList)
    (unreserved : lexeme.kind = .identifier → Kind.ofReserved? lexeme.text = none) :
    lexeme.StandsAlone := by
  rcases lexeme with ⟨kind, text⟩
  by_cases short : kind.isShort = true
  · rw [Kind.spells_iff_of_isShort short, String.ofList_toList] at spells
    by_cases reserved : kind ∈ Kind.reserved
    · have only : ∀ kind ∈ Kind.reserved, kind.texts = [kind.name] := by decide
      rw [only kind reserved, List.mem_singleton] at spells
      subst spells
      exact standsAlone_reserved reserved
    · exact standsAlone_mark short reserved spells
  · have long : kind = .number ∨ kind = .string ∨ kind = .identifier := by
      simpa only [Kind.isShort, List.mem_cons, List.not_mem_nil, or_false, decide_eq_true_eq,
        not_not] using short
    rcases long with rfl | rfl | rfl
    · exact standsAlone_number spells
    · exact standsAlone_string spells
    · exact standsAlone_name spells (unreserved rfl)

end Lexeme

/-! ## Lexemes with spaces between them -/

namespace Rule

/-- The rule of white space. -/
def blank : Rule :=
  ⟨.run .whiteSpace, .skip⟩

theorem first?_of_whiteSpace {first : Char} (white : Text.isWhiteSpace first = true)
    (rest : List Char) :
    first? (first :: rest) =
      some (blank, ((first :: rest).takeWhile Text.isWhiteSpace).length) := by
  have order : all = [] ++ blank :: all.drop 1 := by decide
  exact first?_eq order (by simp) (extent?_run (by exact white) rest)

end Rule

namespace Lexer

/-- What is skipped holds no token. -/
theorem drain_of_skipsOne {lexer further : Lexer} (skips : lexer.SkipsOne further) :
    lexer.drain = further.drain := by
  rcases skips with ⟨rule, length, found, skipped, rfl⟩
  have continues := next_of_first? found
  rw [skipped] at continues
  cases pulled : (lexer.forward length).next with
  | token token following shorter =>
      rw [pulled] at continues
      rw [drain_of_token pulled, drain_of_token continues]
  | finished following notLonger =>
      rw [pulled] at continues
      rw [drain_of_finished pulled, drain_of_finished continues]
  | rejected diagnostic following notLonger =>
      rw [pulled] at continues
      rw [drain_of_rejected pulled, drain_of_rejected continues]

/-- A space before what does not start with white space is skipped alone. -/
theorem skipsOne_space {lexer : Lexer} {text : List Char} (spaced : lexer.rest = ' ' :: text)
    (visible : ∀ first ∈ text.head?, Text.isWhiteSpace first = false) :
    lexer.SkipsOne (lexer.forward 1) := by
  have taken : ((' ' :: text).takeWhile Text.isWhiteSpace).length = 1 := by
    have white : Text.isWhiteSpace ' ' = true := by decide
    cases text with
    | nil => simp [white]
    | cons first others => simp [white, visible first rfl]
  refine ⟨.blank, 1, ?_, rfl, rfl⟩
  rw [spaced, Rule.first?_of_whiteSpace (by decide), taken]

/-- A lexeme that stands alone starts with no white space. -/
theorem visible_of_standsAlone {lexeme : Lexeme} (alone : lexeme.StandsAlone)
    {tail : List Char} (parted : Parted tail) :
    ∀ first ∈ (lexeme.text.toList ++ tail).head?, Text.isWhiteSpace first = false := by
  rcases alone tail parted with ⟨rule, found, emits⟩
  intro first isFirst
  rcases List.head?_eq_some_iff.1 isFirst with ⟨others, whole⟩
  by_contra white
  rw [whole, Rule.first?_of_whiteSpace (by simpa using white)] at found
  simp only [Option.some.injEq, Prod.mk.injEq] at found
  rw [← found.1] at emits
  cases emits

/-- A lexeme that stands alone is pulled, and what follows it is left. -/
theorem drain_of_standsAlone {lexer : Lexer} {lexeme : Lexeme} {tail : List Char}
    (alone : lexeme.StandsAlone) (parted : Parted tail)
    (starts : lexer.rest = lexeme.text.toList ++ tail) :
    ∃ (token : Token) (further : Lexer), token.lexeme = lexeme ∧ further.rest = tail ∧
      lexer.drain = ⟨token :: further.drain.tokens, further.drain.failure⟩ := by
  rcases alone tail parted with ⟨rule, found, emits⟩
  have text_eq : String.ofList (lexer.rest.take lexeme.text.toList.length) = lexeme.text := by
    rw [starts, List.take_left, String.ofList_toList]
  rw [← starts] at found
  have pulled := next_of_first? found
  rw [text_eq, emits] at pulled
  refine ⟨_, _, ?_, ?_, drain_of_token pulled⟩
  · simp [Token.lexeme, tokenOf, text_eq]
  · simp [forward, starts]

end Lexer

/-- Behind the first of several lexemes stands a space or nothing. -/
theorem spaced_cons (lexeme : Lexeme) (others : List Lexeme) :
    ∃ tail, Parted tail ∧ (tail = Tree.spaced others ∨ tail = ' ' :: Tree.spaced others) ∧
      Tree.spaced (lexeme :: others) = lexeme.text.toList ++ tail := by
  cases others with
  | nil => exact ⟨[], .inl rfl, .inl rfl, by simp [Tree.spaced]⟩
  | cons next others => exact ⟨_, .inr ⟨_, rfl⟩, .inr rfl, rfl⟩

/-- Lexemes that stand alone are the tokens of their text. -/
theorem drain_of_spaced {lexemes : List Lexeme}
    (alone : ∀ lexeme ∈ lexemes, lexeme.StandsAlone) {lexer : Lexer}
    (starts : lexer.rest = Tree.spaced lexemes ∨ lexer.rest = ' ' :: Tree.spaced lexemes) :
    lexer.drain.tokens.map Token.lexeme = lexemes ∧ lexer.drain.failure = none := by
  induction lexemes generalizing lexer with
  | nil =>
      rcases starts with starts | starts
      · simp [Lexer.drain_of_finished (Lexer.next_of_nil starts)]
      · rw [Lexer.drain_of_skipsOne (Lexer.skipsOne_space starts (by simp [Tree.spaced]))]
        have ended : (lexer.forward 1).rest = [] := by simp [Lexer.forward, starts, Tree.spaced]
        simp [Lexer.drain_of_finished (Lexer.next_of_nil ended)]
  | cons lexeme others inductionHypothesis =>
      rcases spaced_cons lexeme others with ⟨tail, parted, isTail, whole⟩
      have first := alone lexeme (by simp)
      -- A space in front of the lexeme makes no difference.
      obtain ⟨place, placed, drains⟩ : ∃ place : Lexer,
          place.rest = lexeme.text.toList ++ tail ∧ lexer.drain = place.drain := by
        rw [whole] at starts
        rcases starts with starts | starts
        · exact ⟨lexer, starts, rfl⟩
        · have visible := Lexer.visible_of_standsAlone first parted
          exact ⟨lexer.forward 1, by simp [Lexer.forward, starts],
            Lexer.drain_of_skipsOne (Lexer.skipsOne_space starts visible)⟩
      rcases Lexer.drain_of_standsAlone first parted placed with
        ⟨token, further, isLexeme, remaining, drained⟩
      have ofOthers : further.drain.tokens.map Token.lexeme = others ∧
          further.drain.failure = none :=
        inductionHypothesis (fun other member => alone other (by simp [member]))
          (by rwa [remaining])
      rw [drains, drained, List.map_cons, isLexeme, ofOthers.1]
      exact ⟨rfl, ofOthers.2⟩

/-- A text made of lexemes that stand alone has exactly these for its tokens. -/
theorem tokenize_spaced {lexemes : List Lexeme}
    (alone : ∀ lexeme ∈ lexemes, lexeme.StandsAlone) (file : Option String) :
    ∃ tokens, tokenize (String.ofList (Tree.spaced lexemes)) file = .ok tokens ∧
      tokens.map Token.lexeme = lexemes := by
  have starts : (Lexer.start (String.ofList (Tree.spaced lexemes)) file).rest =
      Tree.spaced lexemes :=
    String.toList_ofList
  rcases drain_of_spaced alone (.inl starts) with ⟨ofTokens, ended⟩
  exact ⟨_, tokenize_eq_ok_iff.2 ⟨ended, rfl⟩, ofTokens⟩

end Script
