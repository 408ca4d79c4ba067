import Script.Proofs.SpacedText

/-!
# Lexemes of a text

Which lexemes a text consists of depends on the text alone, and not on where it
stands in its source.  This file says so with a relation between texts and their
lexemes: the lexer comes to the end of a source exactly where the relation gives
lexemes of it.

A reserved word is read as a name only in front of a word character that no name
goes on with.  No rule accepts such a character, so a source that is cut into
lexemes to its end has no reserved word among its names.
-/

namespace Script

/-- A text consists of lexemes and of what means nothing between them, to its very end. -/
inductive Lexes : List Char → List Lexeme → Prop where
  | nil : Lexes [] []
  | skip {text : List Char} {lexemes : List Lexeme} {rule : Rule} {length : Nat}
      (found : Rule.first? text = some (rule, length))
      (skipped : rule.kind? (String.ofList (text.take length)) = none)
      (rest : Lexes (text.drop length) lexemes) :
      Lexes text lexemes
  | take {text : List Char} {lexemes : List Lexeme} {rule : Rule} {length : Nat} {kind : Kind}
      (found : Rule.first? text = some (rule, length))
      (emits : rule.kind? (String.ofList (text.take length)) = some kind)
      (rest : Lexes (text.drop length) lexemes) :
      Lexes text (⟨kind, String.ofList (text.take length)⟩ :: lexemes)

/-! ## Lexemes and tokens -/

section Tokens

variable {lexer place : Lexer} {text : List Char} {lexemes : List Lexeme}

theorem Lexer.Skips.lexes (skips : lexer.Skips place) (ofPlace : Lexes place.rest lexemes) :
    Lexes lexer.rest lexemes := by
  induction skips using Relation.ReflTransGen.head_induction_on with
  | refl => exact ofPlace
  | head one _ inductionHypothesis =>
      rcases one with ⟨rule, length, found, skipped, rfl⟩
      exact .skip found skipped inductionHypothesis

/-- A lexer that is not stopped gives the lexemes of the text that is left. -/
theorem Lexer.lexes_drain (complete : lexer.drain.failure = none) :
    Lexes lexer.rest (lexer.drain.tokens.map Token.lexeme) := by
  induction steps : lexer.rest.length using Nat.strongRecOn generalizing lexer with
  | _ size inductionHypothesis =>
      rcases lexer.exists_stops with ⟨place, skips, stops⟩
      apply skips.lexes
      cases stops with
      | finished ended notLonger pulled =>
          rw [drain_of_finished pulled, ended]
          exact .nil
      | rejected first refused notLonger pulled =>
          rw [drain_of_rejected pulled] at complete
          cases complete
      | token found emits shorter pulled =>
          rw [drain_of_token pulled] at complete ⊢
          exact .take found emits (inductionHypothesis _ (steps ▸ shorter) complete rfl)

/-- A lexer in front of a text gives its lexemes and is not stopped. -/
theorem Lexes.drain_eq (lexes : Lexes text lexemes) (starts : lexer.rest = text) :
    lexer.drain.failure = none ∧ lexer.drain.tokens.map Token.lexeme = lexemes := by
  induction lexes generalizing lexer with
  | nil =>
      rw [Lexer.drain_of_finished (Lexer.next_of_nil starts)]
      exact ⟨rfl, rfl⟩
  | skip found skipped _ inductionHypothesis =>
      subst starts
      rw [Lexer.drain_of_skipsOne ⟨_, _, found, skipped, rfl⟩]
      exact inductionHypothesis rfl
  | @take _ _ rule length kind found emits _ inductionHypothesis =>
      subst starts
      have pulled := Lexer.next_of_first? found
      rw [emits] at pulled
      have ofRest := @inductionHypothesis (lexer.forward length) rfl
      rw [Lexer.drain_of_token pulled, List.map_cons, ofRest.2]
      exact ⟨ofRest.1, rfl⟩

/-- A source has tokens exactly where it consists of their lexemes. -/
theorem tokenize_iff_lexes {source : String} {file : Option String} :
    (∃ tokens, tokenize source file = .ok tokens ∧ tokens.map Token.lexeme = lexemes) ↔
      Lexes source.toList lexemes := by
  constructor
  · rintro ⟨tokens, lexes, rfl⟩
    rcases tokenize_eq_ok_iff.1 lexes with ⟨complete, rfl⟩
    exact Lexer.lexes_drain complete
  · intro lexes
    have starts : (Lexer.start source file).rest = source.toList := rfl
    rcases lexes.drain_eq starts with ⟨complete, ofTokens⟩
    exact ⟨_, tokenize_eq_ok_iff.2 ⟨complete, rfl⟩, ofTokens⟩

end Tokens

/-! ## White space and comments -/

theorem drop_length_takeWhile (holds : Char → Bool) (text : List Char) :
    text.drop (text.takeWhile holds).length = text.dropWhile holds := by
  induction text with
  | nil => rfl
  | cons first rest inductionHypothesis =>
      by_cases held : holds first = true
      · simp [held, inductionHypothesis]
      · simp [held]

section Comments

variable {text : List Char} {length : Nat}

theorem Pattern.eq_of_lineComment (found : lineComment.extent? text = some length) :
    ∃ inside, text = '/' :: '/' :: inside ∧
      length = (inside.takeWhile (· != '\n')).length + 2 := by
  rcases text with _ | ⟨first, _ | ⟨second, inside⟩⟩
  · cases found
  · simp [extent?] at found
  · by_cases opens : first = '/' ∧ second = '/'
    · rcases opens with ⟨rfl, rfl⟩
      exact ⟨inside, rfl, (Option.some.inj found).symm⟩
    · simp_all [extent?]

theorem Pattern.eq_of_blockComment (found : blockComment.extent? text = some length) :
    ∃ inside count, text = '/' :: '*' :: inside ∧ closing? inside = some count ∧
      length = count + 2 := by
  rcases text with _ | ⟨first, _ | ⟨second, inside⟩⟩
  · cases found
  · simp [extent?] at found
  · by_cases opens : first = '/' ∧ second = '*'
    · rcases opens with ⟨rfl, rfl⟩
      rcases Option.map_eq_some_iff.1 found with ⟨count, closes, rfl⟩
      exact ⟨inside, count, rfl, closes, rfl⟩
    · simp_all [extent?]

end Comments

/-! ## Which rule is found -/

namespace Rule

variable {text : List Char} {rule : Rule} {length : Nat}

/-- The rule that is found matches, and the rules before it do not. -/
theorem split_of_first? (found : first? text = some (rule, length)) :
    ∃ before after, all = before ++ rule :: after ∧
      (∀ earlier ∈ before, earlier.pattern.extent? text = none) ∧
        rule.pattern.extent? text = some length := by
  rcases List.findSome?_eq_some_iff.1 found with ⟨before, other, after, order, matched, refused⟩
  rcases Option.map_eq_some_iff.1 matched with ⟨extent, matched, same⟩
  cases same
  refine ⟨before, after, order, ?_, matched⟩
  intro earlier member
  simpa using refused earlier member

theorem mem_all_of_first? (found : first? text = some (rule, length)) : rule ∈ all := by
  rcases split_of_first? found with ⟨before, after, order, _⟩
  rw [order]
  simp

/-- Where one of the first rules matches, the rule that is found is one of them. -/
theorem mem_take_of_first? {count : Nat} {earlier : Rule}
    (found : first? text = some (rule, length)) (member : earlier ∈ all.take count)
    (matched : earlier.pattern.extent? text ≠ none) :
    rule ∈ all.take count := by
  rcases split_of_first? found with ⟨before, after, order, refused, _⟩
  have notBefore : earlier ∉ before := fun isBefore => matched (refused earlier isBefore)
  rw [order, List.take_append] at member ⊢
  have behind : before.length < count := by
    by_contra short
    have all_before : count - before.length = 0 := by omega
    simp only [all_before, List.take_zero, List.append_nil] at member
    exact notBefore (List.mem_of_mem_take member)
  rcases Nat.exists_eq_add_of_lt behind with ⟨more, rfl⟩
  simp [Nat.add_assoc]

/-- A rule that skips a text is one of the first three. -/
theorem mem_of_skips (member : rule ∈ all) (skipped : rule.kind? (String.ofList text) = none) :
    rule ∈ all.take 3 := by
  have skipping : ∀ rule ∈ all, rule.action = .skip → rule ∈ all.take 3 := by decide
  apply skipping rule member
  cases action : rule.action <;> simp [kind?, action] at skipped ⊢

end Rule

/-! ## Characters that no rule accepts -/

/-- White space continues no word. -/
theorem isWhiteSpace_of_isWordCharacter {character : Char}
    (continues : Text.isWordCharacter character = true) :
    Text.isWhiteSpace character = false := by
  have apart : (Text.wordRanges.all fun word => Text.whiteSpaceRanges.all fun white =>
      word.last < white.first || white.last < word.first) = true := by
    decide +kernel
  rw [Bool.eq_false_iff]
  intro isWhite
  rcases List.any_eq_true.1 continues with ⟨word, ofWord, inWord⟩
  rcases List.any_eq_true.1 isWhite with ⟨white, ofWhite, inWhite⟩
  have disjoint := List.all_eq_true.1 (List.all_eq_true.1 apart word ofWord) white ofWhite
  simp only [Text.CodeRange.holds, Bool.and_eq_true, decide_eq_true_eq] at inWord inWhite
  simp only [Bool.or_eq_true, decide_eq_true_eq] at disjoint
  omega

/-- The characters that a pattern names for the head of a text. -/
def Pattern.heads : Pattern → List Char
  | .run _ => []
  | .lineComment | .blockComment => ['/']
  | .oneOf heads | .pair heads _ | .oneOrPair heads _ => heads
  | .reservedWord => Kind.reserved.filterMap fun kind => kind.name.toList.head?
  | .quoted mark => [mark]

/-- A pattern that is no run starts with a character that it names. -/
theorem Pattern.mem_heads_of_mayStart {pattern : Pattern} {first : Char}
    (starts : pattern.mayStart first = true) :
    (∃ characters, pattern = .run characters ∧ characters.holds first = true) ∨
      first ∈ pattern.heads := by
  cases pattern with
  | run characters => exact .inl ⟨characters, rfl, starts⟩
  | lineComment => simpa [mayStart, heads] using starts
  | blockComment => simpa [mayStart, heads] using starts
  | oneOf named => simpa [mayStart, heads] using starts
  | pair named second => simpa [mayStart, heads] using starts
  | oneOrPair named second => simpa [mayStart, heads] using starts
  | reservedWord => simpa [mayStart, heads] using starts
  | quoted mark => simpa [mayStart, heads] using starts

/-- The characters that lexemes start with, apart from letters and digits. -/
def lexemeMarks : List Char :=
  [ '_', ';', '\x7b', '\x7d', '(', ')', ',', '.', '[', ']', '=', '!', '*', '/', '+', '-', '>',
    '<', '&', '|', '"', '\x27' ]

/-- Whether a character is one that lexemes start with. -/
def startsLexeme (character : Char) : Bool :=
  character.isAlphanum || character ∈ lexemeMarks

/-- A character that a name goes on with starts a lexeme. -/
theorem startsLexeme_of_continuesName {character : Char}
    (continues : Tree.continuesName character = true) : startsLexeme character = true := by
  rw [Tree.continuesName, Bool.or_eq_true, decide_eq_true_eq] at continues
  rcases continues with letter | rfl
  · simp [startsLexeme, letter]
  · decide

/-- A word character that no name goes on with starts no lexeme. -/
theorem startsLexeme_of_foreign {character : Char}
    (continues : Text.isWordCharacter character = true)
    (foreign : Tree.continuesName character = false) : startsLexeme character = false := by
  rw [startsLexeme, Bool.or_eq_false_iff, decide_eq_false_iff_not]
  constructor
  · exact (Bool.or_eq_false_iff.1 foreign).1
  · intro isMark
    have settled : (lexemeMarks.all fun mark =>
        !Text.isWordCharacter mark || Tree.continuesName mark) = true := by
      decide +kernel
    have plain := List.all_eq_true.1 settled character isMark
    simp [continues, foreign] at plain

namespace Rule

variable {first : Char}

theorem first?_eq_none_iff {text : List Char} :
    first? text = none ↔ ∀ rule ∈ all, rule.pattern.extent? text = none := by
  simp [first?]

/-- A character that starts no lexeme is white space, or no rule asks for it. -/
theorem mayStart_of_unnamed {rule : Rule} (member : rule ∈ all)
    (visible : Text.isWhiteSpace first = false) (unnamed : startsLexeme first = false) :
    rule.pattern.mayStart first = false := by
  rw [Bool.eq_false_iff]
  intro starts
  have noName : ¬Tree.continuesName first = true := fun continues => by
    simp [startsLexeme_of_continuesName continues] at unnamed
  rcases Pattern.mem_heads_of_mayStart starts with ⟨characters, _, holds⟩ | isHead
  · cases characters with
    | whiteSpace => exact absurd holds (by simp [CharacterClass.holds, visible])
    | digit => exact noName (continuesName_iff.2 (.inr holds))
    | nameCharacter => exact noName holds
  · have settled : (all.all fun rule => rule.pattern.heads.all startsLexeme) = true := by
      decide +kernel
    have named := List.all_eq_true.1 (List.all_eq_true.1 settled rule member) first isHead
    rw [unnamed] at named
    cases named

/-- No rule accepts a text whose first character is visible and starts no lexeme. -/
theorem first?_of_unnamed (visible : Text.isWhiteSpace first = false)
    (unnamed : startsLexeme first = false) (rest : List Char) :
    first? (first :: rest) = none := by
  rw [first?_eq_none_iff]
  intro rule member
  exact Pattern.extent?_eq_none_of_mayStart (mayStart_of_unnamed member visible unnamed) rest

/-- A word character that no name goes on with starts nothing. -/
theorem first?_of_foreign (continues : Text.isWordCharacter first = true)
    (foreign : Tree.continuesName first = false) (rest : List Char) :
    first? (first :: rest) = none :=
  first?_of_unnamed (isWhiteSpace_of_isWordCharacter continues)
    (startsLexeme_of_foreign continues foreign) rest

end Rule

/-! ## Names are not reserved -/

namespace Rule

variable {text : List Char} {rule : Rule} {length : Nat}

/-- Only the rule of names gives names. -/
theorem eq_name_of_first? (found : first? text = some (rule, length))
    (emits : rule.kind? (String.ofList (text.take length)) = some .identifier) :
    rule = name := by
  have member := mem_all_of_first? found
  have emitting : ∀ rule ∈ all, rule.action = .emit .identifier → rule = name := by decide
  have classifying : ∀ rule ∈ all, rule.action = .classify → rule.pattern = .reservedWord := by
    decide
  cases action : rule.action with
  | skip => simp [kind?, action] at emits
  | emit kind =>
      simp only [kind?, action, Option.some.injEq] at emits
      exact emitting rule member (by rw [action, emits])
  | classify =>
      have extent := extent?_of_first? found
      rw [classifying rule member action] at extent
      rcases Pattern.take_of_reservedWord extent with ⟨word, reserved, taken⟩
      simp only [kind?, action, taken, String.ofList_toList, ofReserved?_name reserved,
        Option.getD_some, Option.some.injEq] at emits
      subst word
      exact absurd reserved (by decide)

/-- A reserved word is read as a name only where a word goes on as no name does. -/
theorem exists_foreign_of_name {kind : Kind} (found : first? text = some (name, length))
    (reserved : Kind.ofReserved? (String.ofList (text.take length)) = some kind) :
    ∃ character rest, text.drop length = character :: rest ∧
      Text.isWordCharacter character = true ∧ Tree.continuesName character = false := by
  have isReserved : kind ∈ Kind.reserved := List.mem_of_find?_eq_some reserved
  have spelled : kind.name.toList = text.take length := by
    rw [Kind.ofReserved?] at reserved
    have same : kind.name = String.ofList (text.take length) := by
      simpa using List.find?_some reserved
    rw [same, String.toList_ofList]
  have size : (text.take length).length = length :=
    List.length_take_of_le (le_length_of_first? found)
  -- The rule of reserved words comes first, so the word does not end here.
  have unended : Pattern.endsWord (text.drop length) = false := by
    rw [Bool.eq_false_iff]
    intro ends
    have starts : Pattern.startsWithWord kind.name.toList text = true := by
      rw [Pattern.startsWithWord, spelled, size, ends, Bool.and_true,
        List.isPrefixOf_iff_prefix]
      exact List.take_prefix length text
    have matched : Pattern.reservedWord.extent? text ≠ none := by
      simp only [Pattern.extent?, ne_eq, Option.map_eq_none_iff, Pattern.reservedAt?,
        List.find?_eq_none]
      intro none
      exact none kind isReserved starts
    have inFront : name ∈ all.take 13 :=
      mem_take_of_first? found (by decide : ⟨.reservedWord, .classify⟩ ∈ all.take 13) matched
    exact absurd inFront (by decide)
  rcases Pattern.take_of_run (extent?_of_first? found) with ⟨taken, _⟩
  cases behind : text.drop length with
  | nil => simp [behind, Pattern.endsWord] at unended
  | cons character rest =>
      refine ⟨character, rest, rfl, by simpa [behind, Pattern.endsWord] using unended, ?_⟩
      -- The name took every character that continues a name.
      have stops := List.head?_dropWhile_not CharacterClass.nameCharacter.holds text
      have dropped : text.dropWhile CharacterClass.nameCharacter.holds = character :: rest := by
        rw [← drop_length_takeWhile, ← taken, size, behind]
      rw [dropped] at stops
      exact stops

end Rule

section Lexemes

variable {text : List Char} {lexemes : List Lexeme}

/-- Lexemes of a text are spelled as their kinds ask. -/
theorem Lexes.spells (lexes : Lexes text lexemes) :
    ∀ lexeme ∈ lexemes, lexeme.kind.Spells lexeme.text.toList := by
  induction lexes with
  | nil => simp
  | skip _ _ _ inductionHypothesis => exact inductionHypothesis
  | take found emits _ inductionHypothesis =>
      rintro lexeme (_ | ⟨_, member⟩)
      · rw [String.toList_ofList]
        exact Rule.spells_of_first? found emits
      · exact inductionHypothesis lexeme member

/-- The names of a text that is read to its end are not reserved. -/
theorem Lexes.unreserved (lexes : Lexes text lexemes) :
    ∀ lexeme ∈ lexemes, lexeme.kind = .identifier → Kind.ofReserved? lexeme.text = none := by
  induction lexes with
  | nil => simp
  | skip _ _ _ inductionHypothesis => exact inductionHypothesis
  | take found emits rest inductionHypothesis =>
      rintro lexeme (_ | ⟨_, member⟩) isName
      · cases reserved : Kind.ofReserved? (String.ofList (List.take _ _)) with
        | none => rfl
        | some kind =>
            cases isName
            rw [Rule.eq_name_of_first? found emits] at found
            rcases Rule.exists_foreign_of_name found reserved with
              ⟨character, others, behind, continues, foreign⟩
            -- What follows the name would have to be read, too.
            have refused := Rule.first?_of_foreign continues foreign others
            rw [behind] at rest
            cases rest with
            | skip found => simp [refused] at found
            | take found => simp [refused] at found
      · exact inductionHypothesis lexeme member isName

theorem Lexes.standsAlone (lexes : Lexes text lexemes) :
    ∀ lexeme ∈ lexemes, lexeme.StandsAlone :=
  fun lexeme member =>
    Lexeme.standsAlone_of_spells (lexes.spells lexeme member) (lexes.unreserved lexeme member)

end Lexemes

end Script
