import Script.Proofs.LongestMatch
import Script.Proofs.Partition

/-!
# Where the lexer gives up

A pull first goes over what means nothing, as far as it can.  It then fails at an
ampersand or a bar that stands alone, at a quote that is never closed, and at a
character that no rule names, and at nothing else.  An unclosed comment is no failure,
since its slash and its star are operators.

How far a text means nothing is measured by a function that goes over it.  Every run
of white space and whole comments that starts a text leaves it the same result, so
none of them reaches further.
-/

namespace Script

/-! ## How far a text means nothing -/

/-- All that means nothing at the head of a text is taken away, and a rest is left. -/
structure Stripped (text rest : List Char) : Prop where
  /-- What is taken away means nothing. -/
  run : ∃ front, text = front ++ rest ∧ Insignificant front rest
  /-- No longer part of the text means nothing. -/
  longest : ∀ front behind, text = front ++ behind → Insignificant front behind →
    rest.length ≤ behind.length

/-- A text without the white space and the whole comments in front of it. -/
def strip (text : List Char) : List Char :=
  match text with
  | [] => []
  | first :: rest =>
      if Text.isWhiteSpace first then
        strip rest
      else if first = '/' ∧ rest.head? = some '/' then
        strip (rest.dropWhile (· != '\n'))
      else if first = '/' ∧ rest.head? = some '*' then
        match Pattern.closing? rest.tail with
        | some count => strip (rest.tail.drop count)
        | none => first :: rest
      else
        first :: rest
termination_by text.length
decreasing_by
  · simp
  · have shorter := (List.dropWhile_suffix (· != '\n') (l := rest)).length_le
    simp only [List.length_cons]
    omega
  · simp only [List.length_drop, List.length_tail, List.length_cons]
    omega

section Strip

variable {text front behind inside : List Char}

theorem strip_whiteSpace {first : Char} (white : Text.isWhiteSpace first = true)
    (rest : List Char) : strip (first :: rest) = strip rest := by
  rw [strip, if_pos white]

theorem strip_lineComment (inside : List Char) :
    strip ('/' :: '/' :: inside) = strip (inside.dropWhile (· != '\n')) := by
  have visible : Text.isWhiteSpace '/' = false := by decide
  rw [strip]
  simp [visible]

theorem strip_blockComment {count : Nat} (closes : Pattern.closing? inside = some count) :
    strip ('/' :: '*' :: inside) = strip (inside.drop count) := by
  have visible : Text.isWhiteSpace '/' = false := by decide
  rw [strip]
  simp [visible, closes]

theorem length_strip_le (text : List Char) : (strip text).length ≤ text.length := by
  fun_induction strip text with
  | case1 => exact Nat.le_refl _
  | case2 first rest white inductionHypothesis =>
      exact Nat.le_succ_of_le inductionHypothesis
  | case3 first rest visible slashes inductionHypothesis =>
      have shorter := (List.dropWhile_suffix (· != '\n') (l := rest)).length_le
      simp only [List.length_cons]
      omega
  | case4 first rest visible single opens count closes inductionHypothesis =>
      simp only [List.length_drop, List.length_tail, List.length_cons] at inductionHypothesis ⊢
      omega
  | case5 => exact Nat.le_refl _
  | case6 => exact Nat.le_refl _

/-- The first mark that can end a comment is the one that is found. -/
theorem Pattern.closing?_of_first (first : ¬['*', '/'] <:+: inside ++ ['*']) :
    closing? (inside ++ '*' :: '/' :: behind) = some (inside.length + 2) := by
  induction inside with
  | nil => rfl
  | cons head others inductionHypothesis =>
      rw [List.cons_append, List.infix_cons_iff, not_or] at first
      have ofOthers := inductionHypothesis first.2
      -- The marks do not stand at the head, so the search goes on behind it.
      cases others with
      | nil => simp [closing?]
      | cons next more =>
          have apart : ¬(head = '*' ∧ next = '/') := by
            rintro ⟨rfl, rfl⟩
            exact first.1 ⟨more ++ ['*'], rfl⟩
          rw [List.cons_append] at ofOthers
          simp [closing?, apart, ofOthers]

/-- What means nothing in front of a text changes nothing about its rest. -/
theorem Insignificant.strip_append (insignificant : Insignificant front behind) :
    strip (front ++ behind) = strip behind := by
  induction insignificant with
  | nil => rfl
  | whiteSpace white _ inductionHypothesis =>
      rw [List.cons_append, strip_whiteSpace white, inductionHypothesis]
  | @lineComment inside rest behind oneLine ends _ inductionHypothesis =>
      have inLine : ∀ character ∈ inside, (character != '\n') = true := by
        intro character member
        rw [bne_iff_ne]
        rintro rfl
        exact oneLine member
      have stops : (rest ++ behind).dropWhile (· != '\n') = rest ++ behind := by
        cases following : rest ++ behind with
        | nil => rfl
        | cons next others => simp [ends next (by simp [following])]
      rw [List.append_assoc, List.cons_append, List.cons_append, strip_lineComment,
        List.dropWhile_append_of_pos inLine, stops, inductionHypothesis]
  | @blockComment inside rest behind first _ inductionHypothesis =>
      rw [List.append_assoc, List.cons_append, List.cons_append, List.cons_append,
        List.cons_append, strip_blockComment (Pattern.closing?_of_first first)]
      rw [← inductionHypothesis]
      congr 1
      simp [List.drop_append]

/-- Nothing is taken away from a text that no rule skips. -/
theorem strip_eq_self {text : List Char}
    (bare : ∀ rule ∈ Rule.all.take 3, rule.pattern.extent? text = none) : strip text = text := by
  have noSpace := bare ⟨.run .whiteSpace, .skip⟩ (by decide)
  have noLine := bare ⟨.lineComment, .skip⟩ (by decide)
  have noBlock := bare ⟨.blockComment, .skip⟩ (by decide)
  unfold strip
  split
  · rfl
  · next first rest =>
      split_ifs with white slashes opens
      · have holds : CharacterClass.whiteSpace.holds first = true := white
        simp [Rule.extent?_run holds] at noSpace
      · rcases slashes with ⟨rfl, second⟩
        rcases List.head?_eq_some_iff.1 second with ⟨inside, rfl⟩
        simp [Pattern.extent?] at noLine
      · rcases opens with ⟨rfl, second⟩
        rcases List.head?_eq_some_iff.1 second with ⟨inside, rfl⟩
        have unclosed : Pattern.closing? inside = none := by simpa [Pattern.extent?] using noBlock
        simp [unclosed]
      · rfl

end Strip

/-- What is left behind a text that means nothing is the rest, if no rule skips it. -/
theorem stripped_of_bare {front rest : List Char} (insignificant : Insignificant front rest)
    (bare : ∀ rule ∈ Rule.all.take 3, rule.pattern.extent? rest = none) :
    Stripped (front ++ rest) rest where
  run := ⟨front, rfl, insignificant⟩
  longest := by
    intro other behind whole otherInsignificant
    have same : rest = strip behind := by
      rw [← strip_eq_self bare, ← insignificant.strip_append, whole,
        otherInsignificant.strip_append]
    rw [same]
    exact length_strip_le behind

/-- There is only one rest. -/
theorem Stripped.unique {text first second : List Char} (ofFirst : Stripped text first)
    (ofSecond : Stripped text second) : first = second := by
  rcases ofFirst.run with ⟨front, whole, insignificant⟩
  rcases ofSecond.run with ⟨otherFront, otherWhole, otherInsignificant⟩
  have size := Nat.le_antisymm (ofFirst.longest _ _ otherWhole otherInsignificant)
    (ofSecond.longest _ _ whole insignificant)
  exact (List.append_inj' (whole.symm.trans otherWhole) size).2

/-- Where a pull stops, no rule skips what is left. -/
theorem Lexer.Stops.bare {lexer place : Lexer} (stops : lexer.Stops place) :
    ∀ rule ∈ Rule.all.take 3, rule.pattern.extent? place.rest = none := by
  intro rule member
  cases stops with
  | finished ended notLonger pulled =>
      by_contra matched
      rcases Option.ne_none_iff_exists'.1 matched with ⟨length, matched⟩
      rcases Pattern.exists_start matched with ⟨first, rest, whole, _⟩
      rw [ended] at whole
      cases whole
  | rejected first refused notLonger pulled =>
      exact Rule.first?_eq_none_iff.1 refused rule (List.mem_of_mem_take member)
  | token found emits shorter pulled =>
      by_contra matched
      have skips : ∀ rule ∈ Rule.all.take 3, rule.action = .skip := by decide
      have skipped := skips _ (Rule.mem_take_of_first? found member matched)
      simp [Rule.kind?, skipped] at emits

/-- What a pull stops at does not start with white space. -/
theorem Lexer.Stops.visible {lexer place : Lexer} (stops : lexer.Stops place) :
    ∀ first ∈ place.rest.head?, Text.isWhiteSpace first = false := by
  intro first isFirst
  rcases List.head?_eq_some_iff.1 isFirst with ⟨rest, whole⟩
  have refused := stops.bare ⟨.run .whiteSpace, .skip⟩ (by decide)
  rw [Bool.eq_false_iff]
  intro white
  have holds : CharacterClass.whiteSpace.holds first = true := white
  rw [whole, Rule.extent?_run holds] at refused
  cases refused

/-! ## Texts that no rule accepts -/

/-- No token can be made of what stands at the head of a text. -/
inductive Stray : List Char → Prop where
  /-- An ampersand stands alone. -/
  | ampersand {rest : List Char} (alone : rest.head? ≠ some '&') : Stray ('&' :: rest)
  /-- A bar stands alone. -/
  | bar {rest : List Char} (alone : rest.head? ≠ some '|') : Stray ('|' :: rest)
  /-- A quote is never closed. -/
  | quote {mark : Char} {rest : List Char} (isMark : mark ∈ ['"', '\x27'])
      (unclosed : mark ∉ rest) : Stray (mark :: rest)
  /-- No token starts with the character. -/
  | foreign {first : Char} {rest : List Char} (unnamed : startsLexeme first = false) :
      Stray (first :: rest)

@[simp]
theorem not_stray_nil : ¬Stray [] := by
  rintro ⟨⟩

namespace Pattern

/-- The characters that a pattern takes whatever follows them. -/
def single : Pattern → List Char
  | .oneOf heads | .oneOrPair heads _ => heads
  | _ => []

theorem extent?_ne_none_of_single {pattern : Pattern} {first : Char}
    (member : first ∈ pattern.single) (rest : List Char) :
    pattern.extent? (first :: rest) ≠ none := by
  cases pattern <;> simp only [single, List.not_mem_nil] at member
  all_goals
    simp only [extent?, if_pos member]
    try split_ifs
    all_goals simp

theorem extent?_quoted_eq_none_iff {mark : Char} {rest : List Char} :
    (quoted mark).extent? (mark :: rest) = none ↔ mark ∉ rest := by
  have shorter : (rest.takeWhile (· != mark)).length < rest.length ↔ mark ∈ rest := by
    constructor
    · intro within
      rcases eq_takeWhile_append_mark within with ⟨after, whole⟩
      rw [whole]
      simp
    · intro closed
      apply Nat.lt_of_le_of_ne (List.takeWhile_prefix _).length_le
      intro size
      have whole := (List.takeWhile_prefix (· != mark) (l := rest)).eq_of_length size
      rw [← whole] at closed
      exact not_mem_takeWhile_mark mark rest closed
  simp [extent?, ← shorter]

end Pattern

namespace Rule

variable {first : Char} {rest : List Char}

/-- Only one rule asks for an ampersand, only one for a bar, and only one for each quote. -/
theorem noneStarts_others :
    noneStarts (all.filter (·.pattern != .pair ['&'] '&')) ['&'] = true ∧
      noneStarts (all.filter (·.pattern != .pair ['|'] '|')) ['|'] = true ∧
        noneStarts (all.filter (·.pattern != .quoted '"')) ['"'] = true ∧
          noneStarts (all.filter (·.pattern != .quoted '\x27')) ['\x27'] = true := by
  decide +kernel

/-- No rule accepts a text where the only one that asks for its first character does not. -/
theorem first?_eq_none_of_only {pattern : Pattern}
    (others : noneStarts (all.filter (·.pattern != pattern)) [first] = true)
    (refused : pattern.extent? (first :: rest) = none) : first? (first :: rest) = none := by
  rw [first?_eq_none_iff]
  intro rule member
  by_cases isPattern : rule.pattern = pattern
  · rw [isPattern, refused]
  · have isOther : rule ∈ all.filter (·.pattern != pattern) :=
      List.mem_filter.2 ⟨member, by simpa using isPattern⟩
    exact extent?_of_noneStarts others isOther (List.mem_singleton.2 rfl) rest

/-- No rule accepts a stray text. -/
theorem first?_of_stray {text : List Char} (stray : Stray text)
    (visible : ∀ first ∈ text.head?, Text.isWhiteSpace first = false) : first? text = none := by
  rcases noneStarts_others with ⟨ofAmpersand, ofBar, ofDouble, ofSingle⟩
  cases stray with
  | @ampersand rest alone =>
      apply first?_eq_none_of_only ofAmpersand
      cases rest with
      | nil => rfl
      | cons next others => simp_all [Pattern.extent?]
  | @bar rest alone =>
      apply first?_eq_none_of_only ofBar
      cases rest with
      | nil => rfl
      | cons next others => simp_all [Pattern.extent?]
  | quote isMark unclosed =>
      have refused := Pattern.extent?_quoted_eq_none_iff.2 unclosed
      simp only [List.mem_cons, List.not_mem_nil, or_false] at isMark
      rcases isMark with rfl | rfl
      · exact first?_eq_none_of_only ofDouble refused
      · exact first?_eq_none_of_only ofSingle refused
  | foreign unnamed => exact first?_of_unnamed (visible _ rfl) unnamed _

/-- A mark is taken alone, or it stands in a pair or in front of a quoted text. -/
theorem single_of_mem_lexemeMarks {mark : Char} (member : mark ∈ lexemeMarks) :
    mark = '_' ∨ (∃ rule ∈ all, mark ∈ rule.pattern.single) ∨ mark = '&' ∨ mark = '|' ∨
      mark = '"' ∨ mark = '\x27' := by
  have settled : (lexemeMarks.all fun mark =>
      mark = '_' ∨ (∃ rule ∈ all, mark ∈ rule.pattern.single) ∨ mark = '&' ∨ mark = '|' ∨
        mark = '"' ∨ mark = '\x27') = true := by
    decide +kernel
  exact of_decide_eq_true (List.all_eq_true.1 settled mark member)

/-- A text that no rule accepts is stray. -/
theorem stray_of_first? (refused : first? (first :: rest) = none) : Stray (first :: rest) := by
  rw [first?_eq_none_iff] at refused
  by_cases unnamed : startsLexeme first = false
  · exact .foreign unnamed
  have noName : ¬CharacterClass.nameCharacter.holds first = true := by
    intro holds
    have matched := refused name (by decide)
    rw [name, extent?_run holds] at matched
    cases matched
  rw [Bool.not_eq_false, startsLexeme, Bool.or_eq_true, decide_eq_true_eq] at unnamed
  rcases unnamed with letter | isMark
  · exact absurd (by simp [CharacterClass.holds, letter]) noName
  rcases single_of_mem_lexemeMarks isMark with
    rfl | ⟨rule, member, single⟩ | rfl | rfl | rfl | rfl
  · exact absurd (by decide) noName
  · exact absurd (refused rule member) (Pattern.extent?_ne_none_of_single single rest)
  · refine .ampersand fun follows => ?_
    rcases List.head?_eq_some_iff.1 follows with ⟨others, rfl⟩
    have matched := refused ⟨.pair ['&'] '&', .emit .logicalAnd⟩ (by decide)
    simp [Pattern.extent?] at matched
  · refine .bar fun follows => ?_
    rcases List.head?_eq_some_iff.1 follows with ⟨others, rfl⟩
    have matched := refused ⟨.pair ['|'] '|', .emit .logicalOr⟩ (by decide)
    simp [Pattern.extent?] at matched
  · have unclosed := refused ⟨.quoted '"', .emit .string⟩ (by decide)
    exact .quote (by simp) (Pattern.extent?_quoted_eq_none_iff.1 unclosed)
  · have unclosed := refused ⟨.quoted '\x27', .emit .string⟩ (by decide)
    exact .quote (by simp) (Pattern.extent?_quoted_eq_none_iff.1 unclosed)

end Rule

/-! ## What a pull comes to -/

namespace Lexer

namespace Pull

variable {bound : Nat}

/-- The token that a pull gives. -/
def token? : Pull bound → Option Token
  | .token taken _ _ => some taken
  | _ => none

/-- The diagnostic that a pull is rejected with. -/
def diagnostic? : Pull bound → Option Diagnostic
  | .rejected diagnostic _ _ => some diagnostic
  | _ => none

end Pull

/-- No rule accepts a stray text that a pull stops at, and every other text is accepted. -/
theorem Stops.first?_eq_none_iff {lexer place : Lexer} (stops : lexer.Stops place) :
    Rule.first? place.rest = none ↔ place.rest = [] ∨ Stray place.rest := by
  constructor
  · intro refused
    cases whole : place.rest with
    | nil => exact .inl rfl
    | cons first rest => exact .inr (Rule.stray_of_first? (whole ▸ refused))
  · rintro (ended | stray)
    · rw [ended]
      rfl
    · exact Rule.first?_of_stray stray stops.visible

end Lexer

/--
A pull goes over all that means nothing and comes to a place of the same source.  It is
rejected exactly where what is left there is stray: with the first character of it, in
front of which the lexer stays.  It gives a token exactly where something else is left,
and neither where nothing is.
-/
theorem rejects_exactly_strays (lexer : Lexer) :
    ∃ place : Lexer, lexer.Precedes place ∧
      (∀ rest, Stripped lexer.rest rest ↔ rest = place.rest) ∧
      (lexer.next.diagnostic? ≠ none ↔ Stray place.rest) ∧
      (∀ diagnostic, lexer.next.diagnostic? = some diagnostic →
        lexer.next.next = place ∧ ∃ character, place.rest.head? = some character ∧
          diagnostic = ⟨.unrecognisedToken (String.singleton character), place.position⟩) ∧
      (lexer.next.token? ≠ none ↔ place.rest ≠ [] ∧ ¬Stray place.rest) ∧
      (lexer.next.diagnostic? = none ∧ lexer.next.token? = none ↔ place.rest = []) := by
  rcases lexer.exists_stops with ⟨place, skips, stops⟩
  rcases skips.insignificant with ⟨front, goesOver, insignificant⟩
  have settles := stops.first?_eq_none_iff
  have stripped : Stripped lexer.rest place.rest :=
    goesOver ▸ stripped_of_bare insignificant stops.bare
  have onlyRest : ∀ rest, Stripped lexer.rest rest ↔ rest = place.rest :=
    fun rest => ⟨fun other => other.unique stripped, fun same => same ▸ stripped⟩
  refine ⟨place, skips.precedes, onlyRest, ?_⟩
  cases stops with
  | finished ended notLonger pulled =>
      simp [pulled, ended, Lexer.Pull.diagnostic?, Lexer.Pull.token?]
  | @rejected character first refused notLonger pulled =>
      have nonempty : place.rest ≠ [] := by
        rintro ended
        simp [ended] at first
      have stray : Stray place.rest := (settles.1 refused).resolve_left nonempty
      simp [pulled, nonempty, stray, first, Lexer.Pull.diagnostic?, Lexer.Pull.token?,
        Lexer.Pull.next]
  | token found emits shorter pulled =>
      have accepted : ¬(place.rest = [] ∨ Stray place.rest) := by
        rw [← settles, found]
        exact Option.some_ne_none _
      rw [not_or] at accepted
      simp [pulled, accepted.1, accepted.2, Lexer.Pull.diagnostic?, Lexer.Pull.token?]

/--
Behind a comment and a space of two bytes an ampersand is refused where it stands, and the
slash of a comment that is never closed is a token.
-/
theorem lone_ampersand_rejected :
    (∃ place : Lexer, Stripped "/*é*/\u00a0& x".toList place.rest ∧ Stray place.rest ∧
      (Lexer.start "/*é*/\u00a0& x" none).next.diagnostic? =
        some ⟨.unrecognisedToken "&", place.position⟩) ∧
    ∃ place : Lexer, Stripped "//é\n/* x".toList place.rest ∧ ¬Stray place.rest ∧
      (Lexer.start "//é\n/* x" none).next.token? ≠ none := by
  have refused : (Lexer.start "/*é*/\u00a0& x" none).next.diagnostic? =
      some ⟨.unrecognisedToken "&", ⟨8, "shell"⟩⟩ := by
    decide +kernel
  have accepted : (Lexer.start "//é\n/* x" none).next.token? ≠ none := by
    decide +kernel
  constructor
  · rcases rejects_exactly_strays (Lexer.start "/*é*/\u00a0& x" none) with
      ⟨place, _, stripped, rejects, carries, _⟩
    refine ⟨place, (stripped _).2 rfl, rejects.1 (by simp [refused]), ?_⟩
    rcases carries _ refused with ⟨_, character, _, same⟩
    have stands : (⟨8, "shell"⟩ : Position) = place.position :=
      congrArg Diagnostic.position same
    rw [refused, stands]
  · rcases rejects_exactly_strays (Lexer.start "//é\n/* x" none) with
      ⟨place, _, stripped, _, _, gives, _⟩
    exact ⟨place, (stripped _).2 rfl, (gives.1 accepted).2, accepted⟩

end Script
