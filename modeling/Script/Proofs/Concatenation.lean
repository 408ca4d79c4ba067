import Mathlib.Data.List.Chain
import Script.Proofs.Acceptance
import Script.Proofs.Lexing

/-!
# Programs one after the other

Two programs with a line end between them are read as one program with the
statements of both, and a program in curly brackets is read as a block.

The grammar has no trouble with this, since it derives lists of statements one
after the other.  The lexer has: more text behind a program could close a comment
that is left open in it, and then its tokens would be others.  An open comment is
read as an operator and another one that starts with a star, and no program has
these two in a row.
-/

namespace Script

/-! ## Patterns in front of a line end -/

namespace Pattern

/-- Whether a pattern looks no further than to the next line end. -/
def endsAtNewline : Pattern → Bool
  | .run characters => !characters.holds '\n'
  | .lineComment => true
  | .blockComment => false
  | .oneOf heads => '\n' ∉ heads
  | .pair heads second => '\n' ∉ heads && second ≠ '\n'
  | .oneOrPair heads second => '\n' ∉ heads && second ≠ '\n'
  | .reservedWord => true
  | .quoted _ => false

variable {text : List Char} {length : Nat}

theorem takeWhile_append_newline {holds : Char → Bool} (stops : holds '\n' = false)
    (text others : List Char) :
    (text ++ '\n' :: others).takeWhile holds = text.takeWhile holds := by
  induction text with
  | nil => simp [stops]
  | cons first rest inductionHypothesis =>
      rw [List.cons_append, List.takeWhile_cons, List.takeWhile_cons, inductionHypothesis]

/-- A line end behind a text makes no difference to the word at its head. -/
theorem startsWithWord_append_newline {word : List Char} (inLine : '\n' ∉ word)
    (text others : List Char) :
    startsWithWord word (text ++ '\n' :: others) = startsWithWord word text := by
  rw [Bool.eq_iff_iff, startsWithWord, startsWithWord, Bool.and_eq_true, Bool.and_eq_true,
    List.isPrefixOf_iff_prefix, List.isPrefixOf_iff_prefix]
  have ends (rest : List Char) : endsWord (rest ++ '\n' :: others) = endsWord rest := by
    have notWord : Text.isWordCharacter '\n' = false := by decide +kernel
    cases rest <;> simp [endsWord, notWord]
  constructor
  · rintro ⟨starts, ended⟩
    have within : word <+: text := by
      rcases List.prefix_or_prefix_of_prefix starts (List.prefix_append text _) with
        within | ⟨more, rfl⟩
      · exact within
      · cases more with
        | nil => simp
        | cons first rest =>
            rw [List.prefix_append_right_inj] at starts
            have isNewline : first = '\n' := (List.cons_prefix_cons.1 starts).1
            exact absurd (by simp [isNewline]) inLine
    rcases within with ⟨rest, rfl⟩
    rw [List.append_assoc, List.drop_left, ends] at ended
    exact ⟨List.prefix_append word rest, by rwa [List.drop_left]⟩
  · rintro ⟨⟨rest, rfl⟩, ended⟩
    rw [List.drop_left] at ended
    rw [List.append_assoc, List.drop_left, ends]
    exact ⟨List.prefix_append word _, ended⟩

theorem reservedAt?_append_newline (text others : List Char) :
    reservedAt? (text ++ '\n' :: others) = reservedAt? text := by
  have inLine : (Kind.reserved.all fun kind => !kind.name.toList.contains '\n') = true := by
    decide
  apply List.find?_congr
  intro kind member
  apply startsWithWord_append_newline
  simpa using List.all_eq_true.1 inLine kind member

/-- Such a pattern takes as much in front of a line end as in front of nothing. -/
theorem extent?_append_newline {pattern : Pattern} (ends : pattern.endsAtNewline = true)
    (text others : List Char) :
    pattern.extent? (text ++ '\n' :: others) = pattern.extent? text := by
  cases pattern with
  | run characters =>
      have stops : characters.holds '\n' = false := by simpa [endsAtNewline] using ends
      simp only [extent?, takeWhile_append_newline stops]
  | lineComment =>
      rcases text with _ | ⟨first, _ | ⟨second, rest⟩⟩
      · rfl
      · simp [extent?]
      · by_cases opens : first = '/' ∧ second = '/'
        · rcases opens with ⟨rfl, rfl⟩
          simp [extent?, takeWhile_append_newline]
        · simp_all [extent?]
  | blockComment => cases ends
  | oneOf heads =>
      have notHead : '\n' ∉ heads := by simpa [endsAtNewline] using ends
      cases text <;> simp [extent?, notHead]
  | pair heads second =>
      have apart : '\n' ∉ heads ∧ second ≠ '\n' := by simpa [endsAtNewline] using ends
      rcases text with _ | ⟨first, _ | ⟨next, rest⟩⟩
      · cases others <;> simp [extent?, apart.1]
      · simp [extent?, apart.2.symm]
      · simp [extent?]
  | oneOrPair heads second =>
      have apart : '\n' ∉ heads ∧ second ≠ '\n' := by simpa [endsAtNewline] using ends
      rcases text with _ | ⟨first, _ | ⟨next, rest⟩⟩
      · simp [extent?, apart.1]
      · simp [extent?, apart.2.symm]
      · simp [extent?]
  | reservedWord => simp only [extent?, reservedAt?_append_newline]
  | quoted mark => cases ends

/-- The end of a comment stays where it is, whatever follows. -/
theorem closing?_append (found : closing? text = some length) (others : List Char) :
    closing? (text ++ others) = some length := by
  fun_induction closing? text generalizing length with
  | case1 => cases found
  | case2 => cases found
  | case3 first second rest closes => simpa [closing?, closes] using found
  | case4 first second rest open_ inductionHypothesis =>
      rcases Option.map_eq_some_iff.1 found with ⟨shorter, inner, rfl⟩
      have inside := inductionHypothesis inner
      rw [List.cons_append] at inside
      simp [closing?, open_, inside]

theorem extent?_blockComment_append (found : blockComment.extent? text = some length)
    (others : List Char) :
    blockComment.extent? (text ++ others) = some length := by
  rcases eq_of_blockComment found with ⟨inside, count, rfl, closes, rfl⟩
  simp [extent?, closing?_append closes]

/-- The second mark of a quoted text stays where it is, whatever follows. -/
theorem extent?_quoted_append {mark : Char} (found : (quoted mark).extent? text = some length)
    (others : List Char) :
    (quoted mark).extent? (text ++ others) = some length := by
  cases text with
  | nil => cases found
  | cons first rest =>
      simp only [extent?, Option.ite_none_right_eq_some, Option.some.injEq] at found
      rcases found with ⟨⟨rfl, within⟩, rfl⟩
      have inside : (rest ++ others).takeWhile (· != first) = rest.takeWhile (· != first) := by
        rcases eq_takeWhile_append_mark within with ⟨after, whole⟩
        have held := List.all_eq_true.1 (List.all_takeWhile (p := (· != first)) (l := rest))
        conv => lhs; rw [whole]
        rw [List.append_assoc, List.takeWhile_append_of_pos held]
        simp
      have longer : (rest.takeWhile (· != first)).length < (rest ++ others).length := by
        rw [List.length_append]
        omega
      rw [List.cons_append, extent?, inside, if_pos ⟨rfl, longer⟩]

end Pattern

/-! ## Rules in front of a line end -/

namespace Rule

variable {text : List Char} {rule : Rule} {length : Nat}

/-- A rule that takes no white space takes as much in front of a line end. -/
theorem extent?_append_newline (member : rule ∈ all) (visible : rule ≠ blank)
    (found : rule.pattern.extent? text = some length) (others : List Char) :
    rule.pattern.extent? (text ++ '\n' :: others) = some length := by
  have sorts : ∀ rule ∈ all, rule ≠ blank →
      rule.pattern.endsAtNewline = true ∨ rule.pattern = .blockComment ∨
        rule.pattern = .quoted '"' ∨ rule.pattern = .quoted '\x27' := by
    decide
  rcases sorts rule member visible with ends | isComment | isQuoted | isQuoted
  · rw [Pattern.extent?_append_newline ends, found]
  · rw [isComment] at found ⊢
    exact Pattern.extent?_blockComment_append found _
  · rw [isQuoted] at found ⊢
    exact Pattern.extent?_quoted_append found _
  · rw [isQuoted] at found ⊢
    exact Pattern.extent?_quoted_append found _

/-- Whether the later one of two rules starts with none of the marks of the earlier one. -/
def startsApart (earlier later : Rule) : Bool :=
  match earlier.pattern with
  | .quoted mark => !later.pattern.mayStart mark
  | _ => true

/--
A rule that refuses a text refuses it in front of a line end, too, where a later
rule accepts the text.  Only an open comment makes a difference.
-/
theorem refuses_append_newline {earlier : Rule} {first : Char} {rest : List Char}
    (member : earlier ∈ all) (apart : startsApart earlier rule = true)
    (refused : earlier.pattern.extent? (first :: rest) = none)
    (found : rule.pattern.extent? (first :: rest) = some length)
    (plain : earlier.pattern = .blockComment → ∀ inside, first :: rest ≠ '/' :: '*' :: inside)
    (others : List Char) :
    earlier.pattern.extent? (first :: rest ++ '\n' :: others) = none := by
  have sorts : ∀ rule ∈ all, rule.pattern.endsAtNewline = true ∨
      rule.pattern = .run .whiteSpace ∨ rule.pattern = .blockComment ∨
        rule.pattern = .quoted '"' ∨ rule.pattern = .quoted '\x27' := by
    decide
  have quotes : ∀ mark, earlier.pattern = .quoted mark →
      earlier.pattern.extent? (first :: rest ++ '\n' :: others) = none := by
    intro mark isQuoted
    apply Pattern.extent?_eq_none_of_mayStart
    rw [isQuoted, Pattern.mayStart, decide_eq_false_iff_not]
    rintro rfl
    rw [startsApart, isQuoted] at apart
    have refuses : rule.pattern.mayStart first = false := by simpa using apart
    rw [Pattern.extent?_eq_none_of_mayStart refuses] at found
    cases found
  rcases sorts earlier member with ends | isBlank | isComment | isQuoted | isQuoted
  · rw [Pattern.extent?_append_newline ends, refused]
  · apply Pattern.extent?_eq_none_of_mayStart
    rw [isBlank] at refused ⊢
    rw [Bool.eq_false_iff]
    intro white
    have starts : CharacterClass.whiteSpace.holds first = true := white
    simp [extent?_run starts] at refused
  · rw [isComment]
    cases extent : Pattern.blockComment.extent? (first :: rest ++ '\n' :: others) with
    | none => rfl
    | some length =>
        rcases Pattern.eq_of_blockComment extent with ⟨inside, count, opens, _⟩
        cases rest with
        | nil => simp at opens
        | cons second rest =>
            simp only [List.cons_append, List.cons.injEq] at opens
            exact absurd (by rw [opens.1, opens.2.1]) (plain isComment rest)
  · exact quotes _ isQuoted
  · exact quotes _ isQuoted

/-- The same rule is found in front of a line end, unless a comment is left open. -/
theorem first?_append_newline (found : first? text = some (rule, length))
    (visible : rule ≠ blank)
    (plain : rule.pattern = .blockComment ∨ ∀ inside, text ≠ '/' :: '*' :: inside)
    (others : List Char) :
    first? (text ++ '\n' :: others) = some (rule, length) := by
  rcases split_of_first? found with ⟨before, after, order, refused, matched⟩
  have member : rule ∈ all := mem_all_of_first? found
  refine first?_eq order ?_ (extent?_append_newline member visible matched others)
  intro earlier isEarlier
  have apart : startsApart earlier rule = true := by
    have ordered : all.Pairwise fun earlier later => startsApart earlier later = true := by
      decide
    rw [order, List.pairwise_append] at ordered
    exact ordered.2.2 earlier isEarlier rule (by simp)
  have opens : earlier.pattern = .blockComment → ∀ inside, text ≠ '/' :: '*' :: inside := by
    intro isComment
    rcases plain with same | plain
    · have refuses := refused earlier isEarlier
      rw [isComment, ← same, matched] at refuses
      cases refuses
    · exact plain
  have ofAll : earlier ∈ all := by simp [order, isEarlier]
  cases text with
  | nil =>
      have positive := pos_of_first? found
      have within := le_length_of_first? found
      simp only [List.length_nil] at within
      omega
  | cons first rest =>
      exact refuses_append_newline ofAll apart (refused earlier isEarlier) matched opens others

end Rule

/-! ## Lexemes of two texts -/

section Lexemes

variable {text : List Char} {lexemes : List Lexeme}

theorem Lexes.dropWhile_whiteSpace (lexes : Lexes text lexemes) :
    Lexes (text.dropWhile Text.isWhiteSpace) lexemes := by
  cases text with
  | nil => exact lexes
  | cons first rest =>
      by_cases white : Text.isWhiteSpace first = true
      · have found := Rule.first?_of_whiteSpace white rest
        cases lexes with
        | skip other skipped ofRest =>
            cases found.symm.trans other
            rwa [drop_length_takeWhile] at ofRest
        | take other emits ofRest =>
            cases found.symm.trans other
            cases emits
      · rwa [List.dropWhile_cons_of_neg white]

/-- White space in front of a text makes no difference to its lexemes. -/
theorem Lexes.whiteSpace_cons {first : Char} (white : Text.isWhiteSpace first = true)
    (lexes : Lexes text lexemes) :
    Lexes (first :: text) lexemes := by
  refine .skip (Rule.first?_of_whiteSpace white text) rfl ?_
  rw [drop_length_takeWhile, List.dropWhile_cons_of_pos white]
  exact lexes.dropWhile_whiteSpace

theorem Lexes.whiteSpace_append {front : List Char}
    (white : ∀ character ∈ front, Text.isWhiteSpace character = true)
    (lexes : Lexes text lexemes) :
    Lexes (front ++ text) lexemes := by
  induction front with
  | nil => exact lexes
  | cons first rest inductionHypothesis =>
      rw [List.forall_mem_cons] at white
      exact (inductionHypothesis white.2).whiteSpace_cons white.1

/-- A mark that a rule of its own takes is a lexeme, whatever follows it. -/
theorem Lexes.mark_cons {before after : List Rule} {first : Char} {kind : Kind}
    (order : Rule.all = before ++ ⟨.oneOf [first], .emit kind⟩ :: after)
    (refused : Rule.noneStarts before [first] = true) (lexes : Lexes text lexemes) :
    Lexes (first :: text) (⟨kind, String.ofList [first]⟩ :: lexemes) := by
  have found : Rule.first? (first :: text) = some (⟨.oneOf [first], .emit kind⟩, 1) := by
    refine Rule.first?_eq order ?_ (by simp [Pattern.extent?])
    intro earlier member
    exact Rule.extent?_of_noneStarts refused member (List.mem_singleton.2 rfl) text
  exact .take found rfl lexes

/-- The second of two lexemes does not start with a star behind a division. -/
def Lexeme.KeepsApart (first second : Lexeme) : Prop :=
  first.kind = .multiplicativeOperator →
    second.kind ∉ [.multiplicativeOperator, .complexAssign]

/-- A star is the first character of an operator. -/
theorem Lexes.star_cons {rest : List Char} (lexes : Lexes ('*' :: rest) lexemes) :
    ∃ first others, lexemes = first :: others ∧
      first.kind ∈ [.multiplicativeOperator, .complexAssign] := by
  have plain : ∀ rule ∈ Rule.all, rule.pattern.mayStart '*' = true →
      rule.action = .emit .multiplicativeOperator ∨ rule.action = .emit .complexAssign := by
    decide
  have operates {rule : Rule} {length : Nat}
      (found : Rule.first? ('*' :: rest) = some (rule, length)) :
      rule.action = .emit .multiplicativeOperator ∨ rule.action = .emit .complexAssign := by
    apply plain rule (Rule.mem_all_of_first? found)
    by_contra refuses
    have refused := Pattern.extent?_eq_none_of_mayStart (Bool.not_eq_true _ ▸ refuses) rest
    rw [Rule.extent?_of_first? found] at refused
    cases refused
  cases lexes with
  | skip found skipped _ =>
      rcases operates found with action | action <;> simp [Rule.kind?, action] at skipped
  | take found emits _ =>
      refine ⟨_, _, rfl, ?_⟩
      rcases operates found with action | action <;> simp_all [Rule.kind?]

/-- A comment that is left open is read as a division and another operator. -/
theorem Rule.division_of_open {inside : List Char} {rule : Rule} {length : Nat}
    (found : Rule.first? ('/' :: '*' :: inside) = some (rule, length))
    (isOpen : rule.pattern ≠ .blockComment) :
    length = 1 ∧ rule.action = .emit .multiplicativeOperator := by
  have matched := Rule.extent?_of_first? found
  have settled : ∀ rule ∈ Rule.all, rule.pattern.mayStart '/' = true →
      rule.pattern = .lineComment ∨ rule.pattern = .blockComment ∨
        rule.pattern = .pair ['*', '/', '+', '-'] '=' ∨
          rule = ⟨.oneOf ['*', '/'], .emit .multiplicativeOperator⟩ := by
    decide
  have starts : rule.pattern.mayStart '/' = true := by
    by_contra refuses
    rw [Pattern.extent?_eq_none_of_mayStart (Bool.not_eq_true _ ▸ refuses)] at matched
    cases matched
  rcases settled rule (Rule.mem_all_of_first? found) starts with
    isLine | isBlock | isPair | rfl
  · simp [isLine, Pattern.extent?] at matched
  · exact absurd isBlock isOpen
  · simp [isPair, Pattern.extent?] at matched
  · simp only [Pattern.extent?] at matched
    exact ⟨by simpa using matched.symm, rfl⟩

/-- A lexeme at the head of a text opens no comment, where the lexemes are kept apart. -/
theorem Lexes.plain_of_take {rule : Rule} {length : Nat} {kind : Kind}
    (found : Rule.first? text = some (rule, length))
    (emits : rule.kind? (String.ofList (text.take length)) = some kind)
    (rest : Lexes (text.drop length) lexemes)
    (apart : (⟨kind, String.ofList (text.take length)⟩ :: lexemes).IsChain Lexeme.KeepsApart) :
    ∀ inside, text ≠ '/' :: '*' :: inside := by
  rintro inside rfl
  have commenting : ∀ rule ∈ Rule.all, rule.pattern = .blockComment → rule.action = .skip := by
    decide
  have isOpen : rule.pattern ≠ .blockComment := by
    intro isComment
    have action := commenting rule (Rule.mem_all_of_first? found) isComment
    simp [Rule.kind?, action] at emits
  rcases Rule.division_of_open found isOpen with ⟨rfl, action⟩
  rcases Lexes.star_cons rest with ⟨next, others, rfl, starts⟩
  have divides : kind = .multiplicativeOperator := by
    simpa [Rule.kind?, action, eq_comm] using emits
  exact (List.isChain_cons_cons.1 apart).1 divides starts

/--
A text and another one behind a line end consist of the lexemes of both, if no
comment is left open in the first.
-/
theorem Lexes.append_newline {tail : List Char} {others : List Lexeme}
    (lexes : Lexes text lexemes) (apart : lexemes.IsChain Lexeme.KeepsApart)
    (ofTail : Lexes tail others) :
    Lexes (text ++ '\n' :: tail) (lexemes ++ others) := by
  have cut {front : List Char} {rule : Rule} {length : Nat}
      (found : Rule.first? front = some (rule, length)) :
      (front ++ '\n' :: tail).take length = front.take length ∧
        (front ++ '\n' :: tail).drop length = front.drop length ++ '\n' :: tail :=
    ⟨List.take_append_of_le_length (Rule.le_length_of_first? found),
      List.drop_append_of_le_length (Rule.le_length_of_first? found)⟩
  induction lexes with
  | nil => exact ofTail.whiteSpace_cons (by decide)
  | @skip text lexemes rule length found skipped rest inductionHypothesis =>
      have ofRest := inductionHypothesis apart
      by_cases white : rule = .blank
      · -- White space at the end of the text goes together with the line end.
        subst white
        rcases Pattern.take_of_run (Rule.extent?_of_first? found) with ⟨taken, _⟩
        rw [← List.take_append_drop length text, List.append_assoc, taken]
        exact ofRest.whiteSpace_append (List.all_eq_true.1 List.all_takeWhile)
      · have plain : rule.pattern = .blockComment ∨ ∀ inside, text ≠ '/' :: '*' :: inside := by
          have sorts : ∀ rule ∈ Rule.all.take 3, rule ≠ .blank →
              rule.pattern = .blockComment ∨ rule.pattern = .lineComment := by
            decide
          have member := Rule.mem_of_skips (Rule.mem_all_of_first? found) skipped
          refine (sorts rule member white).imp_right fun isLine inside opens => ?_
          have extent := Rule.extent?_of_first? found
          rw [isLine, opens] at extent
          simp [Pattern.extent?] at extent
        have foundLonger := Rule.first?_append_newline found white plain tail
        refine .skip foundLonger ?_ ?_
        · rw [(cut found).1]
          exact skipped
        · rw [(cut found).2]
          exact ofRest
  | @take text lexemes rule length kind found emits rest inductionHypothesis =>
      have ofRest := inductionHypothesis apart.tail
      have visible : rule ≠ .blank := by
        rintro rfl
        cases emits
      have plain := Lexes.plain_of_take found emits rest apart
      have foundLonger := Rule.first?_append_newline found visible (.inr plain) tail
      rw [← (cut found).1] at emits ⊢
      refine .take foundLonger emits ?_
      rw [(cut found).2]
      exact ofRest

/-- A text in curly brackets has their lexemes around its own. -/
theorem Lexes.braced (lexes : Lexes text lexemes) (apart : lexemes.IsChain Lexeme.KeepsApart) :
    Lexes ('\x7b' :: text ++ ['\n', '\x7d'])
      (⟨.openCurly, "\x7b"⟩ :: lexemes ++ [⟨.closeCurly, "\x7d"⟩]) := by
  have orderOpen : Rule.all =
      Rule.all.take 4 ++ ⟨.oneOf ['\x7b'], .emit .openCurly⟩ :: Rule.all.drop 5 := by
    decide
  have orderClose : Rule.all =
      Rule.all.take 5 ++ ⟨.oneOf ['\x7d'], .emit .closeCurly⟩ :: Rule.all.drop 6 := by
    decide
  exact .mark_cons orderOpen (by decide)
    (lexes.append_newline apart (.mark_cons orderClose (by decide) .nil))

end Lexemes

/-! ## No program leaves a comment open -/

open Grammar

/-- Lexemes that are kept apart, the last of which is no multiplication or division. -/
structure Tidy (lexemes : List Lexeme) : Prop where
  apart : lexemes.IsChain Lexeme.KeepsApart
  ends : ∀ last ∈ lexemes.getLast?, last.kind ≠ .multiplicativeOperator

namespace Tidy

variable {front back : List Lexeme} {first : Lexeme} {kind : Kind}

theorem nil : Tidy [] :=
  ⟨.nil, by simp⟩

theorem append (ofFront : Tidy front) (ofBack : Tidy back) : Tidy (front ++ back) := by
  refine ⟨ofFront.apart.append ofBack.apart ?_, ?_⟩
  · intro last isLast next _ divides
    exact absurd divides (ofFront.ends last isLast)
  · intro last isLast
    rw [List.getLast?_append, Option.mem_def, Option.or_eq_some_iff] at isLast
    rcases isLast with isLast | ⟨_, isLast⟩
    · exact ofBack.ends last isLast
    · exact ofFront.ends last isLast

theorem single (isKind : first.kind = kind)
    (other : decide (kind = .multiplicativeOperator) = false) : Tidy [first] := by
  refine ⟨.singleton first, ?_⟩
  simpa [isKind] using other

theorem cons (isKind : first.kind = kind)
    (other : decide (kind = .multiplicativeOperator) = false) (ofBack : Tidy back) :
    Tidy (first :: back) :=
  append (single isKind other) ofBack

/-- An operator is followed by the first lexeme of an expression. -/
theorem operator {category : Category} {trees : List Tree}
    (derives : Derives category back trees) (filled : Machine.mayBeEmpty category = false)
    (isExpression : ∀ kind, Machine.starts category kind = Machine.startsExpression kind)
    (ofBack : Tidy back) :
    Tidy (first :: back) := by
  have begins := Machine.begins_of_derives derives
  cases back with
  | nil => simp [Machine.Begins, filled] at begins
  | cons next others =>
      rw [Machine.Begins, isExpression] at begins
      refine ⟨ofBack.apart.cons_cons ?_, by simpa using ofBack.ends⟩
      intro _
      revert begins
      cases next.kind <;> decide

end Tidy

/-- What the grammar derives is tidy. -/
theorem tidy_of_derives {category : Category} {lexemes : List Lexeme} {trees : List Tree}
    (derives : Derives category lexemes trees) : Tidy lexemes := by
  induction derives with
  | literal literal => cases literal <;> exact .single rfl rfl
  | name text => exact .single rfl rfl
  | grouping opens _ closes inside =>
      exact .append (.cons opens rfl inside) (.cons closes rfl .nil)
  | memberPrimary _ ofPrimary => exact ofPrimary
  | memberName _ dots ofObject =>
      exact .append ofObject (.cons dots rfl (.single rfl rfl))
  | memberIndex _ opens _ closes ofObject ofIndex =>
      exact .append (.append ofObject (.cons opens rfl ofIndex))
        (.cons closes rfl .nil)
  | unaryMember _ ofMember => exact ofMember
  | unaryOperator _ derives ofArgument =>
      exact .operator derives rfl (fun _ => rfl) ofArgument
  | binaryOperand _ ofOperand => exact ofOperand
  | binaryOperator _ _ derives ofLeft ofRight =>
      exact .append ofLeft (.operator derives (Machine.mayBeEmpty_operand _)
        (Machine.starts_operand _) ofRight)
  | expressionOperand _ ofOperand => exact ofOperand
  | assignment _ _ _ derives ofLeft ofRight =>
      exact .append ofLeft (.operator derives rfl (fun _ => rfl) ofRight)
  | noExpression => exact .nil
  | someExpression _ ofExpression => exact ofExpression
  | bareDeclaration text => exact .single rfl rfl
  | fullDeclaration assigns _ ofValue =>
      exact .append (.single rfl rfl) (.cons assigns rfl ofValue)
  | oneDeclaration _ ofDeclaration => exact ofDeclaration
  | moreDeclarations _ separates _ ofFirst ofOthers =>
      exact .append ofFirst (.cons separates rfl ofOthers)
  | startExpression _ ofExpression => exact ofExpression
  | startDeclarations declares _ ofItems => exact .cons declares rfl ofItems
  | oneName text => exact .single rfl rfl
  | moreNames separates _ ofOthers =>
      exact .append (.single rfl rfl) (.cons separates rfl ofOthers)
  | noParameters => exact .nil
  | someParameters _ ofNames => exact ofNames
  | emptyStatement ends => exact .cons ends rfl .nil
  | expressionStatement _ ends ofExpression =>
      exact .append ofExpression (.cons ends rfl .nil)
  | declarationStatement declares _ ends ofItems =>
      exact .append (.cons declares rfl ofItems) (.cons ends rfl .nil)
  | block opens _ closes ofBody =>
      exact .append (.cons opens rfl ofBody) (.cons closes rfl .nil)
  | blockStatement _ ofBlock => exact ofBlock
  | conditional asks opens _ closes _ ofTest ofConsequent =>
      exact .append (.cons asks rfl (.cons opens rfl ofTest))
        (.cons closes rfl ofConsequent)
  | conditionalElse asks opens _ closes _ _ otherwise _ ofTest ofConsequent ofAlternate =>
      exact .append
        (.append (.cons asks rfl (.cons opens rfl ofTest))
          (.cons closes rfl ofConsequent))
        (.cons otherwise rfl ofAlternate)
  | whileLoop repeats opens _ closes _ ofTest ofBody =>
      exact .append (.cons repeats rfl (.cons opens rfl ofTest))
        (.cons closes rfl ofBody)
  | doWhileLoop starts _ repeats opens _ closes ends ofBody ofTest =>
      exact .append
        (.append (.cons starts rfl ofBody)
          (.cons repeats rfl (.cons opens rfl ofTest)))
        (.cons closes rfl (.cons ends rfl .nil))
  | forLoop repeats opens _ endsInit _ endsTest _ closes _ ofInit ofTest ofUpdate ofBody =>
      exact .append
        (.append
          (.append (.cons repeats rfl (.cons opens rfl ofInit))
            (.cons endsInit rfl ofTest))
          (.cons endsTest rfl ofUpdate))
        (.cons closes rfl ofBody)
  | function defines opens _ closes _ ofParams ofBody =>
      exact .append
        (.cons defines rfl (.append (.single rfl rfl) (.cons opens rfl ofParams)))
        (.cons closes rfl ofBody)
  | returning returns _ ends ofArgument =>
      exact .append (.cons returns rfl ofArgument) (.cons ends rfl .nil)
  | noStatements => exact .nil
  | moreStatements _ _ ofFirst ofOthers => exact .append ofFirst ofOthers
  | program _ ofStatements => exact ofStatements

/-! ## Statements one after the other -/

namespace Grammar

variable {front back : List Lexeme} {trees others : List Tree}

theorem Derives.statements_append (ofFront : Derives .statements front trees)
    (ofBack : Derives .statements back others) :
    Derives .statements (front ++ back) (trees ++ others) := by
  induction trees generalizing front with
  | nil =>
      cases ofFront
      exact ofBack
  | cons tree trees inductionHypothesis =>
      cases ofFront with
      | moreStatements ofFirst ofOthers =>
          rw [List.append_assoc]
          exact .moreStatements ofFirst (inductionHypothesis ofOthers)

theorem derives_program_iff {lexemes : List Lexeme} {tree : Tree} :
    Derives .program lexemes [tree] ↔
      ∃ body, tree = .program body ∧ Derives .statements lexemes body := by
  constructor
  · rintro ⟨⟩
    exact ⟨_, rfl, ‹_›⟩
  · rintro ⟨body, rfl, derives⟩
    exact .program derives

end Grammar

namespace Parser

variable {source other : String} {file : Option String}

/-- A source is accepted where the statements of a program are derived from its lexemes. -/
theorem parse_eq_ok_iff_lexes {tree : Tree} :
    parse source file = .ok tree ↔
      ∃ lexemes body, tree = .program body ∧ Lexes source.toList lexemes ∧
        Derives .statements lexemes body := by
  rw [parse_eq_ok_iff]
  constructor
  · rintro ⟨tokens, lexes, derives⟩
    rcases derives_program_iff.1 derives with ⟨body, isProgram, derives⟩
    exact ⟨_, body, isProgram, tokenize_iff_lexes.1 ⟨tokens, lexes, rfl⟩, derives⟩
  · rintro ⟨lexemes, body, isProgram, lexes, derives⟩
    rcases tokenize_iff_lexes.2 lexes with ⟨tokens, lexes, rfl⟩
    exact ⟨tokens, lexes, derives_program_iff.2 ⟨body, isProgram, derives⟩⟩

/--
Parsing commutes with putting programs one after the other and with putting a
program in curly brackets.
-/
theorem parse_joined_and_braced {tree otherTree : Tree}
    (accepts : parse source file = .ok tree)
    (acceptsOther : parse other file = .ok otherTree) :
    ∃ body otherBody, tree = .program body ∧ otherTree = .program otherBody ∧
      parse (source ++ "\n" ++ other) file = .ok (Tree.program (body ++ otherBody)) ∧
        parse ("\x7b" ++ source ++ "\n\x7d") file = .ok (Tree.program [.block body]) := by
  rcases parse_eq_ok_iff_lexes.1 accepts with ⟨lexemes, body, rfl, lexes, derives⟩
  rcases parse_eq_ok_iff_lexes.1 acceptsOther with
    ⟨otherLexemes, otherBody, rfl, lexesOther, derivesOther⟩
  have apart := (tidy_of_derives derives).apart
  refine ⟨body, otherBody, rfl, rfl, ?_, ?_⟩
  · refine parse_eq_ok_iff_lexes.2 ⟨_, _, rfl, ?_, derives.statements_append derivesOther⟩
    have joined := lexes.append_newline apart lexesOther
    simpa using joined
  · have block : Derives .statements
        (⟨.openCurly, "\x7b"⟩ :: lexemes ++ [⟨.closeCurly, "\x7d"⟩] ++ []) [.block body] :=
      .moreStatements (.blockStatement (.block rfl derives rfl)) .noStatements
    rw [List.append_nil] at block
    refine parse_eq_ok_iff_lexes.2 ⟨_, _, rfl, ?_, block⟩
    have braced := lexes.braced apart
    simpa using braced

/-- A comment at the end of the first program ends with its line. -/
theorem commented_programs_joined :
    parse ("a / b; // c" ++ "\n" ++ "if (d) ; /* e */") none =
        .ok (Tree.program [.expression (.binary "/" (.identifier "a") (.identifier "b")),
          .conditional (.identifier "d") .empty none]) ∧
      parse ("\x7b" ++ "a / b; // c" ++ "\n\x7d") none =
        .ok (Tree.program
          [.block [.expression (.binary "/" (.identifier "a") (.identifier "b"))]]) := by
  have accepts : parse "a / b; // c" none =
      .ok (Tree.program [.expression (.binary "/" (.identifier "a") (.identifier "b"))]) := by
    decide +kernel
  have acceptsOther : parse "if (d) ; /* e */" none =
      .ok (Tree.program [.conditional (.identifier "d") .empty none]) := by
    decide +kernel
  rcases parse_joined_and_braced accepts acceptsOther with ⟨_, _, ⟨⟩, ⟨⟩, joined, braced⟩
  exact ⟨joined, braced⟩

end Parser

end Script
