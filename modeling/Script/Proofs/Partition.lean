import Script.Proofs.Lexing
import Script.Proofs.Spans

/-!
# Tokens partition their source

A source is made up of its tokens and of what means nothing between them.  Each
token holds exactly the text at its span, and the text of every gap, before the
first token, between two tokens and behind the last one, consists of white space
and comments.  Where a character stops the lexer, the same holds of the tokens
before it and of the text before it.

Whether a comment is a whole one depends on what follows it: a line comment goes
on to the end of its line, and a block comment ends at the first mark that can
end it.
-/

namespace Script

/-! ## What means nothing -/

/-- A text in front of another one consists of white space and of whole comments. -/
inductive Insignificant : List Char → List Char → Prop where
  | nil {behind : List Char} : Insignificant [] behind
  | whiteSpace {character : Char} {rest behind : List Char}
      (white : Text.isWhiteSpace character = true)
      (others : Insignificant rest behind) :
      Insignificant (character :: rest) behind
  | lineComment {inside rest behind : List Char}
      (oneLine : '\n' ∉ inside)
      (ends : ∀ next ∈ (rest ++ behind).head?, next = '\n')
      (others : Insignificant rest behind) :
      Insignificant ('/' :: '/' :: inside ++ rest) behind
  | blockComment {inside rest behind : List Char}
      (first : ¬['*', '/'] <:+: inside ++ ['*'])
      (others : Insignificant rest behind) :
      Insignificant ('/' :: '*' :: inside ++ '*' :: '/' :: rest) behind

namespace Insignificant

variable {front back behind : List Char}

theorem append (ofFront : Insignificant front (back ++ behind))
    (ofBack : Insignificant back behind) : Insignificant (front ++ back) behind := by
  generalize whole : back ++ behind = following at ofFront
  induction ofFront with
  | nil => exact ofBack
  | whiteSpace white _ inductionHypothesis =>
      exact .whiteSpace white (inductionHypothesis whole)
  | lineComment oneLine ends _ inductionHypothesis =>
      rw [← whole, ← List.append_assoc] at ends
      rw [List.append_assoc]
      exact .lineComment oneLine ends (inductionHypothesis whole)
  | blockComment first _ inductionHypothesis =>
      rw [List.append_assoc, List.cons_append, List.cons_append]
      exact .blockComment first (inductionHypothesis whole)

theorem of_whiteSpace (white : ∀ character ∈ front, Text.isWhiteSpace character = true) :
    Insignificant front behind := by
  induction front with
  | nil => exact .nil
  | cons first others inductionHypothesis =>
      refine .whiteSpace (white first (by simp)) (inductionHypothesis ?_)
      intro character member
      exact white character (by simp [member])

end Insignificant

/-- The mark that ends a comment is the first one in it. -/
theorem Pattern.eq_of_closing? {text : List Char} {count : Nat}
    (found : closing? text = some count) :
    ∃ inside rest, text = inside ++ '*' :: '/' :: rest ∧ count = inside.length + 2 ∧
      ¬['*', '/'] <:+: inside ++ ['*'] := by
  fun_induction closing? text generalizing count with
  | case1 => cases found
  | case2 => cases found
  | case3 first second rest closes =>
      cases found
      simp only [Bool.and_eq_true, decide_eq_true_eq] at closes
      rcases closes with ⟨rfl, rfl⟩
      exact ⟨[], rest, rfl, rfl, by decide⟩
  | case4 first second rest open_ inductionHypothesis =>
      rcases Option.map_eq_some_iff.1 found with ⟨shorter, closes, rfl⟩
      rcases inductionHypothesis closes with ⟨inside, others, split, rfl, earlier⟩
      refine ⟨first :: inside, others, by rw [split]; rfl, by simp, ?_⟩
      rw [List.cons_append, List.infix_cons_iff]
      rintro (starts | later)
      · -- The mark would stand at the head of the text.
        cases inside with
        | nil => simp at starts
        | cons next inside =>
            rcases List.cons.inj split with ⟨rfl, _⟩
            rcases starts with ⟨_, starts⟩
            cases starts
            simp at open_
      · exact earlier later

/-- A text that a rule skips means nothing. -/
theorem Rule.insignificant_of_first? {text : List Char} {rule : Rule} {length : Nat}
    (found : first? text = some (rule, length))
    (skipped : rule.kind? (String.ofList (text.take length)) = none) :
    Insignificant (text.take length) (text.drop length) := by
  have extent := extent?_of_first? found
  have member := mem_of_skips (mem_all_of_first? found) skipped
  have order : all.take 3 = [⟨.run .whiteSpace, .skip⟩, ⟨.lineComment, .skip⟩,
      ⟨.blockComment, .skip⟩] := by decide
  simp only [order, List.mem_cons, List.not_mem_nil, or_false] at member
  rcases member with rfl | rfl | rfl
  · apply Insignificant.of_whiteSpace
    rw [(Pattern.take_of_run extent).1]
    exact List.all_eq_true.1 List.all_takeWhile
  · rcases Pattern.eq_of_lineComment extent with ⟨inside, rfl, rfl⟩
    have taken : inside.take (inside.takeWhile (· != '\n')).length =
        inside.takeWhile (· != '\n') :=
      (List.prefix_iff_eq_take.1 (List.takeWhile_prefix _)).symm
    simp only [List.take_succ_cons, List.drop_succ_cons, taken, drop_length_takeWhile]
    have comment : Insignificant ('/' :: '/' :: inside.takeWhile (· != '\n') ++ [])
        (inside.dropWhile (· != '\n')) := by
      refine .lineComment (Pattern.not_mem_takeWhile_mark '\n' inside) ?_ .nil
      intro next follows
      have stops := List.head?_dropWhile_not (· != '\n') inside
      simp_all
    rwa [List.append_nil] at comment
  · rcases Pattern.eq_of_blockComment extent with ⟨inside, count, rfl, closes, rfl⟩
    rcases Pattern.eq_of_closing? closes with ⟨inner, rest, rfl, rfl, first⟩
    have whole : '/' :: '*' :: (inner ++ '*' :: '/' :: rest) =
        ('/' :: '*' :: inner ++ '*' :: '/' :: []) ++ rest := by simp
    have size : ('/' :: '*' :: inner ++ '*' :: '/' :: []).length = inner.length + 2 + 2 := by simp
    rw [whole, ← size, List.take_left, List.drop_left]
    exact .blockComment first .nil

/-! ## Parts of a text -/

/-- A part of a text takes the bytes from one offset up to another, in front of the rest. -/
def Text.LiesAt (text : List Char) (start stop : Nat) (part behind : List Char) : Prop :=
  ∃ before, text = before ++ part ++ behind ∧ byteLength before = start ∧
    byteLength (before ++ part) = stop

/-- Where the gaps lie that tokens leave between two offsets. -/
def gaps (start : Nat) (tokens : List Token) (stop : Nat) : List (Nat × Nat) :=
  match tokens with
  | [] => [(start, stop)]
  | token :: others =>
      (start, token.span.start.toNat) :: gaps token.span.stop.toNat others stop

/-- A text from one offset up to another is made up of tokens and of what means nothing. -/
structure Covered (text : List Char) (start : Nat) (tokens : List Token) (stop : Nat) :
    Prop where
  /-- Each token holds what stands at its span. -/
  texts : ∀ token ∈ tokens, ∃ behind,
    Text.LiesAt text token.span.start.toNat token.span.stop.toNat token.text.toList behind
  /-- What stands in a gap means nothing. -/
  insignificant : ∀ gap ∈ gaps start tokens stop, ∃ part behind,
    Text.LiesAt text gap.1 gap.2 part behind ∧ Insignificant part behind

/-- In addition, no token is empty, and they lie one after the other. -/
structure Partition (text : List Char) (start : Nat) (tokens : List Token) (stop : Nat) : Prop
    extends Covered text start tokens stop where
  ordered : InOrder start tokens stop

namespace Covered

variable {text part behind : List Char} {start stop : Nat} {token : Token} {others : List Token}

theorem nil (lies : Text.LiesAt text start stop part behind)
    (insignificant : Insignificant part behind) : Covered text start [] stop where
  texts := by simp
  insignificant := by
    rintro gap member
    cases List.mem_singleton.1 member
    exact ⟨part, behind, lies, insignificant⟩

theorem cons {after : List Char}
    (lies : Text.LiesAt text start token.span.start.toNat part behind)
    (insignificant : Insignificant part behind)
    (holds : Text.LiesAt text token.span.start.toNat token.span.stop.toNat token.text.toList after)
    (rest : Covered text token.span.stop.toNat others stop) :
    Covered text start (token :: others) stop where
  texts := by
    rintro other (_ | ⟨_, member⟩)
    · exact ⟨after, holds⟩
    · exact rest.texts other member
  insignificant := by
    rintro gap (_ | ⟨_, member⟩)
    · exact ⟨part, behind, lies, insignificant⟩
    · exact rest.insignificant gap member

end Covered

/-! ## What a lexer goes over -/

namespace Lexer

variable {lexer place : Lexer}

/-- What a lexer goes over lies between its two places. -/
theorem Precedes.liesAt (precedes : lexer.Precedes place) {part : List Char}
    (goesOver : lexer.rest = part ++ place.rest) :
    Text.LiesAt lexer.source lexer.offset place.offset part place.rest := by
  rcases lexer.splits with ⟨before, whole, size⟩
  have reaches := place.offset_add_byteLength
  rw [goesOver, ← List.append_assoc] at whole
  refine ⟨before, whole, size, ?_⟩
  rw [precedes.source_eq, whole, Text.byteLength_append (before ++ part)] at reaches
  omega

/-- What is skipped means nothing. -/
theorem Skips.insignificant (skips : lexer.Skips place) :
    ∃ part, lexer.rest = part ++ place.rest ∧ Insignificant part place.rest := by
  induction skips using Relation.ReflTransGen.head_induction_on with
  | refl => exact ⟨[], rfl, .nil⟩
  | @head lexer further one _ inductionHypothesis =>
      rcases one with ⟨rule, length, found, skipped, rfl⟩
      rcases inductionHypothesis with ⟨part, goesOver, insignificant⟩
      have ofFront := Rule.insignificant_of_first? found skipped
      have goesOver : lexer.rest.drop length = part ++ place.rest := goesOver
      rw [goesOver] at ofFront
      refine ⟨lexer.rest.take length ++ part, ?_, ofFront.append insignificant⟩
      rw [List.append_assoc, ← goesOver, List.take_append_drop]

/-- The token at a place holds the text that the lexer moves over. -/
theorem liesAt_tokenOf (short : Text.byteLength place.source < UInt32.size) (kind : Kind)
    (length : Nat) :
    Text.LiesAt place.source (place.tokenOf kind length).span.start.toNat
      (place.tokenOf kind length).span.stop.toNat (place.tokenOf kind length).text.toList
      (place.rest.drop length) := by
  have starts : (place.tokenOf kind length).span.start.toNat = place.offset :=
    toNat_offset short
  have stops : (place.tokenOf kind length).span.stop.toNat = (place.forward length).offset :=
    toNat_offset short
  rw [starts, stops, tokenOf, String.toList_ofList]
  exact (place.precedes_forward length).liesAt (List.take_append_drop length place.rest).symm

/-- The tokens of a lexer and the gaps between them cover the text up to where they end. -/
theorem covered_drain (short : Text.byteLength lexer.source < UInt32.size) :
    Covered lexer.source lexer.offset lexer.drain.tokens lexer.limit := by
  induction steps : lexer.rest.length using Nat.strongRecOn generalizing lexer with
  | _ size inductionHypothesis =>
      rcases lexer.exists_stops with ⟨place, skips, stops⟩
      rcases skips.insignificant with ⟨part, goesOver, insignificant⟩
      have precedes := skips.precedes
      have lies := precedes.liesAt goesOver
      have shortPlace : Text.byteLength place.source < UInt32.size := precedes.source_eq ▸ short
      have starts : place.position.offset.toNat = place.offset := toNat_offset shortPlace
      cases stops with
      | finished ended notLonger pulled =>
          have ends := place.offset_add_byteLength
          rw [ended, precedes.source_eq] at ends
          rw [limit, drain_of_finished pulled]
          exact .nil (ends ▸ lies) insignificant
      | rejected first refused notLonger pulled =>
          rw [← starts] at lies
          rw [limit, drain_of_rejected pulled]
          exact .nil lies insignificant
      | @token rule length kind found emits shorter pulled =>
          have stops : (place.tokenOf kind length).span.stop.toNat =
              (place.forward length).offset := toNat_offset shortPlace
          have ofOthers := @inductionHypothesis _ (steps ▸ shorter) (place.forward length)
            shortPlace rfl
          have limit_eq : lexer.limit = (place.forward length).limit := by
            rw [limit, limit, drain_of_token pulled, ← precedes.source_eq]
            rfl
          rw [← starts, ← precedes.source_eq] at lies
          rw [← stops] at ofOthers
          rw [limit_eq, drain_of_token pulled, ← precedes.source_eq]
          exact .cons lies insignificant (liesAt_tokenOf shortPlace kind length) ofOthers

/-- The tokens of a lexer partition the text up to where they end. -/
theorem partition_drain (short : Text.byteLength lexer.source < UInt32.size) :
    Partition lexer.source lexer.offset lexer.drain.tokens lexer.limit :=
  ⟨covered_drain short, inOrder_drain short⟩

end Lexer

/-- A source has no tokens where something stops the lexer. -/
theorem tokenize_eq_error_iff {source : String} {file : Option String} {diagnostic : Diagnostic} :
    tokenize source file = .error diagnostic ↔
      (Lexer.start source file).drain.failure = some diagnostic := by
  unfold tokenize
  cases fails : (Lexer.start source file).drain.failure <;> simp [fails]

/--
The tokens of a source partition it.  Where a character stops the lexer, the tokens
that it gave before partition the text up to that character.
-/
theorem tokens_partition_source {source : String} (file : Option String)
    (short : source.utf8ByteSize < 2 ^ 32) :
    (∀ tokens, tokenize source file = .ok tokens →
      Partition source.toList 0 tokens source.utf8ByteSize) ∧
    ∀ diagnostic, tokenize source file = .error diagnostic →
      Partition source.toList 0 (Lexer.start source file).drain.tokens
        diagnostic.position.offset.toNat := by
  have ofBytes := Text.byteLength_toList source
  have partition := @Lexer.partition_drain (Lexer.start source file) (ofBytes ▸ short)
  constructor
  · intro tokens lexes
    rcases tokenize_eq_ok_iff.1 lexes with ⟨complete, rfl⟩
    rw [Lexer.limit, complete] at partition
    exact ofBytes ▸ partition
  · intro diagnostic fails
    rw [Lexer.limit, tokenize_eq_error_iff.1 fails] at partition
    exact partition

/-- Characters of several bytes stand in a string and in comments, and one stops the lexer. -/
theorem tokens_partition_accented :
    (∃ tokens, tokenize "'é'/* ü **/+// ß" none = .ok tokens ∧ tokens.length = 2 ∧
      Partition "'é'/* ü **/+// ß".toList 0 tokens 19) ∧
    ∃ diagnostic, tokenize "a/* ü */é" none = .error diagnostic ∧
      Partition "a/* ü */é".toList 0 (Lexer.start "a/* ü */é" none).drain.tokens 9 := by
  have lexes : tokenize "'é'/* ü **/+// ß" none = .ok
      [⟨.string, "'é'", ⟨0, 4, "shell"⟩⟩, ⟨.additiveOperator, "+", ⟨13, 14, "shell"⟩⟩] :=
    tokenize_eq_ok_iff.2 ⟨by decide +kernel, by decide +kernel⟩
  have fails : tokenize "a/* ü */é" none = .error ⟨.unrecognisedToken "é", ⟨9, "shell"⟩⟩ :=
    tokenize_eq_error_iff.2 (by decide +kernel)
  have partition := (tokens_partition_source none (by decide +kernel)).1 _ lexes
  have beforeStop := (tokens_partition_source none (by decide +kernel)).2 _ fails
  exact ⟨⟨_, lexes, rfl, partition⟩, _, fails, beforeStop⟩

end Script
