import Script.Proofs.Lexing

/-!
# The first match is the longest

The rules are tried in order, and no length is ever compared.  Still the rule that is
found takes at least as many bytes as any other rule would.  A rule that may take more
than one character is found wherever it matches, because the rules before it ask for
other characters; the rule of names alone has others before it that match the same text.
A reserved word that is found is the whole name, and digits are the only text that a name
could go on behind.
-/

namespace Script

namespace Pattern

/-- Whether a pattern takes one character, whatever follows it. -/
def takesOne : Pattern → Bool
  | .oneOf _ => true
  | _ => false

variable {pattern : Pattern} {text : List Char} {length : Nat}

theorem eq_one_of_takesOne (single : pattern.takesOne = true)
    (matched : pattern.extent? text = some length) : length = 1 := by
  cases pattern <;> simp only [takesOne, Bool.false_eq_true] at single
  cases text with
  | nil => cases matched
  | cons first rest =>
      simp only [extent?, Option.ite_none_right_eq_some, Option.some.injEq] at matched
      exact matched.2.symm

theorem length_of_run {characters : CharacterClass}
    (matched : (run characters).extent? text = some length) :
    length = (text.takeWhile characters.holds).length := by
  simp only [extent?] at matched
  split at matched
  · cases matched
  · next size => exact (Option.some.inj matched).symm.trans size.symm

/-- What a pattern matches starts with a character that it may start with. -/
theorem exists_start (matched : pattern.extent? text = some length) :
    ∃ first rest, text = first :: rest ∧ pattern.mayStart first = true := by
  have positive := pos_of_extent? matched
  have within := le_length_of_extent? matched
  cases text with
  | nil =>
      simp only [List.length_nil] at within
      omega
  | cons first rest =>
      refine ⟨first, rest, rfl, ?_⟩
      by_contra refuses
      rw [extent?_eq_none_of_mayStart (Bool.eq_false_iff.2 refuses)] at matched
      cases matched

end Pattern

namespace Rule

variable {rule other : Rule} {text : List Char} {length extent : Nat}

/-! ## Rules that are found wherever they match -/

/-- The rule of block comments. -/
def blockComment : Rule :=
  ⟨.blockComment, .skip⟩

/-- The rule of operators that assign what they compute. -/
def complexAssign : Rule :=
  ⟨.pair ['*', '/', '+', '-'] '=', .emit .complexAssign⟩

/--
A rule refuses what starts with a character that a later one names, unless that one takes
a single character or a slash stands there.
-/
theorem pairwise_noneStarts :
    all.Pairwise fun earlier later =>
      later.pattern.takesOne = true ∨ later = blockComment ∨ later = complexAssign ∨
        noneStarts [earlier] later.pattern.heads = true := by
  decide +kernel

/-- A rule that names characters of its own is found where it matches. -/
theorem first?_of_named (member : rule ∈ all)
    (named : ∀ characters, rule.pattern ≠ .run characters)
    (several : rule.pattern.takesOne = false) (notBlock : rule ≠ blockComment)
    (notAssign : rule ≠ complexAssign)
    (matched : rule.pattern.extent? text = some length) :
    first? text = some (rule, length) := by
  rcases Pattern.exists_start matched with ⟨first, rest, rfl, starts⟩
  have isHead : first ∈ rule.pattern.heads := by
    rcases Pattern.mem_heads_of_mayStart starts with ⟨characters, isRun, _⟩ | isHead
    · exact absurd isRun (named characters)
    · exact isHead
  rcases List.append_of_mem member with ⟨before, after, order⟩
  refine first?_eq order ?_ matched
  intro earlier ofEarlier
  have inOrder := pairwise_noneStarts
  rw [order, List.pairwise_append] at inOrder
  have refuses : noneStarts [earlier] rule.pattern.heads = true := by
    simpa [several, notBlock, notAssign] using
      inOrder.2.2 earlier ofEarlier rule List.mem_cons_self
  exact extent?_of_noneStarts refuses (List.mem_singleton.2 rfl) isHead rest

/-- A block comment is no line comment, since its second character differs. -/
theorem first?_of_blockComment (matched : blockComment.pattern.extent? text = some length) :
    first? text = some (blockComment, length) := by
  have order : all = all.take 2 ++ blockComment :: all.drop 3 := by decide
  refine first?_eq order ?_ matched
  rcases Pattern.eq_of_blockComment matched with ⟨inside, count, rfl, _⟩
  have before : all.take 2 = [blank, ⟨.lineComment, .skip⟩] := by decide
  intro earlier member
  simp only [before, List.mem_cons, List.not_mem_nil, or_false] at member
  rcases member with rfl | rfl
  · exact Pattern.extent?_eq_none_of_mayStart (by decide) _
  · rfl

/-- A slash in front of an equals sign starts no comment. -/
theorem first?_of_complexAssign (matched : complexAssign.pattern.extent? text = some length) :
    first? text = some (complexAssign, length) := by
  rcases text with _ | ⟨first, _ | ⟨second, rest⟩⟩
  · cases matched
  · cases matched
  · simp only [complexAssign, Pattern.extent?, Option.ite_none_right_eq_some,
      Option.some.injEq, List.mem_cons, List.not_mem_nil, or_false] at matched
    rcases matched with ⟨⟨rfl | rfl | rfl | rfl, rfl⟩, rfl⟩ <;> rfl

/-- A rule that may take several characters, but for that of names, is found where it matches. -/
theorem first?_of_extent? (member : rule ∈ all) (several : rule.pattern.takesOne = false)
    (notName : rule ≠ name) (matched : rule.pattern.extent? text = some length) :
    first? text = some (rule, length) := by
  by_cases isBlock : rule = blockComment
  · subst isBlock
    exact first?_of_blockComment matched
  by_cases assigns : rule = complexAssign
  · subst assigns
    exact first?_of_complexAssign matched
  by_cases runs : ∃ characters, rule.pattern = .run characters
  · -- The class settles which of the runs it is.
    rcases runs with ⟨characters, isRun⟩
    have isBlank : ∀ rule ∈ all, rule.pattern = .run .whiteSpace → rule = blank := by decide
    have isNumber : ∀ rule ∈ all, rule.pattern = .run .digit → rule = number := by decide
    have isName : ∀ rule ∈ all, rule.pattern = .run .nameCharacter → rule = name := by decide
    rcases Pattern.exists_start matched with ⟨first, rest, rfl, starts⟩
    rw [isRun] at matched starts
    cases characters with
    | whiteSpace =>
        rw [isBlank rule member isRun, first?_of_whiteSpace (by exact starts),
          Pattern.length_of_run matched]
        rfl
    | digit =>
        rw [isNumber rule member isRun, first?_of_digit (by exact starts),
          Pattern.length_of_run matched]
        rfl
    | nameCharacter => exact absurd (isName rule member isRun) notName
  · exact first?_of_named member (fun characters isRun => runs ⟨characters, isRun⟩) several
      isBlock assigns matched

/-! ## Names, and what is found in their place -/

/-- A reserved word ends where a name would end. -/
theorem eq_of_reservedWord (reserved : Pattern.reservedWord.extent? text = some length)
    (named : name.pattern.extent? text = some extent) : extent = length := by
  rcases Option.map_eq_some_iff.1 reserved with ⟨kind, found, rfl⟩
  have isReserved : kind ∈ Kind.reserved := List.mem_of_find?_eq_some found
  have starts := List.find?_some found
  rw [Pattern.startsWithWord, Bool.and_eq_true, List.isPrefixOf_iff_prefix] at starts
  rcases starts with ⟨⟨tail, rfl⟩, ends⟩
  rw [List.drop_left] at ends
  have inWord : ∀ character ∈ kind.name.toList,
      CharacterClass.nameCharacter.holds character = true :=
    continuesName_of_mem_reserved isReserved
  -- No name character follows, because it would be a word character.
  have behind : tail.takeWhile CharacterClass.nameCharacter.holds = [] := by
    cases tail with
    | nil => rfl
    | cons next others =>
        apply List.takeWhile_cons_of_neg
        intro continues
        have isWord := isWordCharacter_of_continuesName continues
        simp [Pattern.endsWord, isWord] at ends
  rw [Pattern.length_of_run named, List.takeWhile_append_of_pos inWord, behind, List.append_nil]

/-- Where a name matches, the rule found takes all of it, or it takes the digits in front. -/
theorem eq_or_number_of_name (found : first? text = some (rule, length))
    (named : name.pattern.extent? text = some extent) : extent = length ∨ rule = number := by
  rcases Pattern.exists_start named with ⟨first, rest, rfl, starts⟩
  rcases continuesName_iff.1 starts with startsName | digit
  · left
    cases reserved : Pattern.reservedWord.extent? (first :: rest) with
    | none =>
        have unreserved : Pattern.reservedAt? (first :: rest) = none :=
          Option.map_eq_none_iff.1 reserved
        rw [first?_of_startsName startsName unreserved] at found
        cases found
        exact Pattern.length_of_run named
    | some size =>
        have word : (⟨.reservedWord, .classify⟩ : Rule) ∈ all := by decide
        cases found.symm.trans (first?_of_extent? word rfl (by decide) reserved)
        exact eq_of_reservedWord reserved named
  · right
    rw [first?_of_digit digit] at found
    cases found
    rfl

/-- A name goes on behind the digits in front where they are followed by what starts a name. -/
theorem lt_name_iff (digits : number.pattern.extent? text = some length)
    (named : name.pattern.extent? text = some extent) :
    length < extent ↔
      ∃ next, (text.drop length).head? = some next ∧ Tree.startsName next = true := by
  have inName : ∀ character ∈ text.takeWhile Char.isDigit,
      CharacterClass.nameCharacter.holds character = true :=
    fun character member =>
      continuesName_iff.2 (.inr (List.all_eq_true.1 List.all_takeWhile character member))
  have whole : text.takeWhile Char.isDigit ++ text.dropWhile Char.isDigit = text :=
    List.takeWhile_append_dropWhile
  have extent_eq : extent = (text.takeWhile Char.isDigit).length +
      ((text.dropWhile Char.isDigit).takeWhile CharacterClass.nameCharacter.holds).length := by
    rw [Pattern.length_of_run named, ← List.length_append,
      ← List.takeWhile_append_of_pos inName, whole]
  have length_eq : length = (text.takeWhile Char.isDigit).length := Pattern.length_of_run digits
  have stops := List.head?_dropWhile_not Char.isDigit text
  rw [extent_eq, length_eq, drop_length_takeWhile]
  cases behind : text.dropWhile Char.isDigit with
  | nil => simp
  | cons next others =>
      have notDigit : next.isDigit = false := by simpa [behind] using stops
      by_cases continues : CharacterClass.nameCharacter.holds next = true
      · have startsName := (continuesName_iff.1 continues).resolve_right (by simp [notDigit])
        simp [continues, startsName]
      · have startsNone : ¬Tree.startsName next = true :=
          fun starts => continues (continuesName_iff.2 (.inl starts))
        simp [continues, startsNone]

end Rule

/-- Of two parts at the head of a text, the one with more characters has more bytes. -/
theorem Text.byteLength_take_lt_iff {text : List Char} {fewer more : Nat}
    (fewerWithin : fewer ≤ text.length) (moreWithin : more ≤ text.length) :
    byteLength (text.take fewer) < byteLength (text.take more) ↔ fewer < more := by
  induction text generalizing fewer more with
  | nil =>
      simp only [List.length_nil, Nat.le_zero] at fewerWithin moreWithin
      simp [fewerWithin, moreWithin]
  | cons first rest inductionHypothesis =>
      have positive := first.utf8Size_pos
      simp only [List.length_cons] at fewerWithin moreWithin
      cases fewer with
      | zero =>
          cases more with
          | zero => simp
          | succ more => simp [positive]
      | succ fewer =>
          cases more with
          | zero => simp
          | succ more =>
              have ofRest := inductionHypothesis (Nat.le_of_succ_le_succ fewerWithin)
                (Nat.le_of_succ_le_succ moreWithin)
              simpa using ofRest

/--
The first rule that matches is one that takes the most bytes, with one exception: the
rule of numbers takes only the digits of a text that the rule of names would take on, and
it would do so exactly where a letter or an underscore follows the digits.
-/
theorem first_match_longest {text : List Char} {rule other : Rule} {length extent : Nat}
    (found : Rule.first? text = some (rule, length)) (member : other ∈ Rule.all)
    (matched : other.pattern.extent? text = some extent) :
    Text.byteLength (text.take length) < Text.byteLength (text.take extent) ↔
      rule = .number ∧ other = .name ∧
        ∃ next, (text.drop length).head? = some next ∧ Tree.startsName next = true := by
  rw [Text.byteLength_take_lt_iff (Rule.le_length_of_first? found)
    (Pattern.le_length_of_extent? matched)]
  constructor
  · intro longer
    by_cases isName : other = .name
    · subst isName
      rcases Rule.eq_or_number_of_name found matched with same | rfl
      · omega
      · exact ⟨rfl, rfl, (Rule.lt_name_iff (Rule.extent?_of_first? found) matched).1 longer⟩
    · cases single : other.pattern.takesOne with
      | true =>
          have one := Pattern.eq_one_of_takesOne single matched
          have positive := Rule.pos_of_first? found
          omega
      | false =>
          cases found.symm.trans (Rule.first?_of_extent? member single isName matched)
          omega
  · rintro ⟨rfl, rfl, goesOn⟩
    exact (Rule.lt_name_iff (Rule.extent?_of_first? found) matched).2 goesOn

/--
Digits glued to letters are the exception, and a compound operator glued to another
one is not.
-/
theorem glued_digits_longer_as_name :
    (Rule.first? "12ab+".toList = some (.number, 2) ∧
      Text.byteLength ("12ab+".toList.take 2) < Text.byteLength ("12ab+".toList.take 4)) ∧
    (Rule.first? "/=/*".toList = some (.complexAssign, 2) ∧
      ¬Text.byteLength ("/=/*".toList.take 2) < Text.byteLength ("/=/*".toList.take 1)) := by
  have digits : Rule.first? "12ab+".toList = some (.number, 2) := by decide +kernel
  have assigns : Rule.first? "/=/*".toList = some (.complexAssign, 2) := by decide +kernel
  refine ⟨⟨digits, ?_⟩, assigns, ?_⟩
  · exact (first_match_longest digits (by decide : .name ∈ Rule.all) (by decide +kernel)).2
      ⟨rfl, rfl, 'a', rfl, by decide⟩
  · have member : ⟨.oneOf ['*', '/'], .emit .multiplicativeOperator⟩ ∈ Rule.all := by decide
    intro longer
    have exception := (first_match_longest assigns member (by decide +kernel)).1 longer
    exact absurd exception.1 (by decide)

end Script
