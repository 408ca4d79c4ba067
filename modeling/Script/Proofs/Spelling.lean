import Mathlib.Tactic.IntervalCases
import Script.Proofs.Scan
import Script.Tree.Shape

/-!
# How tokens are spelled

The text of a token fits its kind: a number is a run of digits, a name starts with
no digit, a string stands between two marks of one sort, and every other kind has
a short list of texts.  This file says so of every token that a lexer gives.

The first character of a text settles most rules, since each pattern asks for a
character of its own at the head.
-/

namespace Script

/-! ## Texts of kinds -/

namespace Kind

/-- The texts of a kind that has only a few of them. -/
def texts : Kind → List String
  | .equalityOperator => ["==", "!="]
  | .simpleAssign => ["="]
  | .complexAssign => ["*=", "/=", "+=", "-="]
  | .additiveOperator => ["+", "-"]
  | .multiplicativeOperator => ["*", "/"]
  | .relationalOperator => [">", "<", ">=", "<="]
  | .logicalAnd => ["&&"]
  | .logicalOr => ["||"]
  | .logicalNot => ["!"]
  | kind => [kind.name]

/-- Whether a text can be the text of a token of a kind. -/
def Spells (kind : Kind) (text : List Char) : Prop :=
  match kind with
  | .number => text ≠ [] ∧ ∀ character ∈ text, character.isDigit = true
  | .identifier =>
      ∃ first others, text = first :: others ∧ Tree.startsName first = true ∧
        ∀ character ∈ others, Tree.continuesName character = true
  | .string =>
      ∃ mark inner, mark ∈ ['"', '\x27'] ∧ text = mark :: inner ++ [mark] ∧ mark ∉ inner
  | kind => String.ofList text ∈ kind.texts

/-- Whether a kind has only a few texts. -/
def isShort (kind : Kind) : Bool :=
  kind ∉ [.number, .string, .identifier]

theorem spells_iff_of_isShort {kind : Kind} (short : kind.isShort = true) (text : List Char) :
    kind.Spells text ↔ String.ofList text ∈ kind.texts := by
  cases kind <;> first | exact Iff.rfl | simp [isShort] at short

end Kind

/-! ## What a pattern takes -/

namespace Pattern

/-- Whether a pattern can match a text that starts with a character. -/
def mayStart : Pattern → Char → Bool
  | .run characters, first => characters.holds first
  | .lineComment, first => first = '/'
  | .blockComment, first => first = '/'
  | .oneOf heads, first => first ∈ heads
  | .pair heads _, first => first ∈ heads
  | .oneOrPair heads _, first => first ∈ heads
  | .reservedWord, first =>
      Kind.reserved.any fun kind => kind.name.toList.head? = some first
  | .quoted mark, first => first = mark

/-- A reserved word starts with its first character. -/
theorem head?_of_startsWithWord {word text : List Char} {first : Char}
    (starts : startsWithWord word (first :: text) = true)
    (nonempty : 0 < word.length) :
    word.head? = some first := by
  simp only [startsWithWord, Bool.and_eq_true] at starts
  rcases List.isPrefixOf_iff_prefix.1 starts.1 with ⟨rest, equation⟩
  cases word with
  | nil => simp at nonempty
  | cons head tail =>
      simp only [List.cons_append, List.cons.injEq] at equation
      simp [equation.1]

/-- A pattern refuses a text that starts with the wrong character. -/
theorem extent?_eq_none_of_mayStart {pattern : Pattern} {first : Char}
    (refuses : pattern.mayStart first = false) (text : List Char) :
    pattern.extent? (first :: text) = none := by
  cases pattern with
  | run characters =>
      simp only [mayStart] at refuses
      simp [extent?, refuses]
  | lineComment =>
      simp only [mayStart, decide_eq_false_iff_not] at refuses
      unfold extent?
      split <;> simp_all
  | blockComment =>
      simp only [mayStart, decide_eq_false_iff_not] at refuses
      unfold extent?
      split <;> simp_all
  | oneOf heads =>
      simp only [mayStart, decide_eq_false_iff_not] at refuses
      simp [extent?, refuses]
  | pair heads second =>
      simp only [mayStart, decide_eq_false_iff_not] at refuses
      unfold extent?
      split <;> simp_all
  | oneOrPair heads second =>
      simp only [mayStart, decide_eq_false_iff_not] at refuses
      simp [extent?, refuses]
  | reservedWord =>
      simp only [mayStart, List.any_eq_false, decide_eq_true_eq] at refuses
      simp only [extent?, Option.map_eq_none_iff, reservedAt?, List.find?_eq_none]
      intro kind member starts
      exact refuses kind member
        (head?_of_startsWithWord starts (name_length_pos kind))
  | quoted mark =>
      simp only [mayStart, decide_eq_false_iff_not] at refuses
      simp [extent?, refuses]

variable {text : List Char} {length : Nat}

theorem take_of_run {characters : CharacterClass}
    (found : (run characters).extent? text = some length) :
    text.take length = text.takeWhile characters.holds ∧ text.take length ≠ [] := by
  simp only [extent?] at found
  split at found
  · simp at found
  · next shorter equation =>
      simp only [Option.some.injEq] at found
      have same : text.take length = text.takeWhile characters.holds := by
        have size : length = (text.takeWhile characters.holds).length := by omega
        rw [size]
        exact (List.prefix_iff_eq_take.1 (List.takeWhile_prefix _)).symm
      refine ⟨same, ?_⟩
      rw [same]
      intro empty
      simp [empty] at equation

/-- The texts that a pattern takes, where they have one or two fixed characters. -/
def shortTexts : Pattern → List (List Char)
  | .oneOf heads => heads.map fun first => [first]
  | .pair heads second => heads.map fun first => [first, second]
  | .oneOrPair heads second =>
      heads.map (fun first => [first]) ++ heads.map fun first => [first, second]
  | _ => []

theorem take_of_oneOf {heads : List Char}
    (found : (oneOf heads).extent? text = some length) :
    text.take length ∈ (oneOf heads).shortTexts := by
  cases text with
  | nil => simp [extent?] at found
  | cons first rest =>
      simp only [extent?, Option.ite_none_right_eq_some, Option.some.injEq] at found
      rcases found with ⟨member, rfl⟩
      simpa [shortTexts] using member

theorem take_of_pair {heads : List Char} {second : Char}
    (found : (pair heads second).extent? text = some length) :
    text.take length ∈ (pair heads second).shortTexts := by
  rcases text with _ | ⟨first, _ | ⟨next, rest⟩⟩
  · simp [extent?] at found
  · simp [extent?] at found
  · simp only [extent?, Option.ite_none_right_eq_some, Option.some.injEq] at found
    rcases found with ⟨⟨member, rfl⟩, rfl⟩
    simpa [shortTexts] using member

theorem take_of_oneOrPair {heads : List Char} {second : Char}
    (found : (oneOrPair heads second).extent? text = some length) :
    text.take length ∈ (oneOrPair heads second).shortTexts := by
  cases text with
  | nil => simp [extent?] at found
  | cons first rest =>
      simp only [extent?, Option.ite_none_right_eq_some] at found
      rcases found with ⟨member, found⟩
      split at found
      · next follows =>
          rcases List.head?_eq_some_iff.1 follows with ⟨others, rfl⟩
          cases found
          simpa [shortTexts] using member
      · cases found
        simpa [shortTexts] using member

theorem take_of_reservedWord
    (found : reservedWord.extent? text = some length) :
    ∃ kind, kind ∈ Kind.reserved ∧ text.take length = kind.name.toList := by
  simp only [extent?, Option.map_eq_some_iff] at found
  rcases found with ⟨kind, found, rfl⟩
  have starts := List.find?_some found
  simp only [startsWithWord, Bool.and_eq_true] at starts
  refine ⟨kind, List.mem_of_find?_eq_some found, ?_⟩
  exact (List.prefix_iff_eq_take.1 (List.isPrefixOf_iff_prefix.1 starts.1)).symm

/-- A text that goes on behind all it holds before a mark goes on with that mark. -/
theorem eq_takeWhile_append_mark {mark : Char} {rest : List Char}
    (within : (rest.takeWhile (· != mark)).length < rest.length) :
    ∃ after, rest = rest.takeWhile (· != mark) ++ mark :: after := by
  cases dropped : rest.dropWhile (· != mark) with
  | nil =>
      have whole := List.takeWhile_append_dropWhile (p := (· != mark)) (l := rest)
      rw [dropped, List.append_nil] at whole
      simp [whole] at within
  | cons first after =>
      have stops := List.head?_dropWhile_not (· != mark) rest
      simp only [dropped, List.head?_cons, bne_eq_false_iff_eq] at stops
      refine ⟨after, ?_⟩
      conv => lhs; rw [← List.takeWhile_append_dropWhile (p := (· != mark)) (l := rest)]
      rw [dropped, stops]

theorem not_mem_takeWhile_mark (mark : Char) (rest : List Char) :
    mark ∉ rest.takeWhile (· != mark) := by
  intro member
  have passes := List.all_eq_true.1 List.all_takeWhile mark member
  simp at passes

theorem take_of_quoted {mark : Char}
    (found : (quoted mark).extent? text = some length) :
    ∃ inner, mark ∉ inner ∧ text.take length = mark :: inner ++ [mark] := by
  cases text with
  | nil => simp [extent?] at found
  | cons first rest =>
      simp only [extent?, Option.ite_none_right_eq_some, Option.some.injEq] at found
      rcases found with ⟨⟨rfl, within⟩, rfl⟩
      refine ⟨rest.takeWhile (· != first), not_mem_takeWhile_mark first rest, ?_⟩
      rcases eq_takeWhile_append_mark within with ⟨after, whole⟩
      rw [List.take_succ_cons, List.cons_append]
      congr 1
      generalize rest.takeWhile (· != first) = inner at whole ⊢
      rw [whole, List.take_append, List.take_of_length_le (Nat.le_succ _)]
      simp

end Pattern

/-! ## What the first rule takes -/

/-- The ten digits. -/
def digitCharacters : List Char :=
  ['0', '1', '2', '3', '4', '5', '6', '7', '8', '9']

/-- The characters that a name may start with. -/
def nameStarts : List Char :=
  [ 'A', 'B', 'C', 'D', 'E', 'F', 'G', 'H', 'I', 'J', 'K', 'L', 'M', 'N', 'O', 'P', 'Q', 'R',
    'S', 'T', 'U', 'V', 'W', 'X', 'Y', 'Z', '_', 'a', 'b', 'c', 'd', 'e', 'f', 'g', 'h', 'i',
    'j', 'k', 'l', 'm', 'n', 'o', 'p', 'q', 'r', 's', 't', 'u', 'v', 'w', 'x', 'y', 'z' ]

theorem toNat_of_isDigit {character : Char} (digit : character.isDigit = true) :
    48 ≤ character.toNat ∧ character.toNat ≤ 57 := by
  rcases Bool.and_eq_true_iff.1 digit with ⟨lower, upper⟩
  exact ⟨UInt32.le_iff_toNat_le.1 (of_decide_eq_true lower),
    UInt32.le_iff_toNat_le.1 (of_decide_eq_true upper)⟩

theorem toNat_of_startsName {character : Char} (starts : Tree.startsName character = true) :
    (65 ≤ character.toNat ∧ character.toNat ≤ 90) ∨
      (97 ≤ character.toNat ∧ character.toNat ≤ 122) ∨ character = '_' := by
  rw [Tree.startsName, Bool.or_eq_true, decide_eq_true_eq] at starts
  rcases starts with letter | underscore
  · rcases Bool.or_eq_true_iff.1 letter with upper | lower
    · have bounds := of_decide_eq_true upper
      exact .inl ⟨UInt32.le_iff_toNat_le.1 bounds.1, UInt32.le_iff_toNat_le.1 bounds.2⟩
    · have bounds := Bool.and_eq_true_iff.1 lower
      exact .inr (.inl ⟨UInt32.le_iff_toNat_le.1 (of_decide_eq_true bounds.1),
        UInt32.le_iff_toNat_le.1 (of_decide_eq_true bounds.2)⟩)
  · exact .inr (.inr underscore)

/-- No name starts with a digit. -/
theorem isDigit_of_startsName {character : Char} (starts : Tree.startsName character = true) :
    character.isDigit = false := by
  rw [Bool.eq_false_iff]
  intro digit
  have bounds := toNat_of_isDigit digit
  rcases toNat_of_startsName starts with upper | lower | rfl
  · omega
  · omega
  · cases digit

/-- What continues a name but cannot start one is a digit. -/
theorem continuesName_iff {character : Char} :
    Tree.continuesName character = true ↔
      Tree.startsName character = true ∨ character.isDigit = true := by
  simp only [Tree.continuesName, Tree.startsName, Char.isAlphanum, Bool.or_eq_true]
  tauto

theorem mem_digitCharacters {character : Char} (digit : character.isDigit = true) :
    character ∈ digitCharacters := by
  have bounds := toNat_of_isDigit digit
  rw [← Char.ofNat_toNat character]
  generalize character.toNat = code at bounds ⊢
  rcases bounds with ⟨lower, upper⟩
  interval_cases code <;> decide

theorem mem_nameStarts {character : Char} (starts : Tree.startsName character = true) :
    character ∈ nameStarts := by
  rcases toNat_of_startsName starts with ⟨lower, upper⟩ | ⟨lower, upper⟩ | rfl
  · rw [← Char.ofNat_toNat character]
    generalize character.toNat = code at lower upper ⊢
    interval_cases code <;> decide
  · rw [← Char.ofNat_toNat character]
    generalize character.toNat = code at lower upper ⊢
    interval_cases code <;> decide
  · decide

namespace Rule

/-- The rule of numbers. -/
def number : Rule :=
  ⟨.run .digit, .emit .number⟩

/-- The rule of names. -/
def name : Rule :=
  ⟨.run .nameCharacter, .emit .identifier⟩

/-- A rule is found where it matches and the rules before it do not. -/
theorem first?_eq {before after : List Rule} {rule : Rule} {text : List Char} {length : Nat}
    (order : all = before ++ rule :: after)
    (refused : ∀ earlier ∈ before, earlier.pattern.extent? text = none)
    (found : rule.pattern.extent? text = some length) :
    first? text = some (rule, length) := by
  have skipped : (before.findSome? fun earlier =>
      (earlier.pattern.extent? text).map fun length => (earlier, length)) = none := by
    rw [List.findSome?_eq_none_iff]
    intro earlier member
    simp [refused earlier member]
  rw [first?, order, List.findSome?_append, skipped]
  simp [found]

/-- Whether none of some rules matches a text that starts with one of some characters. -/
def noneStarts (rules : List Rule) (heads : List Char) : Bool :=
  rules.all fun rule => heads.all fun first => !rule.pattern.mayStart first

theorem extent?_of_noneStarts {rules : List Rule} {heads : List Char}
    (noneStart : noneStarts rules heads = true) {rule : Rule} (member : rule ∈ rules)
    {first : Char} (isHead : first ∈ heads) (rest : List Char) :
    rule.pattern.extent? (first :: rest) = none := by
  apply Pattern.extent?_eq_none_of_mayStart
  have refuses := List.all_eq_true.1 (List.all_eq_true.1 noneStart rule member) first isHead
  simpa using refuses

/-- A run that starts takes all characters of its class. -/
theorem extent?_run {characters : CharacterClass} {first : Char}
    (holds : characters.holds first = true) (rest : List Char) :
    (Pattern.run characters).extent? (first :: rest) =
      some ((first :: rest).takeWhile characters.holds).length := by
  simp [Pattern.extent?, holds]

/-- A digit starts a number. -/
theorem first?_of_digit {first : Char} (digit : first.isDigit = true) (rest : List Char) :
    first? (first :: rest) =
      some (number, ((first :: rest).takeWhile Char.isDigit).length) := by
  have order : all = all.take 13 ++ number :: all.drop 14 := by decide
  have refused : noneStarts (all.take 13) digitCharacters = true := by decide
  refine first?_eq order ?_ (extent?_run (by exact digit) rest)
  intro earlier member
  exact extent?_of_noneStarts refused member (mem_digitCharacters digit) rest

/-- A character that starts a name starts one, unless it starts a reserved word. -/
theorem first?_of_startsName {first : Char} {rest : List Char}
    (starts : Tree.startsName first = true)
    (unreserved : Pattern.reservedAt? (first :: rest) = none) :
    first? (first :: rest) =
      some (name,
        ((first :: rest).takeWhile CharacterClass.nameCharacter.holds).length) := by
  have order : all = all.take 14 ++ name :: all.drop 15 := by decide
  have continues : CharacterClass.nameCharacter.holds first = true :=
    continuesName_iff.2 (.inl starts)
  refine first?_eq order ?_ (extent?_run continues rest)
  intro earlier member
  have refused : noneStarts ((all.take 14).filter fun rule => rule.pattern ≠ .reservedWord)
      nameStarts = true := by decide
  by_cases reserved : earlier.pattern = .reservedWord
  · simp [reserved, Pattern.extent?, unreserved]
  · have kept : earlier ∈ (all.take 14).filter fun rule => rule.pattern ≠ .reservedWord :=
      List.mem_filter.2 ⟨member, by simpa using reserved⟩
    exact extent?_of_noneStarts refused kept (mem_nameStarts starts) rest

/-- Whether a rule makes tokens of fitting kinds out of its short texts. -/
def fitsShortTexts (rule : Rule) : Bool :=
  rule.pattern.shortTexts.all fun text =>
    match rule.action with
    | .emit kind => kind.isShort && kind.texts.contains (String.ofList text)
    | _ => false

theorem all_fitsShortTexts : ∀ rule ∈ all, rule.fitsShortTexts = true := by
  decide

theorem spells_of_mem_shortTexts {rule : Rule} {text : List Char} {kind : Kind}
    (member : rule ∈ all)
    (short : text ∈ rule.pattern.shortTexts)
    (emits : rule.kind? (String.ofList text) = some kind) :
    kind.Spells text := by
  have fits := List.all_eq_true.1 (all_fitsShortTexts rule member) text short
  cases action : rule.action with
  | skip => simp [action] at fits
  | classify => simp [action] at fits
  | emit emitted =>
      simp only [kind?, action, Option.some.injEq] at emits
      subst emitted
      simp only [action, Bool.and_eq_true, List.contains_iff_mem] at fits
      exact (Kind.spells_iff_of_isShort fits.1 text).2 fits.2

/-- The first character of a name is no digit, or else the rule of numbers comes first. -/
theorem spells_of_name {text : List Char} {length : Nat}
    (found : first? text = some (name, length)) :
    Kind.identifier.Spells (text.take length) := by
  rcases Pattern.take_of_run (extent?_of_first? found) with ⟨taken, nonempty⟩
  cases text with
  | nil => simp at nonempty
  | cons first rest =>
      have continues : ∀ character ∈ (first :: rest).take length,
          Tree.continuesName character = true := by
        rw [taken]
        exact List.all_eq_true.1 List.all_takeWhile
      cases length with
      | zero => simp at nonempty
      | succ shorter =>
          refine ⟨first, rest.take shorter, rfl, ?_, ?_⟩
          · by_cases digit : first.isDigit = true
            · have numeric := first?_of_digit digit rest
              rw [numeric] at found
              simp [number, name] at found
            · exact (continuesName_iff.1 (continues first (by simp))).resolve_right digit
          · intro character member
            exact continues character (by simp [member])

theorem ofReserved?_name {kind : Kind} (member : kind ∈ Kind.reserved) :
    Kind.ofReserved? kind.name = some kind := by
  revert kind
  decide

/-- The text that a rule takes fits the kind of the token made of it. -/
theorem spells_of_first? {text : List Char} {rule : Rule} {length : Nat} {kind : Kind}
    (found : first? text = some (rule, length))
    (emits : rule.kind? (String.ofList (text.take length)) = some kind) :
    kind.Spells (text.take length) := by
  have extent := extent?_of_first? found
  have member : rule ∈ all := by
    rcases List.exists_of_findSome?_eq_some found with ⟨other, member, equation⟩
    simp only [Option.map_eq_some_iff, Prod.mk.injEq] at equation
    rcases equation with ⟨_, _, rfl, _⟩
    exact member
  rcases rule with ⟨pattern, action⟩
  cases pattern with
  | run characters =>
      simp only [all, List.mem_cons, Rule.mk.injEq, Pattern.run.injEq, reduceCtorEq,
        false_and, or_false, false_or, List.not_mem_nil] at member
      rcases member with ⟨rfl, rfl⟩ | ⟨rfl, rfl⟩ | ⟨rfl, rfl⟩
      · simp [kind?] at emits
      · cases emits
        rcases Pattern.take_of_run extent with ⟨taken, nonempty⟩
        refine ⟨nonempty, ?_⟩
        rw [taken]
        exact List.all_eq_true.1 List.all_takeWhile
      · cases emits
        exact spells_of_name found
  | lineComment =>
      simp [all] at member
      simp [member, kind?] at emits
  | blockComment =>
      simp [all] at member
      simp [member, kind?] at emits
  | oneOf heads =>
      exact spells_of_mem_shortTexts member (Pattern.take_of_oneOf extent) emits
  | pair heads second =>
      exact spells_of_mem_shortTexts member (Pattern.take_of_pair extent) emits
  | oneOrPair heads second =>
      exact spells_of_mem_shortTexts member (Pattern.take_of_oneOrPair extent) emits
  | reservedWord =>
      simp only [all, List.mem_cons, Rule.mk.injEq, reduceCtorEq, false_and, or_false,
        false_or, List.not_mem_nil, true_and] at member
      subst member
      rcases Pattern.take_of_reservedWord extent with ⟨word, reserved, taken⟩
      rw [taken] at emits ⊢
      simp only [kind?, String.ofList_toList, ofReserved?_name reserved,
        Option.getD_some, Option.some.injEq] at emits
      subst word
      have short : ∀ kind ∈ Kind.reserved,
          kind.isShort = true ∧ kind.name ∈ kind.texts := by decide
      rw [Kind.spells_iff_of_isShort (short kind reserved).1, String.ofList_toList]
      exact (short kind reserved).2
  | quoted mark =>
      simp only [all, List.mem_cons, Rule.mk.injEq, Pattern.quoted.injEq, reduceCtorEq,
        false_and, or_false, false_or, List.not_mem_nil] at member
      rcases Pattern.take_of_quoted extent with ⟨inner, absent, taken⟩
      rw [taken]
      rcases member with ⟨rfl, rfl⟩ | ⟨rfl, rfl⟩
      · cases emits
        exact ⟨'"', inner, by simp, rfl, absent⟩
      · cases emits
        exact ⟨'\x27', inner, by simp, rfl, absent⟩

end Rule

/-! ## Tokens of a lexer -/

/-- The text of a token fits its kind. -/
def Token.Spelled (token : Token) : Prop :=
  token.kind.Spells token.text.toList

namespace Lexer

/-- A token that is pulled is spelled as its kind asks. -/
theorem spelled_of_next {lexer further : Lexer} {token : Token}
    {shorter : further.rest.length < lexer.rest.length}
    (pulled : lexer.next = .token token further shorter) :
    token.Spelled := by
  rcases lexer.exists_stops with ⟨place, skips, stops⟩
  cases stops with
  | finished ended notLonger finished => simp [finished] at pulled
  | rejected first refused notLonger rejected => simp [rejected] at pulled
  | token found emits shorter' given =>
      rw [given] at pulled
      cases pulled
      simpa [Token.Spelled, tokenOf] using Rule.spells_of_first? found emits

/-- All tokens of a lexer are spelled as their kinds ask. -/
theorem spelled_of_mem_drain {lexer : Lexer} {token : Token}
    (member : token ∈ lexer.drain.tokens) :
    token.Spelled := by
  fun_induction drain lexer with
  | case1 lexer first further shorter pulled others inductionHypothesis =>
      rcases List.mem_cons.1 member with rfl | later
      · exact spelled_of_next pulled
      · exact inductionHypothesis later
  | case2 => simp at member
  | case3 => simp at member

end Lexer

end Script
