import Script.Proofs.LiteralOrder
import Script.Proofs.TreeShape

/-!
# Strings and symbols of a program

A string is quoted, so that its text shows where it ends.  Names, operators and the
heads of lists are symbols.  Each symbol of an accepted program is a word: it has no
space, parenthesis or quote in it, does not start like a number and is no truth value.
Nothing keeps it from being `nil`, which is a name like any other.
-/

namespace Script

namespace SExpr

/-! ## Strings -/

/-- A character as it stands in a quoted string. -/
def quotedCharacter (character : Char) : List Char :=
  if character = '"' || character = '\\' then ['\\', character] else [character]

theorem quote_toList (value : String) :
    (quote value).toList = '"' :: value.toList.flatMap quotedCharacter ++ ['"'] :=
  String.toList_ofList

/-- Only a character that is escaped starts with a backslash, and none starts with a quote. -/
theorem quotedCharacter_cases (character : Char) :
    quotedCharacter character = ['\\', character] ∨
      quotedCharacter character = [character] ∧ character ≠ '"' ∧ character ≠ '\\' := by
  unfold quotedCharacter
  split <;> simp_all

/-- What is quoted can be told from what follows the closing quote. -/
theorem eq_of_quotedCharacters {characters others after otherAfter : List Char}
    (same : characters.flatMap quotedCharacter ++ '"' :: after =
      others.flatMap quotedCharacter ++ '"' :: otherAfter) :
    characters = others ∧ after = otherAfter := by
  induction characters generalizing others with
  | nil =>
      cases others with
      | nil => simpa using same
      | cons other others =>
          rcases quotedCharacter_cases other with escaped | ⟨plain, noQuote, _⟩
          · simp [escaped] at same
          · simp [plain, noQuote.symm] at same
  | cons character characters inductionHypothesis =>
      cases others with
      | nil =>
          rcases quotedCharacter_cases character with escaped | ⟨plain, noQuote, _⟩
          · simp [escaped] at same
          · simp [plain, noQuote] at same
      | cons other others =>
          have heads : character = other ∧
              characters.flatMap quotedCharacter ++ '"' :: after =
                others.flatMap quotedCharacter ++ '"' :: otherAfter := by
            rcases quotedCharacter_cases character with escaped | ⟨plain, _, noBackslash⟩ <;>
              rcases quotedCharacter_cases other with
                otherEscaped | ⟨otherPlain, _, otherNoBackslash⟩
            · simpa [escaped, otherEscaped] using same
            · simp [escaped, otherPlain, otherNoBackslash.symm] at same
            · simp [plain, otherEscaped, noBackslash] at same
            · simpa [plain, otherPlain] using same
          rcases inductionHypothesis heads.2 with ⟨sameOthers, sameAfter⟩
          exact ⟨congrArg₂ List.cons heads.1 sameOthers, sameAfter⟩

/-- A quoted string can be told from what follows it. -/
theorem eq_of_quote {value other : String} {after otherAfter : List Char}
    (same : (quote value).toList ++ after = (quote other).toList ++ otherAfter) :
    value = other ∧ after = otherAfter := by
  have inside : value.toList.flatMap quotedCharacter ++ '"' :: after =
      other.toList.flatMap quotedCharacter ++ '"' :: otherAfter := by
    simpa [quote_toList] using same
  rcases eq_of_quotedCharacters inside with ⟨sameCharacters, sameAfter⟩
  exact ⟨String.toList_injective sameCharacters, sameAfter⟩

/-! ## Words -/

/-- The characters that stand around and between words. -/
def isDelimiter (character : Char) : Bool :=
  character = ' ' || character = '(' || character = ')' || character = '"'

/-- Whether a text is a word that is neither a number nor a truth value. -/
def isWord (name : String) : Bool :=
  name.toList.head?.any (fun first => !first.isDigit) &&
    name.toList.all (fun character => !isDelimiter character) &&
      name ≠ "true" && name ≠ "false"

mutual

/-- The symbols of a list expression, from left to right. -/
@[simp]
def symbols : SExpr → List String
  | .symbol name => [name]
  | .list items => symbolsOf items
  | .number _ | .string _ | .boolean _ | .nil => []

/-- The symbols of several list expressions. -/
@[simp]
def symbolsOf : List SExpr → List String
  | [] => []
  | item :: others => symbols item ++ symbolsOf others

end

/-- Whether all symbols of a list expression are words. -/
def isWorded (expression : SExpr) : Bool :=
  expression.symbols.all isWord

theorem isWorded_list (items : List SExpr) :
    (list items).isWorded = items.all isWorded := by
  rw [isWorded, symbols]
  induction items with
  | nil => rfl
  | cons item others inductionHypothesis =>
      rw [symbolsOf, List.all_append, inductionHypothesis, List.all_cons, isWorded]

@[simp]
theorem isWorded_symbol (name : String) : (symbol name).isWorded = isWord name := by
  simp [isWorded]

theorem isDelimiter_of_continuesName {character : Char}
    (continues : Tree.continuesName character = true) : isDelimiter character = false := by
  rw [Bool.eq_false_iff]
  intro delimits
  simp only [isDelimiter, Bool.or_eq_true, decide_eq_true_eq] at delimits
  rcases delimits with ((rfl | rfl) | rfl) | rfl <;> exact absurd continues (by decide)

/-- A name is a word. -/
theorem isWord_of_isName {name : String} (isName : Tree.isName name = true) :
    isWord name = true := by
  unfold Tree.isName at isName
  split at isName
  · cases isName
  next first others whole =>
    simp only [Bool.and_eq_true, List.all_eq_true, Option.isNone_iff_eq_none] at isName
    rcases isName with ⟨⟨starts, continues⟩, unreserved⟩
    have noDigit : first.isDigit = false := isDigit_of_startsName starts
    have noDelimiter : ∀ character ∈ first :: others, isDelimiter character = false :=
      List.forall_mem_cons.2
        ⟨isDelimiter_of_continuesName (by simp_all [Tree.startsName, Tree.continuesName,
            Char.isAlphanum]),
          fun character member => isDelimiter_of_continuesName (continues character member)⟩
    have noTruth : name ≠ "true" ∧ name ≠ "false" := by
      constructor <;> rintro rfl <;> exact absurd unreserved (by decide)
    simp_all [isWord]

/-- No word starts with a quote. -/
theorem ne_quote_of_isWord {name : String} (word : isWord name = true) (value : String) :
    name ≠ quote value := by
  rintro rfl
  simp [isWord, quote_toList, isDelimiter] at word

end SExpr

/-! ## Programs have words only -/

/-- A part of a node that passes its check passes its own. -/
theorem Tree.Checked.part {node part : Tree} {role : Role} {slot : Slot}
    (checked : node.Checked role) (isPart : (slot, part) ∈ node.parts) :
    ∃ role, part.Checked role :=
  (Slot.checked (List.all_eq_true.1 checked.ofParts _ isPart)).2

/-- The operators are words. -/
theorem isWord_of_mem_operators {operator : String}
    (operates : operator ∈ Tree.assignmentOperators ∨ operator ∈ Tree.logicalOperators ∨
      operator ∈ Tree.binaryOperators ∨ operator ∈ Tree.unaryOperators) :
    SExpr.isWord operator = true := by
  have settled : ∀ operator ∈ Tree.assignmentOperators ++ Tree.logicalOperators ++
      Tree.binaryOperators ++ Tree.unaryOperators, SExpr.isWord operator = true := by
    decide
  exact settled operator (by simpa [or_assoc] using operates)

/-- The heads of lists are words. -/
theorem isWord_heads :
    SExpr.isWord "begin" = true ∧ SExpr.isWord "var" = true ∧ SExpr.isWord "if" = true ∧
      SExpr.isWord "while" = true ∧ SExpr.isWord "do-while" = true ∧ SExpr.isWord "for" = true ∧
      SExpr.isWord "def" = true ∧ SExpr.isWord "return" = true ∧ SExpr.isWord "index" = true ∧
      SExpr.isWord "prop" = true := by
  decide

mutual

/-- The symbols of a checked tree are words. -/
theorem isWorded_listForm : ∀ {tree : Tree} {role : Role}, tree.Checked role →
    tree.listForm.isWorded = true
  | .program body, _, checked | .block body, _, checked => by
      have ofBody := isWorded_listForms body fun node member =>
        checked.part (List.mem_map_of_mem member)
      simpa [Tree.listForm, SExpr.isWorded_list, isWord_heads] using ofBody
  | .empty, _, _ | .number _, _, _ | .string _, _, _ | .boolean _, _, _ | .null, _, _ => rfl
  | .expression inner, _, checked => by
      rcases checked.part (show (.expression, inner) ∈ _ from .head _) with ⟨_, ofInner⟩
      rw [Tree.listForm]
      exact isWorded_listForm ofInner
  | .declarations items, _, checked => by
      have ofItems := isWorded_listForms items fun node member =>
        checked.part (List.mem_map_of_mem member)
      rcases items with _ | ⟨first, _ | ⟨second, others⟩⟩
      · exact absurd rfl checked.proper
      · exact ofItems _ (.head _)
      · simpa [listForm_several, SExpr.isWorded_list, isWord_heads] using ofItems
  | .declaration id init, _, checked => by
      rcases checked.part (.head _) with ⟨_, ofId⟩
      have ofInit := isWorded_listFormOrNil init fun node member =>
        checked.part (.tail _ (List.mem_map_of_mem member))
      simp [Tree.listForm, SExpr.isWorded_list, isWord_heads, isWorded_listForm ofId, ofInit]
  | .conditional test consequent alternate, _, checked => by
      rcases checked.part (.head _) with ⟨_, ofTest⟩
      rcases checked.part (.tail _ (.head _)) with ⟨_, ofConsequent⟩
      have ofAlternate := isWorded_listFormOrNil alternate fun node member =>
        checked.part (.tail _ (.tail _ (List.mem_map_of_mem member)))
      simp [Tree.listForm, SExpr.isWorded_list, isWord_heads, isWorded_listForm ofTest,
        isWorded_listForm ofConsequent, ofAlternate]
  | .whileLoop first second, _, checked | .doWhileLoop first second, _, checked
  | .member true first second, _, checked | .member false first second, _, checked => by
      rcases checked.part (.head _) with ⟨_, ofFirst⟩
      rcases checked.part (.tail _ (.head _)) with ⟨_, ofSecond⟩
      simp [Tree.listForm, SExpr.isWorded_list, isWord_heads, isWorded_listForm ofFirst,
        isWorded_listForm ofSecond]
  | .assignment operator left right, _, checked | .logical operator left right, _, checked
  | .binary operator left right, _, checked => by
      have proper := checked.proper
      simp only [Tree.Proper] at proper
      have isWord : SExpr.isWord operator = true := isWord_of_mem_operators (by simp [proper])
      rcases checked.part (.head _) with ⟨_, ofLeft⟩
      rcases checked.part (.tail _ (.head _)) with ⟨_, ofRight⟩
      simp [Tree.listForm, SExpr.isWorded_list, isWord, isWorded_listForm ofLeft,
        isWorded_listForm ofRight]
  | .forLoop init test update body, _, checked => by
      have ofInit := isWorded_listFormOrNil init fun node member =>
        checked.part (show (.loopStart, node) ∈ _ by simp_all [Tree.parts])
      have ofTest := isWorded_listFormOrNil test fun node member =>
        checked.part (show (.expression, node) ∈ _ by simp_all [Tree.parts])
      have ofUpdate := isWorded_listFormOrNil update fun node member =>
        checked.part (show (.expression, node) ∈ _ by simp_all [Tree.parts])
      rcases checked.part (show (.statement, body) ∈ _ by simp [Tree.parts]) with
        ⟨_, ofBody⟩
      simp [Tree.listForm, SExpr.isWorded_list, isWord_heads, ofInit, ofTest, ofUpdate,
        isWorded_listForm ofBody]
  | .function name params body, _, checked => by
      rcases checked.part (.head _) with ⟨_, ofName⟩
      have ofParams := isWorded_listForms params fun node member =>
        checked.part (show (.name, node) ∈ _ by simp_all [Tree.parts])
      rcases checked.part (show (.functionBody, body) ∈ _ by simp [Tree.parts]) with
        ⟨_, ofBody⟩
      simpa [Tree.listForm, SExpr.isWorded_list, isWord_heads, isWorded_listForm ofName,
        isWorded_listForm ofBody] using ofParams
  | .returning argument, _, checked => by
      have ofArgument := isWorded_listFormOrNil argument fun node member =>
        checked.part (List.mem_map_of_mem member)
      simp [Tree.listForm, SExpr.isWorded_list, isWord_heads, ofArgument]
  | .unary operator argument, _, checked => by
      have isWord : SExpr.isWord operator = true :=
        isWord_of_mem_operators (.inr (.inr (.inr checked.proper)))
      rcases checked.part (.head _) with ⟨_, ofArgument⟩
      simp [Tree.listForm, SExpr.isWorded_list, isWord, isWorded_listForm ofArgument]
  | .identifier name, _, checked => by
      rw [Tree.listForm, SExpr.isWorded_symbol]
      exact SExpr.isWord_of_isName checked.proper

theorem isWorded_listForms : ∀ trees : List Tree,
    (∀ node ∈ trees, ∃ role, node.Checked role) →
      ∀ item ∈ Tree.listForms trees, item.isWorded = true
  | [], _ => by simp [Tree.listForms]
  | node :: others, checked => by
      rw [List.forall_mem_cons] at checked
      rcases checked with ⟨⟨_, ofNode⟩, ofOthers⟩
      rw [Tree.listForms, List.forall_mem_cons]
      exact ⟨isWorded_listForm ofNode, isWorded_listForms others ofOthers⟩

theorem isWorded_listFormOrNil : ∀ part : Option Tree,
    (∀ node ∈ part.toList, ∃ role, node.Checked role) →
      (Tree.listFormOrNil part).isWorded = true
  | none, _ => rfl
  | some node, checked => by
      rcases checked node (by simp) with ⟨_, ofNode⟩
      exact isWorded_listForm ofNode

end

/-- A program that is read has words for symbols. -/
theorem isWorded_of_parse {source : String} {file : Option String} {tree : Tree}
    (accepts : Parser.parse source file = .ok tree) : tree.listForm.isWorded = true := by
  have fits := Parser.isProgram_of_parse accepts
  cases tree with
  | program body =>
      refine isWorded_listForm ⟨rfl, trivial, ?_⟩
      simpa [Tree.parts, Slot.checks, Tree.isProgram, areStatements_eq_all, Function.comp_def]
        using fits
  | _ => simp [Tree.isProgram] at fits

end Script
