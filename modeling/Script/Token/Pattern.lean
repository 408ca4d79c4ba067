import Script.Text.WhiteSpace
import Script.Text.WordCharacter
import Script.Token.Kind

/-!
# Lexical patterns

A pattern says how many characters it takes at the head of a text.  A pattern
that matches takes at least one character and never more than there are.
-/

namespace Script

/-- A class of characters that a run may consist of. -/
inductive CharacterClass where
  | whiteSpace
  | digit
  | nameCharacter
  deriving DecidableEq, Repr

/-- Whether a class holds a character.  Digits and names are ASCII only. -/
def CharacterClass.holds : CharacterClass → Char → Bool
  | .whiteSpace, character => Text.isWhiteSpace character
  | .digit, character => character.isDigit
  | .nameCharacter, character => character.isAlphanum || character = '_'

/-- A shape of text that a lexical rule looks for at the head of a source. -/
inductive Pattern where
  /-- One or more characters of a class. -/
  | run (characters : CharacterClass)
  /-- Two slashes and what follows on the line. -/
  | lineComment
  /-- A slash and a star, up to the first star and slash after them. -/
  | blockComment
  /-- One character out of some. -/
  | oneOf (heads : List Char)
  /-- One character out of some, and then a given one. -/
  | pair (heads : List Char) (second : Char)
  /-- One character out of some, and then a given one if it is there. -/
  | oneOrPair (heads : List Char) (second : Char)
  /-- A reserved word that ends where no word character follows. -/
  | reservedWord
  /-- A mark, and everything up to the next such mark. -/
  | quoted (mark : Char)
  deriving DecidableEq, Repr

namespace Pattern

/-- How many characters stand before and in the first star and slash. -/
def closing? : List Char → Option Nat
  | [] => none
  | [_] => none
  | first :: second :: rest =>
      if first = '*' && second = '/' then
        some 2
      else
        (closing? (second :: rest)).map (· + 1)

/-- Whether no word goes on at the head of a text. -/
def endsWord (text : List Char) : Bool :=
  match text with
  | [] => true
  | character :: _ => !Text.isWordCharacter character

/-- Whether a text starts with a word that ends there. -/
def startsWithWord (word text : List Char) : Bool :=
  word.isPrefixOf text && endsWord (text.drop word.length)

/-- The reserved word at the head of a text. -/
def reservedAt? (text : List Char) : Option Kind :=
  Kind.reserved.find? fun kind => startsWithWord kind.name.toList text

/-- How many characters a pattern takes at the head of a text. -/
def extent? : Pattern → List Char → Option Nat
  | .run characters, text =>
      match (text.takeWhile characters.holds).length with
      | 0 => none
      | length + 1 => some (length + 1)
  | .lineComment, '/' :: '/' :: rest =>
      some ((rest.takeWhile (· != '\n')).length + 2)
  | .lineComment, _ => none
  | .blockComment, '/' :: '*' :: rest =>
      (closing? rest).map (· + 2)
  | .blockComment, _ => none
  | .oneOf heads, first :: _ =>
      if first ∈ heads then some 1 else none
  | .oneOf _, [] => none
  | .pair heads second, first :: next :: _ =>
      if first ∈ heads ∧ next = second then some 2 else none
  | .pair _ _, _ => none
  | .oneOrPair heads second, first :: rest =>
      if first ∈ heads then
        if rest.head? = some second then some 2 else some 1
      else
        none
  | .oneOrPair _ _, [] => none
  | .reservedWord, text =>
      (reservedAt? text).map fun kind => kind.name.toList.length
  | .quoted mark, first :: rest =>
      let inside := (rest.takeWhile (· != mark)).length
      if first = mark ∧ inside < rest.length then some (inside + 2) else none
  | .quoted _, [] => none

/-- The closing star and slash lie within the text. -/
theorem le_length_of_closing? {text : List Char} {length : Nat}
    (found : closing? text = some length) :
    length ≤ text.length := by
  fun_induction closing? text generalizing length with
  | case1 => simp at found
  | case2 => simp at found
  | case3 first second rest closes =>
      simp at found
      simp
      omega
  | case4 first second rest open_ inductionHypothesis =>
      obtain ⟨shorter, inner, rfl⟩ := Option.map_eq_some_iff.1 found
      have bound := inductionHypothesis inner
      simp at bound ⊢
      omega

/-- The name of a reserved word is not empty. -/
theorem name_length_pos (kind : Kind) : 0 < kind.name.toList.length := by
  cases kind <;> decide

/-- A reserved word that is found lies within the text. -/
theorem name_length_le_of_reservedAt? {text : List Char} {kind : Kind}
    (found : reservedAt? text = some kind) :
    kind.name.toList.length ≤ text.length := by
  have startsWith := List.find?_some found
  simp only [startsWithWord, Bool.and_eq_true] at startsWith
  exact (List.isPrefixOf_iff_prefix.1 startsWith.1).length_le

/-- A pattern that matches takes at least one character. -/
theorem pos_of_extent? {pattern : Pattern} {text : List Char} {length : Nat}
    (found : pattern.extent? text = some length) :
    0 < length := by
  revert found
  fun_cases extent? pattern text <;> intro found <;> grind [Option.map_eq_some_iff, name_length_pos]

/-- A pattern that matches takes no more than there is. -/
theorem le_length_of_extent? {pattern : Pattern} {text : List Char} {length : Nat}
    (found : pattern.extent? text = some length) :
    length ≤ text.length := by
  have takenLength (keep : Char → Bool) (characters : List Char) :
      (characters.takeWhile keep).length ≤ characters.length :=
    (List.takeWhile_prefix keep).length_le
  revert found
  fun_cases extent? pattern text <;> intro found <;>
    grind [Option.map_eq_some_iff, List.head?_eq_some_iff, → le_length_of_closing?,
      → name_length_le_of_reservedAt?]

end Pattern

end Script
