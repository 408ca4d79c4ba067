/-!
# Text measured in bytes

Places in a text are byte offsets into its UTF-8 form, while the text itself is
a list of characters.  This file measures text in bytes and cuts it at a byte
offset.  A cut inside a character, or past the end, has no result.
-/

namespace Script.Text

/-- The length of the UTF-8 form of a text. -/
def byteLength : List Char → Nat
  | [] => 0
  | character :: rest => character.utf8Size + byteLength rest

/--
The text from a byte offset on, or `none` where the offset falls inside a
character or past the end.
-/
def dropBytes? : Nat → List Char → Option (List Char)
  | 0, text => some text
  | _ + 1, [] => none
  | offset + 1, character :: rest =>
      if character.utf8Size ≤ offset + 1 then
        dropBytes? (offset + 1 - character.utf8Size) rest
      else
        none

/--
How many characters stand before a byte offset, or `none` where the offset
falls inside a character or past the end.
-/
def charactersBefore? : Nat → List Char → Option Nat
  | 0, _ => some 0
  | _ + 1, [] => none
  | offset + 1, character :: rest =>
      if character.utf8Size ≤ offset + 1 then
        (charactersBefore? (offset + 1 - character.utf8Size) rest).map (· + 1)
      else
        none

@[simp]
theorem byteLength_nil : byteLength [] = 0 :=
  rfl

@[simp]
theorem byteLength_cons (character : Char) (rest : List Char) :
    byteLength (character :: rest) = character.utf8Size + byteLength rest :=
  rfl

/-- Lengths in bytes add up along a concatenation. -/
@[simp]
theorem byteLength_append (front back : List Char) :
    byteLength (front ++ back) = byteLength front + byteLength back := by
  induction front with
  | nil => simp
  | cons character rest inductionHypothesis =>
      simp [inductionHypothesis, Nat.add_assoc]

/-- Cutting a text at the length of its front leaves its back. -/
theorem dropBytes?_append (front back : List Char) :
    dropBytes? (byteLength front) (front ++ back) = some back := by
  induction front with
  | nil => cases back <;> rfl
  | cons character rest inductionHypothesis =>
      have positive : 0 < character.utf8Size := character.utf8Size_pos
      obtain ⟨offset, equation⟩ :
          ∃ offset, byteLength (character :: rest) = offset + 1 :=
        ⟨byteLength (character :: rest) - 1, by simp; omega⟩
      have remaining : offset + 1 - character.utf8Size = byteLength rest := by
        simp at equation
        omega
      have fits : character.utf8Size ≤ offset + 1 := by
        simp at equation
        omega
      rw [equation, List.cons_append, dropBytes?, if_pos fits, remaining]
      exact inductionHypothesis

/-- A cut that has a result splits the text at that many bytes. -/
theorem append_of_dropBytes? {offset : Nat} {text back : List Char}
    (cut : dropBytes? offset text = some back) :
    ∃ front, text = front ++ back ∧ byteLength front = offset := by
  fun_induction dropBytes? offset text with
  | case1 text => exact ⟨[], by simp_all⟩
  | case2 => simp at cut
  | case3 offset character rest fits inductionHypothesis =>
      obtain ⟨front, equation, length⟩ := inductionHypothesis cut
      exact ⟨character :: front, by simp [equation], by simp; omega⟩
  | case4 => simp at cut

end Script.Text
