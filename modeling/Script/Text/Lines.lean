import Script.Text.Bytes

/-!
# Lines

A source is cut after each newline, so that every line but perhaps the last
keeps its newline.  A byte offset is shown as a line number, the line and a
column counted in characters.
-/

namespace Script.Text

/-- The pieces of a text cut after each newline; the empty text has none. -/
def lines : List Char → List (List Char)
  | [] => []
  | character :: rest =>
      if character = '\n' then
        [character] :: lines rest
      else
        match lines rest with
        | [] => [[character]]
        | line :: others => (character :: line) :: others

/-- A line of a source and a column in it. -/
structure Place where
  /-- The number of the line, counted from one. -/
  number : Nat
  /-- The line, with its newline if it has one. -/
  line : List Char
  /-- How many characters of the line stand before the place. -/
  column : Nat
  deriving DecidableEq, Repr

/--
The column of a byte offset into a line.  An offset inside a character has no
character count, and its distance in bytes stands for it.
-/
def columnAt (line : List Char) (offset : Nat) : Nat :=
  (charactersBefore? offset line).getD offset

/-- The column just after the last character of a line, its newline left out. -/
def columnAtEnd (line : List Char) : Nat :=
  (line.filter (· != '\n')).length

/--
The place of a byte offset among numbered lines.  An offset at or past the end
is placed at the end of the last line.
-/
def placeAmong (number : Nat) : List (List Char) → Nat → Place
  | [], _ => ⟨1, [], 0⟩
  | line :: others, offset =>
      if offset < byteLength line then
        ⟨number, line, columnAt line offset⟩
      else
        match others with
        | [] => ⟨number, line, columnAtEnd line⟩
        | next :: further =>
            placeAmong (number + 1) (next :: further) (offset - byteLength line)

/-- The place of a byte offset in a source. -/
def place (source : List Char) (offset : Nat) : Place :=
  placeAmong 1 (lines source) offset

end Script.Text
