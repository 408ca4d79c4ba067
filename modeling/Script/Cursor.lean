import Script.Lexer

/-!
# Cursors

A cursor is a byte offset into a named source that may be moved freely, also
into the middle of a character or past the end.  Asked for text at such a place
it answers that it is misplaced; on a character boundary it lexes as a lexer
does.
-/

namespace Script

/-- An unchecked byte offset into a named source. -/
structure Cursor where
  file : String
  source : List Char
  offset : Nat
  deriving DecidableEq, Repr

/-- A cursor that stands inside a character or past the end of its source. -/
inductive Misplaced where
  | misplaced
  deriving DecidableEq, Repr

namespace Cursor

/-- A cursor at the start of a source. -/
def start (source : String) (file : Option String) : Cursor where
  file := file.getD unnamedSource
  source := source.toList
  offset := 0

/-- The cursor a number of bytes further on, wherever that may be. -/
def advance (cursor : Cursor) (count : Nat) : Cursor :=
  { cursor with offset := cursor.offset + count }

/-- The position of a cursor. -/
def position (cursor : Cursor) : Position :=
  ⟨cursor.offset.toUInt32, cursor.file⟩

/-- The span of the next bytes. -/
def span (cursor : Cursor) (length : Nat) : Span where
  start := cursor.offset.toUInt32
  stop := (cursor.offset + length).toUInt32
  file := cursor.file

/-- Whether no byte is left. -/
def atEnd (cursor : Cursor) : Bool :=
  Text.byteLength cursor.source ≤ cursor.offset

/-- The text that is left. -/
def remainder (cursor : Cursor) : Except Misplaced (List Char) :=
  match Text.dropBytes? cursor.offset cursor.source with
  | some rest => .ok rest
  | none => .error .misplaced

/-- The next character, if there is one. -/
def character (cursor : Cursor) : Except Misplaced (Option Char) :=
  cursor.remainder.map List.head?

/-- The lexer at the same place. -/
def toLexer? (cursor : Cursor) : Option Lexer :=
  match cut : Text.dropBytes? cursor.offset cursor.source with
  | none => none
  | some rest =>
      some
        { file := cursor.file
          source := cursor.source
          offset := cursor.offset
          rest := rest
          splits := Text.append_of_dropBytes? cut }

/-- The cursor at the place of a lexer. -/
def ofLexer (lexer : Lexer) : Cursor :=
  ⟨lexer.file, lexer.source, lexer.offset⟩

/-- What a cursor gives when it is asked for a token. -/
inductive Pull where
  | token (token : Token)
  | finished
  | rejected (diagnostic : Diagnostic)
  deriving DecidableEq, Repr

/--
The next token and the cursor after it.  Past the end there is none; inside a
character the cursor is misplaced.
-/
def next (cursor : Cursor) : Except Misplaced (Pull × Cursor) :=
  if cursor.atEnd then
    .ok (.finished, cursor)
  else
    match cursor.toLexer? with
    | none => .error .misplaced
    | some lexer =>
        match lexer.next with
        | .token token next _ => .ok (.token token, ofLexer next)
        | .finished next _ => .ok (.finished, ofLexer next)
        | .rejected diagnostic next _ => .ok (.rejected diagnostic, ofLexer next)

end Cursor

end Script
