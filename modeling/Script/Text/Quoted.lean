import Script.Text.GraphemeExtend
import Script.Text.Unprintable

/-!
# Quoted text

Messages show a piece of source between double quotes.  Quotes, backslashes and
the usual controls have short escapes; a character that would leave no mark of
its own, or that would join the quote before it, is shown by its code point.
-/

namespace Script.Text

/-- The code point of a character in lower-case hexadecimal digits, unpadded. -/
def codePointEscape (character : Char) : List Char :=
  "\\u\x7b".toList ++ Nat.toDigits 16 character.toNat ++ ['\x7d']

/-- One character as it stands between quotes. -/
def quotedCharacter (character : Char) : List Char :=
  match character with
  | '\x00' => ['\\', '0']
  | '\t' => ['\\', 't']
  | '\r' => ['\\', 'r']
  | '\n' => ['\\', 'n']
  | '"' => ['\\', '"']
  | '\\' => ['\\', '\\']
  | _ =>
      if isGraphemeExtend character || isUnprintable character then
        codePointEscape character
      else
        [character]

/-- A text between double quotes, with escapes. -/
def quoted (text : String) : String :=
  String.ofList (['"'] ++ text.toList.flatMap quotedCharacter ++ ['"'])

end Script.Text
