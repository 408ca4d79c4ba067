import Script.Numeral

/-!
# JSON values and their texts

A JSON value keeps the fields of an object in order.  It is written compactly on
one line, or with one element a line and two spaces for each level of depth.  The
writers put the text of a value in front of the text after it, so that each
character is written once.
-/

namespace Script

/-- A JSON value. -/
inductive Json where
  | null
  | boolean (value : Bool)
  | number (value : Numeral)
  | string (value : String)
  | array (elements : List Json)
  | object (fields : List (String × Json))
  deriving Repr

namespace Json

/-- One hexadecimal digit, in lower case. -/
def hexDigit (value : Nat) : Char :=
  Nat.digitChar (value % 16)

/-- One character as it stands in a JSON string. -/
def stringCharacter (character : Char) : List Char :=
  match character with
  | '"' => ['\\', '"']
  | '\\' => ['\\', '\\']
  | '\x08' => ['\\', 'b']
  | '\x0c' => ['\\', 'f']
  | '\n' => ['\\', 'n']
  | '\r' => ['\\', 'r']
  | '\t' => ['\\', 't']
  | _ =>
      if character.toNat < 32 then
        ['\\', 'u', '0', '0', hexDigit (character.toNat / 16), hexDigit character.toNat]
      else
        [character]

/-- A JSON string. -/
def stringText (value : String) : List Char :=
  ['"'] ++ value.toList.flatMap stringCharacter ++ ['"']

/-- The text of a truth value. -/
def booleanText (value : Bool) : List Char :=
  if value then "true".toList else "false".toList

mutual

/-- A value on one line, without spaces, and the text after it. -/
def compactThen : Json → List Char → List Char
  | .null, after => "null".toList ++ after
  | .boolean value, after => booleanText value ++ after
  | .number value, after => value.dataText.toList ++ after
  | .string value, after => stringText value ++ after
  | .array elements, after => '[' :: compactElementsThen elements (']' :: after)
  | .object fields, after => '\x7b' :: compactFieldsThen fields ('\x7d' :: after)

/-- Elements with commas between them, and the text after them. -/
def compactElementsThen : List Json → List Char → List Char
  | [], after => after
  | [last], after => compactThen last after
  | element :: next :: others, after =>
      compactThen element (',' :: compactElementsThen (next :: others) after)

/-- Fields with commas between them, and the text after them. -/
def compactFieldsThen : List (String × Json) → List Char → List Char
  | [], after => after
  | [(key, value)], after => stringText key ++ ':' :: compactThen value after
  | (key, value) :: next :: others, after =>
      stringText key
        ++ ':' :: compactThen value (',' :: compactFieldsThen (next :: others) after)

end

/-- The start of a line at a level of depth. -/
def lineStart (depth : Nat) : List Char :=
  '\n' :: List.replicate (2 * depth) ' '

mutual

/-- A value with one element a line, inside a given depth, and the text after it. -/
def prettyThen (depth : Nat) : Json → List Char → List Char
  | .null, after => "null".toList ++ after
  | .boolean value, after => booleanText value ++ after
  | .number value, after => value.dataText.toList ++ after
  | .string value, after => stringText value ++ after
  | .array [], after => '[' :: ']' :: after
  | .array (first :: others), after =>
      '[' :: prettyElementsThen (depth + 1) (first :: others) (lineStart depth ++ ']' :: after)
  | .object [], after => '\x7b' :: '\x7d' :: after
  | .object (first :: others), after =>
      '\x7b'
        :: prettyFieldsThen (depth + 1) (first :: others) (lineStart depth ++ '\x7d' :: after)

/-- Elements, each on a line of its own, and the text after them. -/
def prettyElementsThen (depth : Nat) : List Json → List Char → List Char
  | [], after => after
  | [last], after => lineStart depth ++ prettyThen depth last after
  | element :: next :: others, after =>
      lineStart depth
        ++ prettyThen depth element (',' :: prettyElementsThen depth (next :: others) after)

/-- Fields, each on a line of its own, and the text after them. -/
def prettyFieldsThen (depth : Nat) : List (String × Json) → List Char → List Char
  | [], after => after
  | [(key, value)], after =>
      lineStart depth ++ stringText key ++ ':' :: ' ' :: prettyThen depth value after
  | (key, value) :: next :: others, after =>
      lineStart depth ++ stringText key
        ++ ':' :: ' '
        :: prettyThen depth value (',' :: prettyFieldsThen depth (next :: others) after)

end

/-- A value on one line, without spaces. -/
def compact (value : Json) : String :=
  String.ofList (value.compactThen [])

/-- A value with one element a line. -/
def pretty (value : Json) : String :=
  String.ofList (value.prettyThen 0 [])

end Json

end Script
