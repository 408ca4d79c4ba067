/-!
# Reading JSON texts

A JSON text is read into a document.  Numbers are checked and passed over, since
no one asks for their values.  A string whose escapes name half of a surrogate
pair is well formed but has no text.
-/

namespace Script.Json

/-- A JSON text, as far as its readers look into it. -/
inductive Document where
  | null
  | boolean (value : Bool)
  | number
  /-- A string; without a text where its escapes do not pair up. -/
  | string (text : Option String)
  | array (elements : List Document)
  | object (fields : List (Option String × Document))
  deriving Repr

/-- A value read from the head of a text, and the rest, which is shorter than `bound`. -/
structure Read (α : Type) (bound : Nat) where
  value : α
  rest : List Char
  shorter : rest.length < bound

/-- Whether a character may stand between the parts of a text. -/
def isBlank (character : Char) : Bool :=
  character = ' ' || character = '\t' || character = '\n' || character = '\r'

/-- A text without the blanks at its head. -/
def skipBlanks (text : List Char) : List Char :=
  text.dropWhile isBlank

/-- Skipping blanks leaves no longer text. -/
theorem length_skipBlanks_le (text : List Char) : (skipBlanks text).length ≤ text.length :=
  (List.dropWhile_suffix isBlank).length_le

/-! ## Strings -/

/-- What one character or escape of a string stands for. -/
inductive Unit16 where
  | character (character : Char)
  /-- Half of a surrogate pair. -/
  | surrogate (code : Nat)
  deriving DecidableEq, Repr

/-- The value of a hexadecimal digit. -/
def hexValue? (digit : Char) : Option Nat :=
  if digit.isDigit then
    some (digit.toNat - '0'.toNat)
  else if 'a' ≤ digit ∧ digit ≤ 'f' then
    some (digit.toNat - 'a'.toNat + 10)
  else if 'A' ≤ digit ∧ digit ≤ 'F' then
    some (digit.toNat - 'A'.toNat + 10)
  else
    none

/-- The value of four hexadecimal digits. -/
def hexCode? (first second third fourth : Char) : Option Nat := do
  let a ← hexValue? first
  let b ← hexValue? second
  let c ← hexValue? third
  let d ← hexValue? fourth
  return ((a * 16 + b) * 16 + c) * 16 + d

/-- What a code of sixteen bits stands for. -/
def ofCode (code : Nat) : Unit16 :=
  if 0xd800 ≤ code ∧ code < 0xe000 then .surrogate code else .character (Char.ofNat code)

/-- What a short escape stands for. -/
def shortEscape? : Char → Option Char
  | '"' => some '"'
  | '\\' => some '\\'
  | '/' => some '/'
  | 'b' => some '\x08'
  | 'f' => some '\x0c'
  | 'n' => some '\n'
  | 'r' => some '\r'
  | 't' => some '\t'
  | _ => none

/-- The contents of a string after its opening quote, and the text after its closing one. -/
def stringUnits? : List Char → Option (List Unit16 × List Char)
  | [] => none
  | '"' :: rest => some ([], rest)
  | '\\' :: 'u' :: first :: second :: third :: fourth :: rest => do
      let code ← hexCode? first second third fourth
      let (units, after) ← stringUnits? rest
      return (ofCode code :: units, after)
  | '\\' :: escape :: rest => do
      let character ← shortEscape? escape
      let (units, after) ← stringUnits? rest
      return (.character character :: units, after)
  | character :: rest =>
      if character.toNat < 32 then
        none
      else do
        let (units, after) ← stringUnits? rest
        return (.character character :: units, after)

/-- A closing quote is passed, so the text after a string is shorter. -/
theorem length_lt_of_stringUnits? {text after : List Char} {units : List Unit16}
    (found : stringUnits? text = some (units, after)) :
    after.length < text.length := by
  fun_induction stringUnits? text generalizing units after with
  | case1 => simp at found
  | case2 rest =>
      simp at found
      simp [found.2]
  | case3 first second third fourth rest inductionHypothesis =>
      simp [Option.bind_eq_some_iff] at found
      obtain ⟨_, _, _, inner, _⟩ := found
      have shorter := inductionHypothesis inner
      simp
      omega
  | case4 escape rest _ inductionHypothesis =>
      simp [Option.bind_eq_some_iff] at found
      obtain ⟨_, _, _, inner, _⟩ := found
      have shorter := inductionHypothesis inner
      simp
      omega
  | case5 => simp at found
  | case6 character rest _ _ _ _ inductionHypothesis =>
      simp [Option.bind_eq_some_iff] at found
      obtain ⟨_, inner, _⟩ := found
      have shorter := inductionHypothesis inner
      simp
      omega

/-- The characters of a string, where each half of a surrogate pair meets its other half. -/
def joined? : List Unit16 → Option (List Char)
  | [] => some []
  | .character character :: rest => (joined? rest).map (character :: ·)
  | .surrogate high :: .surrogate low :: rest =>
      if high < 0xdc00 ∧ 0xdc00 ≤ low then
        (joined? rest).map
          (Char.ofNat (0x10000 + (high - 0xd800) * 0x400 + (low - 0xdc00)) :: ·)
      else
        none
  | .surrogate _ :: _ => none

/-- The string after an opening quote. -/
def string? (text : List Char) : Option (Read (Option String) text.length) :=
  match found : stringUnits? text with
  | none => none
  | some (units, after) =>
      some ⟨(joined? units).map String.ofList, after, length_lt_of_stringUnits? found⟩

/-! ## Numbers -/

/-- One or more digits are passed. -/
def digits? (text : List Char) : Option (List Char) :=
  match text with
  | [] => none
  | first :: rest => if first.isDigit then some (rest.dropWhile Char.isDigit) else none

/-- A whole number is passed; it is zero or starts with another digit. -/
def whole? (text : List Char) : Option (List Char) :=
  match text with
  | '0' :: rest =>
      match rest with
      | [] => some []
      | next :: _ => if next.isDigit then none else some rest
  | _ => digits? text

/-- A point and digits are passed, where there is a point. -/
def fraction? (text : List Char) : Option (List Char) :=
  match text with
  | '.' :: rest => digits? rest
  | _ => some text

/-- An exponent is passed, where there is one. -/
def exponent? (text : List Char) : Option (List Char) :=
  match text with
  | [] => some []
  | mark :: rest =>
      if mark = 'e' ∨ mark = 'E' then
        match rest with
        | '+' :: digits => digits? digits
        | '-' :: digits => digits? digits
        | _ => digits? rest
      else
        some text

/-- A number is passed. -/
def number? (text : List Char) : Option (List Char) :=
  let unsigned :=
    match text with
    | '-' :: rest => rest
    | _ => text
  (whole? unsigned).bind fun afterWhole =>
  (fraction? afterWhole).bind exponent?

/-! ## Values -/

/-- A word that stands for a value. -/
def word? (text : List Char) : Option (Document × List Char) :=
  if "null".toList.isPrefixOf text then
    some (.null, text.drop 4)
  else if "true".toList.isPrefixOf text then
    some (.boolean true, text.drop 4)
  else if "false".toList.isPrefixOf text then
    some (.boolean false, text.drop 5)
  else
    (number? text).map fun rest => (.number, rest)

mutual

/-- A value at the head of a text. -/
def value? (text : List Char) : Option (Read Document text.length) :=
  match found : skipBlanks text with
  | '"' :: rest =>
      have notLonger := found ▸ length_skipBlanks_le text
      (string? rest).map fun read =>
        ⟨.string read.value, read.rest, by
          have shorter := read.shorter
          simp at notLonger
          omega⟩
  | '[' :: rest =>
      have notLonger := found ▸ length_skipBlanks_le text
      match closed : skipBlanks rest with
      | ']' :: after =>
          some ⟨.array [], after, by
            have shorter := closed ▸ length_skipBlanks_le rest
            simp at notLonger shorter
            omega⟩
      | _ =>
          (elements? rest).map fun read =>
            ⟨.array read.value, read.rest, by
              have shorter := read.shorter
              simp at notLonger
              omega⟩
  | '\x7b' :: rest =>
      have notLonger := found ▸ length_skipBlanks_le text
      match closed : skipBlanks rest with
      | '\x7d' :: after =>
          some ⟨.object [], after, by
            have shorter := closed ▸ length_skipBlanks_le rest
            simp at notLonger shorter
            omega⟩
      | _ =>
          (fields? rest).map fun read =>
            ⟨.object read.value, read.rest, by
              have shorter := read.shorter
              simp at notLonger
              omega⟩
  | other =>
      match word? other with
      | none => none
      | some (value, rest) =>
          if shorter : rest.length < text.length then some ⟨value, rest, shorter⟩ else none
termination_by 2 * text.length
decreasing_by all_goals (simp at notLonger; omega)

/-- The elements of an array, up to its closing bracket. -/
def elements? (text : List Char) : Option (Read (List Document) text.length) :=
  (value? text).bind fun first =>
    have shorter := first.shorter
    match found : skipBlanks first.rest with
    | ',' :: rest =>
        have notLonger := found ▸ length_skipBlanks_le first.rest
        (elements? rest).map fun others =>
          ⟨first.value :: others.value, others.rest, by
            have further := others.shorter
            simp at notLonger
            omega⟩
    | ']' :: rest =>
        have notLonger := found ▸ length_skipBlanks_le first.rest
        some ⟨[first.value], rest, by
          simp at notLonger
          omega⟩
    | _ => none
termination_by 2 * text.length + 1
decreasing_by
  · omega
  · simp at notLonger
    omega

/-- The fields of an object, up to its closing bracket. -/
def fields? (text : List Char) :
    Option (Read (List (Option String × Document)) text.length) :=
  match opened : skipBlanks text with
  | '"' :: inside =>
      have within := opened ▸ length_skipBlanks_le text
      (string? inside).bind fun key =>
        have afterKey := key.shorter
        match marked : skipBlanks key.rest with
        | ':' :: behind =>
            have afterMark := marked ▸ length_skipBlanks_le key.rest
            (value? behind).bind fun first =>
              have shorter := first.shorter
              match found : skipBlanks first.rest with
              | ',' :: rest =>
                  have notLonger := found ▸ length_skipBlanks_le first.rest
                  (fields? rest).map fun others =>
                    ⟨(key.value, first.value) :: others.value, others.rest, by
                      have further := others.shorter
                      simp at notLonger within afterMark
                      omega⟩
              | '\x7d' :: rest =>
                  have notLonger := found ▸ length_skipBlanks_le first.rest
                  some ⟨[(key.value, first.value)], rest, by
                    simp at notLonger within afterMark
                    omega⟩
              | _ => none
        | _ => none
  | _ => none
termination_by 2 * text.length + 1
decreasing_by
  · simp at within afterMark
    omega
  · simp at notLonger within afterMark
    omega

end

/-- The document that a whole text is. -/
def read? (text : String) : Option Document :=
  (value? text.toList).bind fun read =>
    if (skipBlanks read.rest).isEmpty then some read.value else none

end Script.Json
