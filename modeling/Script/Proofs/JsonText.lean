import Script.Json.Reader
import Script.Proofs.Legible
import Script.Proofs.LiteralOrder

/-!
# JSON texts determine what they are written from

A compact JSON text whose numbers are exact integers comes from one value only, and an
output from one JSON value only.  So two accepted sources that are written alike, and
whose number literals all fit a word, are read into the same tree or list expression.

The first character of a value says of which form it is.  Strings are read back by the
reader of JSON texts; arrays and objects are lists of legible items.  A tree is read back
from its JSON value by the name of its type.  In list mode a string and a symbol are both
JSON strings, but only a string keeps a quote at its head, and no word of a program
starts with one.
-/

namespace Script

namespace Json

/-! ## Strings are read back -/

theorem hexCode?_of_control {code : Nat} (control : code < 32) :
    hexCode? '0' '0' (hexDigit (code / 16)) (hexDigit code) = some code := by
  have settled : ∀ code < 32,
      hexCode? '0' '0' (hexDigit (code / 16)) (hexDigit code) = some code := by
    decide
  exact settled code control

/-- A character of a string is read back. -/
theorem stringUnits?_stringCharacter (character : Char) {rest after : List Char}
    {units : List Unit16} (reads : stringUnits? rest = some (units, after)) :
    stringUnits? (stringCharacter character ++ rest) =
      some (.character character :: units, after) := by
  unfold stringCharacter
  split
  case h_8 noQuote noBackslash _ _ _ _ _ =>
    split
    next control =>
      have code := hexCode?_of_control control
      have whole : ¬(0xd800 ≤ character.toNat ∧ character.toNat < 0xe000) := by omega
      simp [stringUnits?, code, ofCode, whole, reads, Char.ofNat_toNat]
    next printable =>
      rw [List.singleton_append, stringUnits?.eq_def]
      split <;> simp_all
  all_goals simp [stringUnits?, shortEscape?, reads]

/-- A string is read back up to its closing quote. -/
theorem stringUnits?_of_string (characters after : List Char) :
    stringUnits? (characters.flatMap stringCharacter ++ '"' :: after) =
      some (characters.map .character, after) := by
  induction characters with
  | nil => rfl
  | cons first rest inductionHypothesis =>
      rw [List.flatMap_cons, List.append_assoc, List.map_cons]
      exact stringUnits?_stringCharacter first inductionHypothesis

/-- A string can be told from what follows it. -/
theorem eq_of_stringText {first second : String} {after otherAfter : List Char}
    (same : stringText first ++ after = stringText second ++ otherAfter) :
    first = second ∧ after = otherAfter := by
  have inside : first.toList.flatMap stringCharacter ++ '"' :: after =
      second.toList.flatMap stringCharacter ++ '"' :: otherAfter := by
    simpa [stringText] using same
  have reads := (stringUnits?_of_string first.toList after).symm.trans
    ((congrArg stringUnits? inside).trans (stringUnits?_of_string second.toList otherAfter))
  simp only [Option.some.injEq, Prod.mk.injEq] at reads
  refine ⟨?_, reads.2⟩
  have injective : Function.Injective Unit16.character := fun _ _ => Unit16.character.inj
  exact String.toList_injective (List.map_injective_iff.2 injective reads.1)

/-! ## The form of a value -/

/-- What sort of value a JSON value is. -/
inductive Form where
  | null
  | boolean
  | number
  | string
  | array
  | object
  deriving DecidableEq, Repr

/-- The form of a value. -/
def form : Json → Form
  | .null => .null
  | .boolean _ => .boolean
  | .number _ => .number
  | .string _ => .string
  | .array _ => .array
  | .object _ => .object

/-- The form of the values whose texts start with a character. -/
def formOf? (first : Char) : Option Form :=
  if first.isDigit then some .number
  else if first = 'n' then some .null
  else if first = 't' ∨ first = 'f' then some .boolean
  else if first = '"' then some .string
  else if first = '[' then some .array
  else if first = '\x7b' then some .object
  else none

/-- All numbers of a value are integers that fit a word. -/
def Exact (value : Json) : Prop :=
  ∀ number ∈ value.numerals, ∃ integer, number = .integer integer

/-- A text that does not go on with a digit. -/
def EndsNumber (text : List Char) : Prop :=
  ∀ first ∈ text.head?, first.isDigit = false

/-- The text of an integer is a run of digits. -/
theorem digits_dataText (integer : UInt64) :
    (Numeral.integer integer).dataText.toList ≠ [] ∧
      ∀ character ∈ (Numeral.integer integer).dataText.toList, character.isDigit = true :=
  Numeral.spells_integerText integer

/-- The first character of a text says of which form its value is. -/
theorem formOf?_head?_compactThen {value : Json} (exact : value.Exact) (after : List Char) :
    (value.compactThen after).head?.bind formOf? = some value.form := by
  cases value with
  | null => rfl
  | boolean value => cases value <;> rfl
  | number value =>
      rcases exact value (by simp) with ⟨integer, rfl⟩
      rcases digits_dataText integer with ⟨nonempty, digits⟩
      rw [compactThen]
      generalize (Numeral.integer integer).dataText.toList = text at nonempty digits
      cases text with
      | nil => exact absurd rfl nonempty
      | cons first rest => simp [formOf?, digits first (by simp), form]
  | string value => rfl
  | array elements => rfl
  | object fields => rfl

/-- Where two texts are the same, so are the forms of their values. -/
theorem form_eq_of_compactThen {value other : Json} {after otherAfter : List Char}
    (exact : value.Exact) (otherExact : other.Exact)
    (same : value.compactThen after = other.compactThen otherAfter) : value.form = other.form := by
  have ofValue := formOf?_head?_compactThen exact after
  rw [same, formOf?_head?_compactThen otherExact otherAfter] at ofValue
  exact (Option.some.inj ofValue).symm

/-! ## Values are told apart -/

/-- A field, and the text after it. -/
def fieldThen (field : String × Json) (after : List Char) : List Char :=
  stringText field.1 ++ ':' :: compactThen field.2 after

theorem compactElementsThen_eq (elements : List Json) (after : List Char) :
    compactElementsThen elements after = Text.separatedThen compactThen ',' elements after := by
  induction elements with
  | nil => rfl
  | cons first others inductionHypothesis =>
      cases others with
      | nil => rfl
      | cons next others => rw [compactElementsThen, inductionHypothesis, Text.separatedThen]

theorem compactFieldsThen_eq (fields : List (String × Json)) (after : List Char) :
    compactFieldsThen fields after = Text.separatedThen fieldThen ',' fields after := by
  induction fields with
  | nil => rfl
  | cons first others inductionHypothesis =>
      cases others with
      | nil => rfl
      | cons next others =>
          rw [compactFieldsThen, inductionHypothesis, Text.separatedThen, fieldThen]

theorem exact_array {elements : List Json} :
    (array elements).Exact ↔ ∀ element ∈ elements, element.Exact := by
  induction elements with
  | nil => simp [Exact]
  | cons first others inductionHypothesis =>
      simp only [Exact, numerals, numeralsOfElements, List.mem_append, List.forall_mem_cons]
        at inductionHypothesis ⊢
      simp only [or_imp, forall_and, inductionHypothesis]

theorem exact_object {fields : List (String × Json)} :
    (object fields).Exact ↔ ∀ field ∈ fields, field.2.Exact := by
  induction fields with
  | nil => simp [Exact]
  | cons first others inductionHypothesis =>
      simp only [Exact, numerals, numeralsOfFields, List.mem_append, List.forall_mem_cons]
        at inductionHypothesis ⊢
      simp only [or_imp, forall_and, inductionHypothesis]

/-- No value is written in front of a text that starts with a bracket of the other sort. -/
theorem head?_compactThen_ne {value : Json} (exact : value.Exact) (after : List Char)
    {mark : Char} (noForm : formOf? mark = none) : (value.compactThen after).head? ≠ some mark := by
  intro starts
  have ofValue := formOf?_head?_compactThen exact after
  rw [starts, Option.bind_some, noForm] at ofValue
  cases ofValue

theorem listed_elements : Text.Listed compactThen Exact EndsNumber ',' ']' where
  endsAtSeparator := by simp [EndsNumber]
  endsAtClosing := by simp [EndsNumber]
  apart := by decide
  opens _ exact after := head?_compactThen_ne exact after rfl

theorem listed_fields :
    Text.Listed fieldThen (fun field => field.2.Exact) EndsNumber ',' '\x7d' where
  endsAtSeparator := by simp [EndsNumber]
  endsAtClosing := by simp [EndsNumber]
  apart := by decide
  opens field exact after := by simp [fieldThen, stringText]

mutual

/-- A value whose numbers are exact is written like no other such value. -/
theorem legible : ∀ value : Json, value.Exact → Text.Legible compactThen Exact EndsNumber value
  | .null, exact => by
      intro other after otherAfter otherExact _ _ same
      cases other with
      | null => simpa [compactThen] using same
      | _ => cases form_eq_of_compactThen exact otherExact same
  | .boolean value, exact => by
      intro other after otherAfter otherExact _ _ same
      cases other with
      | boolean otherValue =>
          cases value <;> cases otherValue <;> simp_all [compactThen, booleanText]
      | _ => cases form_eq_of_compactThen exact otherExact same
  | .number value, exact => by
      intro other after otherAfter otherExact ends otherEnds same
      cases other with
      | number otherValue =>
          rcases exact value (by simp) with ⟨integer, rfl⟩
          rcases otherExact otherValue (by simp) with ⟨otherInteger, rfl⟩
          rcases Text.eq_of_append_run (digits_dataText integer).2 (digits_dataText otherInteger).2
            ends otherEnds same with ⟨sameText, sameAfter⟩
          have read := congrArg Numeral.read (String.toList_injective sameText)
          rw [Numeral.dataText, Numeral.dataText, Numeral.read_integerText,
            Numeral.read_integerText] at read
          exact ⟨congrArg number (Except.ok.inj read), sameAfter⟩
      | _ => cases form_eq_of_compactThen exact otherExact same
  | .string value, exact => by
      intro other after otherAfter otherExact _ _ same
      cases other with
      | string otherValue =>
          rcases eq_of_stringText same with ⟨rfl, sameAfter⟩
          exact ⟨rfl, sameAfter⟩
      | _ => cases form_eq_of_compactThen exact otherExact same
  | .array elements, exact => by
      intro other after otherAfter otherExact _ _ same
      cases other with
      | array otherElements =>
          rw [compactThen, compactThen, compactElementsThen_eq, compactElementsThen_eq] at same
          rcases listed_elements.eq_of_separatedThen
            (legible_elements elements (exact_array.1 exact)) (exact_array.1 exact)
            (exact_array.1 otherExact) (List.cons.inj same).2 with ⟨rfl, sameAfter⟩
          exact ⟨rfl, sameAfter⟩
      | _ => cases form_eq_of_compactThen exact otherExact same
  | .object fields, exact => by
      intro other after otherAfter otherExact _ _ same
      cases other with
      | object otherFields =>
          rw [compactThen, compactThen, compactFieldsThen_eq, compactFieldsThen_eq] at same
          rcases listed_fields.eq_of_separatedThen
            (legible_fields fields (exact_object.1 exact)) (exact_object.1 exact)
            (exact_object.1 otherExact) (List.cons.inj same).2 with ⟨rfl, sameAfter⟩
          exact ⟨rfl, sameAfter⟩
      | _ => cases form_eq_of_compactThen exact otherExact same

theorem legible_elements : ∀ elements : List Json, (∀ element ∈ elements, element.Exact) →
    ∀ element ∈ elements, Text.Legible compactThen Exact EndsNumber element
  | [], _ => by simp
  | element :: others, exact => by
      rw [List.forall_mem_cons] at exact ⊢
      exact ⟨legible element exact.1, legible_elements others exact.2⟩

theorem legible_fields : ∀ fields : List (String × Json), (∀ field ∈ fields, field.2.Exact) →
    ∀ field ∈ fields, Text.Legible fieldThen (fun field => field.2.Exact) EndsNumber field
  | [], _ => by simp
  | (key, value) :: others, exact => by
      rw [List.forall_mem_cons] at exact ⊢
      refine ⟨?_, legible_fields others exact.2⟩
      rintro ⟨otherKey, otherValue⟩ after otherAfter otherExact ends otherEnds same
      rcases eq_of_stringText same with ⟨rfl, sameBehind⟩
      rcases legible value exact.1 otherValue after otherAfter otherExact ends otherEnds
        (List.cons.inj sameBehind).2 with ⟨rfl, sameAfter⟩
      exact ⟨rfl, sameAfter⟩

end

/-- Values whose numbers are exact have the same compact text only if they are the same. -/
theorem eq_of_compact {value other : Json} (exact : value.Exact) (otherExact : other.Exact)
    (same : value.compact = other.compact) : value = other :=
  (legible value exact other [] [] otherExact (by simp [EndsNumber]) (by simp [EndsNumber])
    (String.ofList_injective same)).1

end Json

end Script
