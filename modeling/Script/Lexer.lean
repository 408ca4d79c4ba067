import Script.Diagnostic
import Script.Token.Basic
import Script.Token.Rules

/-!
# The lexer

A lexer stands at a place of a named source and pulls one token at a time.  It
always stands between two characters: it carries the text that is left together
with the byte offset where that text starts, and evidence that they agree.

Pulling a token skips white space and comments in front of it.  A character that
no rule accepts is reported, and the lexer stays in front of it.
-/

namespace Script

/-- A place in a named source. -/
structure Lexer where
  file : String
  source : List Char
  /-- How many bytes of the source lie behind. -/
  offset : Nat
  /-- The text that is left. -/
  rest : List Char
  /-- What lies behind and what is left make up the source. -/
  splits : ∃ behind, source = behind ++ rest ∧ Text.byteLength behind = offset
  deriving DecidableEq

namespace Lexer

/-- A lexer at the start of a source. -/
def start (source : String) (file : Option String) : Lexer where
  file := file.getD unnamedSource
  source := source.toList
  offset := 0
  rest := source.toList
  splits := ⟨[], rfl, rfl⟩

/-- The position of a lexer. -/
def position (lexer : Lexer) : Position :=
  ⟨lexer.offset.toUInt32, lexer.file⟩

/-- The lexer a number of characters further on. -/
def forward (lexer : Lexer) (length : Nat) : Lexer where
  file := lexer.file
  source := lexer.source
  offset := lexer.offset + Text.byteLength (lexer.rest.take length)
  rest := lexer.rest.drop length
  splits := by
    obtain ⟨behind, whole, size⟩ := lexer.splits
    refine ⟨behind ++ lexer.rest.take length, ?_, ?_⟩
    · rw [List.append_assoc, List.take_append_drop]
      exact whole
    · rw [Text.byteLength_append, size]

/-- The token made of the next characters. -/
def tokenOf (lexer : Lexer) (kind : Kind) (length : Nat) : Token where
  kind := kind
  text := String.ofList (lexer.rest.take length)
  span :=
    { start := lexer.offset.toUInt32
      stop := (lexer.forward length).offset.toUInt32
      file := lexer.file }

/--
What a lexer with at most `bound` characters left gives when it is asked for a
token, and where it stands afterwards.
-/
inductive Pull (bound : Nat) where
  /-- A token, which took at least one character. -/
  | token (token : Token) (next : Lexer) (shorter : next.rest.length < bound)
  /-- No token, because nothing but white space and comments was left. -/
  | finished (next : Lexer) (notLonger : next.rest.length ≤ bound)
  /-- No token, because no rule accepts the text that is left. -/
  | rejected (diagnostic : Diagnostic) (next : Lexer) (notLonger : next.rest.length ≤ bound)
  deriving DecidableEq

namespace Pull

/-- Where the lexer stands afterwards. -/
def next {bound : Nat} : Pull bound → Lexer
  | .token _ next _ => next
  | .finished next _ => next
  | .rejected _ next _ => next

/-- A pull from a shorter text, seen as one from a longer text. -/
def within {shorter longer : Nat} (pull : Pull shorter) (notLonger : shorter ≤ longer) :
    Pull longer :=
  match pull with
  | .token taken next evidence => .token taken next (by omega)
  | .finished next evidence => .finished next (by omega)
  | .rejected diagnostic next evidence => .rejected diagnostic next (by omega)

end Pull

/-- A lexer that moves over a matched text has less left. -/
theorem forward_rest_length_lt {lexer : Lexer} {rule : Rule} {length : Nat}
    (found : Rule.first? lexer.rest = some (rule, length)) :
    (lexer.forward length).rest.length < lexer.rest.length := by
  have positive := Rule.pos_of_first? found
  have within := Rule.le_length_of_first? found
  simp only [forward, List.length_drop]
  omega

/-- The next token, or the end of the source, or a character that no rule accepts. -/
def next (lexer : Lexer) : Pull lexer.rest.length :=
  match lexer.rest.head? with
  | none => .finished lexer (Nat.le_refl _)
  | some character =>
      match found : Rule.first? lexer.rest with
      | none =>
          .rejected ⟨.unrecognisedToken (String.singleton character), lexer.position⟩ lexer
            (Nat.le_refl _)
      | some (rule, length) =>
          have shorter := forward_rest_length_lt found
          match rule.kind? (String.ofList (lexer.rest.take length)) with
          | none => (next (lexer.forward length)).within (Nat.le_of_lt shorter)
          | some kind => .token (lexer.tokenOf kind length) (lexer.forward length) shorter
termination_by lexer.rest.length

/-- All tokens up to the end of the source or to the first rejected character. -/
structure Stream where
  tokens : List Token
  failure : Option Diagnostic
  deriving DecidableEq, Repr

/-- The tokens that are left, and the diagnostic that cuts them short. -/
def drain (lexer : Lexer) : Stream :=
  match lexer.next with
  | .token token next _ =>
      let others := drain next
      { others with tokens := token :: others.tokens }
  | .finished _ _ => ⟨[], none⟩
  | .rejected diagnostic _ _ => ⟨[], some diagnostic⟩
termination_by lexer.rest.length

end Lexer

/-- The tokens of a whole source. -/
def tokenize (source : String) (file : Option String) : Except Diagnostic (List Token) :=
  let stream := (Lexer.start source file).drain
  match stream.failure with
  | none => .ok stream.tokens
  | some diagnostic => .error diagnostic

end Script
