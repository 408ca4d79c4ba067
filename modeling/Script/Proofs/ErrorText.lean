import Script.Proofs.FailedRequest
import Script.Proofs.LexicalFailure
import Script.SExpr.Equality

/-!
# Diagnostics keep to the text

The position of a diagnostic comes from the token looked at, from the lexer or from the
operator of an assignment.  Wherever it comes from, it lies between two characters of
the source, and what the diagnostic says stands there: the character that no rule
accepts, or the token that starts at the position.  A source that ends too early is
refused at its last byte, behind all white space and comments.

Positions hold offsets in 32 bits, so this is said of sources that have fewer than
`2 ^ 32` bytes.
-/

namespace Script

/-! ## What stands at a position -/

/-- The one token that starts at a position, of those that a lexer gives one by one. -/
structure Lexer.TokenAt (lexer : Lexer) (position : Position) (token : Token) : Prop where
  given : token ∈ lexer.drain.tokens
  starts : token.start = position
  only : ∀ other ∈ lexer.drain.tokens, other.start = position → other = token

/-- What a cause says of a source stands at a position of it. -/
def Cause.StandsAt (source : String) (file : Option String) (position : Position) :
    Cause → Prop
  | .unexpectedEndOfInput _ => position.offset.toNat = source.utf8ByteSize
  | .unrecognisedToken text =>
      ∃ character rest,
        Text.dropBytes? position.offset.toNat source.toList = some (character :: rest) ∧
          text = String.singleton character
  | .unexpectedToken text _ | .unexpectedLiteral text =>
      ∃ token, (Lexer.start source file).TokenAt position token ∧ token.text = text
  | .invalidAssignmentTarget _ =>
      ∃ token, (Lexer.start source file).TokenAt position token ∧
        (token.kind = .simpleAssign ∨ token.kind = .complexAssign)
  | .numberParseError _ => False

/-- A diagnostic lies between two characters of a source, and what it says stands there. -/
structure Diagnostic.Faithful (source : String) (file : Option String)
    (diagnostic : Diagnostic) : Prop where
  boundary : ∃ rest,
    Text.dropBytes? diagnostic.position.offset.toNat source.toList = some rest
  stands : diagnostic.cause.StandsAt source file diagnostic.position

theorem Lexer.tokenAt_of_mem {lexer : Lexer} {token : Token}
    (short : Text.byteLength lexer.source < UInt32.size) (member : token ∈ lexer.drain.tokens) :
    lexer.TokenAt token.start token where
  given := member
  starts := rfl
  only := by
    intro other otherMember same
    have start_eq : other.span.start = token.span.start := congrArg Position.offset same
    exact (inOrder_drain short).eq_of_start member otherMember start_eq

/-- A token starts between two characters. -/
theorem Lexer.boundary_of_mem {lexer : Lexer} {token : Token}
    (short : Text.byteLength lexer.source < UInt32.size) (member : token ∈ lexer.drain.tokens) :
    ∃ rest, Text.dropBytes? token.start.offset.toNat lexer.source = some rest := by
  rcases (covered_drain short).texts token member with ⟨behind, before, whole, size, _⟩
  rw [whole, List.append_assoc]
  exact ⟨_, size ▸ Text.dropBytes?_append before _⟩

theorem Kind.eq_of_isAssignment {kind : Kind} (assigns : kind.isAssignment = true) :
    kind = .simpleAssign ∨ kind = .complexAssign := by
  cases kind <;> simp_all [isAssignment]

/-! ## Diagnostics of one source -/

section Source

variable {source : String} {file : Option String} {diagnostic : Diagnostic}

/-- What stops the lexer is the character that it stops at. -/
theorem faithful_of_failure
    (short : Text.byteLength (Lexer.start source file).source < UInt32.size)
    (stopped : (Lexer.start source file).drain.failure = some diagnostic) :
    diagnostic.Faithful source file := by
  rcases Lexer.exists_place_of_drain stopped with ⟨place, character, source_eq, first, rfl⟩
  rcases List.head?_eq_some_iff.1 first with ⟨rest, rest_eq⟩
  have offset_eq : place.position.offset.toNat = place.offset :=
    Lexer.toNat_offset (source_eq ▸ short)
  have cut : Text.dropBytes? place.position.offset.toNat source.toList =
      some (character :: rest) := by
    rw [offset_eq, ← rest_eq, ← place.dropBytes?_offset, source_eq]
    rfl
  exact ⟨⟨_, cut⟩, character, rest, cut, rfl⟩

namespace Parser

open Machine

section Amid

variable {control : Control} {taken : List Token} {last : State}
  (amid : Amid (Lexer.start source file) control taken last)
  (short : Text.byteLength (Lexer.start source file).source < UInt32.size)

include amid

theorem Amid.mem_tokens {token : Token} (looks : last.lookahead = some token) :
    token ∈ (Lexer.start source file).drain.tokens := by
  rw [amid.tokens_eq, State.pending, looks]
  exact List.mem_append_right taken List.mem_cons_self

include short

theorem Amid.tokenAt {token : Token} (looks : last.lookahead = some token) :
    (Lexer.start source file).TokenAt last.position token := by
  rw [position_of_lookahead looks]
  exact Lexer.tokenAt_of_mem short (amid.mem_tokens looks)

/-- A state in the middle of a source looks at a place between two characters. -/
theorem Amid.boundary :
    ∃ rest, Text.dropBytes? last.position.offset.toNat source.toList = some rest := by
  cases looks : last.lookahead with
  | some token =>
      rw [position_of_lookahead looks]
      exact Lexer.boundary_of_mem short (amid.mem_tokens looks)
  | none =>
      have whole := Text.dropBytes?_append source.toList []
      rw [List.append_nil] at whole
      rw [amid.position_of_end short looks]
      exact ⟨[], whole⟩

/-- What the grammar has against a state is said of what stands where the state looks. -/
theorem Amid.faithful {cause : Cause} (grammatical : cause.stage = .grammatical)
    (faces : last.Faces cause) : Diagnostic.Faithful source file ⟨cause, last.position⟩ := by
  refine ⟨amid.boundary short, ?_⟩
  cases cause with
  | unexpectedToken text expected =>
      rcases faces with ⟨token, looks, text_eq, _⟩
      exact ⟨token, amid.tokenAt short looks, text_eq⟩
  | unexpectedLiteral text =>
      rcases faces with ⟨token, looks, text_eq, _⟩
      exact ⟨token, amid.tokenAt short looks, text_eq⟩
  | invalidAssignmentTarget target =>
      rcases faces with ⟨token, looks, assigns⟩
      exact ⟨token, amid.tokenAt short looks, Kind.eq_of_isAssignment assigns⟩
  | unexpectedEndOfInput expected =>
      have atEnd := amid.position_of_end short faces
      exact atEnd.trans (Text.byteLength_toList source)
  | unrecognisedToken text => cases grammatical
  | numberParseError text => cases faces

end Amid

theorem faithful_of_parse
    (short : Text.byteLength (Lexer.start source file).source < UInt32.size)
    (fails : (parse source file : Except Diagnostic Tree) = .error diagnostic) :
    diagnostic.Faithful source file := by
  rcases explained_of_parse fails with drains | ⟨control, taken, last, next, amid, explains⟩
  · exact faithful_of_failure short (by rw [drains])
  · cases explains with
    | refused refuses reports =>
        have faces := reports.faces (Control.blames_of_refuse refuses)
        exact amid.faithful short reports.grammatical faces
    | starved _ starves =>
        exact faithful_of_failure short (amid.failure_eq.trans starves.blocks)

/-- What a target is called in a message is not said of the source. -/
theorem AgreeUpToTarget.faithful {other : Diagnostic} (agree : AgreeUpToTarget diagnostic other)
    (faithful : diagnostic.Faithful source file) : other.Faithful source file := by
  rcases agree with ⟨samePosition, sameCause | ⟨target, otherTarget, ofFirst, ofSecond⟩⟩
  · exact ⟨samePosition ▸ faithful.boundary, samePosition ▸ sameCause ▸ faithful.stands⟩
  · have stands := faithful.stands
    rw [ofFirst] at stands
    refine ⟨samePosition ▸ faithful.boundary, ?_⟩
    rw [ofSecond, ← samePosition]
    exact stands

end Parser

/--
Diagnostics are faithful in either mode: each lies between two characters of its source
and says what stands there, and one about the end of the source lies at its end.
-/
theorem diagnostics_faithful (mode : Mode) (short : source.utf8ByteSize < 2 ^ 32)
    (fails : parse mode source file = .error diagnostic) :
    diagnostic.Faithful source file := by
  have size : Text.byteLength (Lexer.start source file).source < UInt32.size :=
    Text.byteLength_toList_lt short
  have agree := Parser.parse_agrees_with_tree mode source file
  rw [fails] at agree
  generalize answers : (Parser.parse source file : Except Diagnostic Tree) = answer at agree
  cases agree with
  | error agree => exact agree.faithful (Parser.faithful_of_parse size answers)

end Source

/--
Behind characters of several bytes a number is refused at its own text, and a source
that ends in a comment is refused at the end of the comment.
-/
theorem accented_sources_refused_faithfully :
    Diagnostic.Faithful "'é' /* ü */ 1" none ⟨.unexpectedToken "1" ";", ⟨14, "shell"⟩⟩ ∧
      Diagnostic.Faithful "x = // ßü" none
        ⟨.unexpectedEndOfInput "expression", ⟨11, "shell"⟩⟩ := by
  have otherToken : (Parser.parse "'é' /* ü */ 1" none : Except Diagnostic SExpr) =
      .error ⟨.unexpectedToken "1" ";", ⟨14, "shell"⟩⟩ := by
    decide +kernel
  have ended : (Parser.parse "x = // ßü" none : Except Diagnostic Tree) =
      .error ⟨.unexpectedEndOfInput "expression", ⟨11, "shell"⟩⟩ := by
    decide +kernel
  constructor
  · exact diagnostics_faithful .list (by decide +kernel)
      (congrArg (Except.map Output.list) otherToken)
  · exact diagnostics_faithful .tree (by decide +kernel) (congrArg (Except.map Output.tree) ended)

end Script
