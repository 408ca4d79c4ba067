import Mathlib.Data.List.Basic
import Script.Cursor
import Script.Proofs.Spans

/-!
# Cursors stay between characters

An unchecked cursor moves by bytes and could come to stand inside a character or past the
end of its source, where there is no text to ask for.  This file takes the pull of a token
apart into the rounds of a loop, each of which asks for the text that is left and moves the
cursor by the bytes of a match, and shows that a cursor that starts at the start of a
source never gets there.

Every match takes a byte, so the loop ends and a token moves the cursor on.  Where there is
no token, the cursor has come to a place where it stays, whatever it is asked for again.
-/

namespace Script.Cursor

/-! ## Rounds -/

/-- What one round of a pull comes to. -/
inductive Round where
  /-- White space or a comment is passed. -/
  | passes (next : Cursor)
  | gives (pull : Pull) (next : Cursor)
  deriving DecidableEq, Repr

/--
One round of a pull: the rules are tried on the text that is left, and the cursor is moved
by the bytes of what one of them takes.
-/
def round (cursor : Cursor) : Except Misplaced Round :=
  if cursor.atEnd then
    .ok (.gives .finished cursor)
  else
    cursor.remainder.bind fun rest =>
      match Rule.first? rest with
      | none =>
          cursor.character.map fun first =>
            .gives (.rejected ⟨.unrecognisedToken ((first.map String.singleton).getD ""),
              cursor.position⟩) cursor
      | some (rule, length) =>
          match rule.kind? (String.ofList (rest.take length)) with
          | none => .ok (.passes (cursor.advance (Text.byteLength (rest.take length))))
          | some kind =>
              .ok (.gives
                (.token ⟨kind, String.ofList (rest.take length),
                  cursor.span (Text.byteLength (rest.take length))⟩)
                (cursor.advance (Text.byteLength (rest.take length))))

/-- No more than some rounds, up to the first one that gives something. -/
def rounds : Nat → Cursor → Except Misplaced (Option (Pull × Cursor))
  | 0, _ => .ok none
  | count + 1, cursor =>
      cursor.round.bind fun
        | .passes next => rounds count next
        | .gives pull next => .ok (some (pull, next))

/-- The cursor comes by another place on its way to a token. -/
def Passes : Cursor → Cursor → Prop :=
  Relation.ReflTransGen fun cursor next => cursor.round = .ok (.passes next)

/-- A number of pulls, one after the other. -/
def pulls : Nat → Cursor → Except Misplaced (List Pull × Cursor)
  | 0, cursor => .ok ([], cursor)
  | count + 1, cursor =>
      cursor.next.bind fun (pull, next) =>
        (pulls count next).map fun (others, last) => (pull :: others, last)

/-! ## Cursors where lexers stand -/

section Lexers

variable {lexer : Lexer}

/-- What a lexer gives, without the lexer that it leaves. -/
def ofPull {bound : Nat} : Lexer.Pull bound → Pull
  | .token taken _ _ => .token taken
  | .finished _ _ => .finished
  | .rejected diagnostic _ _ => .rejected diagnostic

theorem ofPull_within {shorter longer : Nat} (pull : Lexer.Pull shorter)
    (notLonger : shorter ≤ longer) : ofPull (pull.within notLonger) = ofPull pull := by
  cases pull <;> rfl

theorem next_within {shorter longer : Nat} (pull : Lexer.Pull shorter)
    (notLonger : shorter ≤ longer) : (pull.within notLonger).next = pull.next := by
  cases pull <;> rfl

theorem remainder_ofLexer (lexer : Lexer) : (ofLexer lexer).remainder = .ok lexer.rest := by
  rw [remainder, ofLexer, lexer.dropBytes?_offset]

theorem atEnd_ofLexer : (ofLexer lexer).atEnd = true ↔ lexer.rest = [] := by
  have whole := lexer.offset_add_byteLength
  rw [atEnd, decide_eq_true_iff]
  change Text.byteLength lexer.source ≤ lexer.offset ↔ _
  cases held : lexer.rest with
  | nil =>
      rw [held, Text.byteLength_nil] at whole
      exact iff_of_true (Nat.le_of_eq whole.symm) rfl
  | cons first others =>
      have size := first.utf8Size_pos
      rw [held, Text.byteLength_cons] at whole
      exact iff_of_false (by omega) (List.cons_ne_nil _ _)

/-- A cursor that can be cut at is where a lexer stands. -/
theorem exists_lexer {cursor : Cursor} {rest : List Char}
    (cut : Text.dropBytes? cursor.offset cursor.source = some rest) :
    ∃ lexer, cursor = ofLexer lexer ∧ lexer.rest = rest :=
  ⟨⟨cursor.file, cursor.source, cursor.offset, rest, Text.append_of_dropBytes? cut⟩, rfl, rfl⟩

theorem toLexer?_ofLexer (lexer : Lexer) : (ofLexer lexer).toLexer? = some lexer := by
  have cut := lexer.dropBytes?_offset
  unfold toLexer?
  split
  next misses => cases cut.symm.trans misses
  next rest held =>
    cases cut.symm.trans held
    rfl

/-- A cursor pulls what the lexer at its place pulls. -/
theorem next_ofLexer (lexer : Lexer) :
    (ofLexer lexer).next = .ok (ofPull lexer.next, ofLexer lexer.next.next) := by
  rw [next]
  split
  next ended =>
    rw [Lexer.next_of_nil (atEnd_ofLexer.1 ended), ofPull, Lexer.Pull.next]
  next =>
    simp only [toLexer?_ofLexer]
    cases lexer.next <;> rfl

theorem round_of_nil (ended : lexer.rest = []) :
    (ofLexer lexer).round = .ok (.gives .finished (ofLexer lexer)) := by
  rw [round, if_pos (atEnd_ofLexer.2 ended)]

theorem round_of_refused {first : Char} (starts : lexer.rest.head? = some first)
    (refused : Rule.first? lexer.rest = none) :
    (ofLexer lexer).round =
      .ok (.gives (.rejected ⟨.unrecognisedToken (String.singleton first), lexer.position⟩)
        (ofLexer lexer)) := by
  have goesOn : ¬(ofLexer lexer).atEnd = true := by
    rw [atEnd_ofLexer]
    intro ended
    rw [ended] at starts
    cases starts
  rw [round, if_neg goesOn, character, remainder_ofLexer]
  simp only [Except.bind, Except.map, refused, starts]
  rfl

theorem round_of_first? {rule : Rule} {length : Nat}
    (found : Rule.first? lexer.rest = some (rule, length)) :
    (ofLexer lexer).round =
      match rule.kind? (String.ofList (lexer.rest.take length)) with
      | none => .ok (.passes (ofLexer (lexer.forward length)))
      | some kind =>
          .ok (.gives (.token (lexer.tokenOf kind length)) (ofLexer (lexer.forward length))) := by
  have goesOn : ¬(ofLexer lexer).atEnd = true := by
    rw [atEnd_ofLexer]
    intro ended
    have taken := Pattern.byteLength_pos_of_extent? (Rule.extent?_of_first? found)
    rw [ended, List.take_nil] at taken
    exact absurd taken (Nat.lt_irrefl _)
  rw [round, if_neg goesOn, remainder_ofLexer]
  simp only [Except.bind, found]
  split <;> rfl

/-- A round gives what a pull gives, or passes what the pull skips. -/
theorem round_cases (lexer : Lexer) :
    (ofLexer lexer).round = .ok (.gives (ofPull lexer.next) (ofLexer lexer.next.next)) ∨
      ∃ length, (ofLexer lexer).round = .ok (.passes (ofLexer (lexer.forward length))) ∧
        (lexer.forward length).rest.length < lexer.rest.length ∧
          ofPull lexer.next = ofPull (lexer.forward length).next ∧
            lexer.next.next = (lexer.forward length).next.next := by
  cases starts : lexer.rest.head? with
  | none =>
      have ended := List.head?_eq_none_iff.1 starts
      left
      rw [round_of_nil ended, Lexer.next_of_nil ended]
      rfl
  | some first =>
      cases found : Rule.first? lexer.rest with
      | none =>
          left
          rw [round_of_refused starts found, Lexer.next_of_refused starts found]
          rfl
      | some taken =>
          rcases taken with ⟨rule, length⟩
          have rounded := round_of_first? found
          have pulled := Lexer.next_of_first? found
          cases emits : rule.kind? (String.ofList (lexer.rest.take length)) with
          | none =>
              rw [emits] at rounded pulled
              refine .inr ⟨length, rounded, Lexer.forward_rest_length_lt found, ?_, ?_⟩
              · rw [pulled, ofPull_within]
              · rw [pulled, next_within]
          | some kind =>
              rw [emits] at rounded pulled
              left
              rw [rounded, pulled]
              rfl

/-- Where enough rounds are made, they come to what a pull gives. -/
theorem rounds_ofLexer {count : Nat} (enough : lexer.rest.length < count) :
    (ofLexer lexer).rounds count = .ok (some (ofPull lexer.next, ofLexer lexer.next.next)) := by
  induction count generalizing lexer with
  | zero => exact absurd enough (Nat.not_lt_zero _)
  | succ count inductionHypothesis =>
      rw [rounds]
      rcases round_cases lexer with gives | ⟨length, passes, shorter, samePull, sameNext⟩
      · rw [gives]
        rfl
      · rw [passes, samePull, sameNext]
        exact inductionHypothesis (by omega)

/-- On its way to a token a cursor only comes by places where lexers stand. -/
theorem exists_lexer_of_passes {visited : Cursor} (passes : (ofLexer lexer).Passes visited) :
    ∃ place, visited = ofLexer place := by
  induction passes with
  | refl => exact ⟨lexer, rfl⟩
  | tail _ one inductionHypothesis =>
      rcases inductionHypothesis with ⟨place, rfl⟩
      rcases round_cases place with gives | ⟨length, passes, _⟩
      · cases gives.symm.trans one
      · cases passes.symm.trans one
        exact ⟨place.forward length, rfl⟩

/-- Pulls leave a cursor where a lexer stands in the same source. -/
theorem pulls_ofLexer (count : Nat) (lexer : Lexer) :
    ∃ given place, (ofLexer lexer).pulls count = .ok (given, ofLexer place) ∧
      lexer.Precedes place := by
  induction count generalizing lexer with
  | zero => exact ⟨[], lexer, rfl, .refl lexer⟩
  | succ count inductionHypothesis =>
      rcases inductionHypothesis lexer.next.next with ⟨given, place, others, later⟩
      refine ⟨ofPull lexer.next :: given, place, ?_, lexer.precedes_next.trans later⟩
      rw [pulls, next_ofLexer]
      simp only [Except.bind, others, Except.map]

/-- Where a pull gives no token, the next one gives the same and moves nothing. -/
theorem next_stays (noToken : ∀ token, ofPull lexer.next ≠ .token token) :
    (ofLexer lexer.next.next).next = .ok (ofPull lexer.next, ofLexer lexer.next.next) := by
  rw [next_ofLexer]
  rcases lexer.exists_stops with ⟨place, _, stops⟩
  cases stops with
  | finished ended notLonger pulled =>
      rw [pulled, Lexer.Pull.next, Lexer.next_of_nil ended]
      rfl
  | rejected starts refused notLonger pulled =>
      rw [pulled, Lexer.Pull.next, Lexer.next_of_refused starts refused]
      rfl
  | token found emits shorter pulled => exact absurd (congrArg ofPull pulled) (noToken _)

/-- A pull that gives a token moves on. -/
theorem offset_lt_next {token : Token} (given : ofPull lexer.next = .token token) :
    lexer.offset < lexer.next.next.offset := by
  rcases lexer.exists_stops with ⟨place, skips, stops⟩
  cases stops with
  | finished _ _ pulled =>
      rw [pulled] at given
      cases given
  | rejected _ _ _ pulled =>
      rw [pulled] at given
      cases given
  | @token rule length _ found _ _ pulled =>
      rw [pulled]
      exact Nat.lt_of_le_of_lt skips.precedes.offset_le (Lexer.offset_lt_forward found)

end Lexers

/-- The loop comes to what a pull comes to, from any place and also where it is misplaced. -/
theorem rounds_eq_next (cursor : Cursor) :
    cursor.rounds (cursor.source.length + 1) = cursor.next.map some := by
  cases cut : Text.dropBytes? cursor.offset cursor.source with
  | some rest =>
      rcases exists_lexer cut with ⟨lexer, rfl, _⟩
      have enough : lexer.rest.length < lexer.source.length + 1 := by
        rcases lexer.splits with ⟨behind, whole, _⟩
        rw [whole, List.length_append]
        omega
      rw [next_ofLexer]
      exact rounds_ofLexer enough
  | none =>
      have misplaced : cursor.remainder = .error .misplaced := by rw [remainder, cut]
      have noLexer : cursor.toLexer? = none := by
        unfold toLexer?
        split
        · rfl
        · next held => cases cut.symm.trans held
      rw [rounds, round, next]
      split
      · rfl
      · rw [misplaced, noLexer]
        rfl

/-! ## Whole runs -/

section Runs

variable {cursor next : Cursor} {pull : Pull}

/-- What is asked for at a cursor is there. -/
structure Placed (cursor : Cursor) : Prop where
  /-- The cursor stands between two characters. -/
  boundary : ∃ behind rest, cursor.source = behind ++ rest ∧
    Text.byteLength behind = cursor.offset
  inside : cursor.offset ≤ Text.byteLength cursor.source
  remainder_ok : ∃ rest, cursor.remainder = .ok rest
  character_ok : ∃ first, cursor.character = .ok first

theorem placed_ofLexer (lexer : Lexer) : (ofLexer lexer).Placed := by
  rcases lexer.splits with ⟨behind, whole, size⟩
  have left := remainder_ofLexer lexer
  refine ⟨⟨behind, lexer.rest, whole, size⟩, lexer.offset_le_byteLength, ⟨_, left⟩, ?_⟩
  rw [character, left]
  exact ⟨_, rfl⟩

/-- A pull comes to an end, asks only for text that is there, and gets on or stays for good. -/
structure Returns (cursor : Cursor) (pull : Pull) (next : Cursor) : Prop where
  /-- The loop ends after no more rounds than the source has characters, and one. -/
  ends : cursor.rounds (cursor.source.length + 1) = .ok (some (pull, next))
  /-- Wherever it comes by, the cursor is well placed. -/
  placed : ∀ visited, cursor.Passes visited → visited.Placed
  /-- A token moves the cursor on. -/
  moves : ∀ token, pull = .token token → cursor.offset < next.offset
  /-- Where there is none, all further pulls give the same and move nothing. -/
  stays : (∀ token, pull ≠ .token token) →
    ∀ count, next.pulls count = .ok (List.replicate count pull, next)

theorem pulls_of_stays (stays : cursor.next = .ok (pull, cursor)) (count : Nat) :
    cursor.pulls count = .ok (List.replicate count pull, cursor) := by
  induction count with
  | zero => rfl
  | succ count inductionHypothesis =>
      rw [pulls, stays, List.replicate_succ]
      simp only [Except.bind, inductionHypothesis, Except.map]

theorem returns_ofLexer (lexer : Lexer) :
    (ofLexer lexer).Returns (ofPull lexer.next) (ofLexer lexer.next.next) where
  ends := by
    rw [rounds_eq_next, next_ofLexer]
    rfl
  placed := by
    intro visited passes
    rcases exists_lexer_of_passes passes with ⟨place, rfl⟩
    exact placed_ofLexer place
  moves _ given := offset_lt_next given
  stays noToken := pulls_of_stays (next_stays noToken)

/--
However often a token is asked for from the start of a source on, the cursor is between
two characters of the source, and so it is in every round of the next pull.  That pull
ends; a token moves the cursor on, and where there is none, it stays for good.
-/
theorem pulls_stay_placed (source : String) (file : Option String) :
    (∀ (pattern : Pattern) (text : List Char) (length : Nat),
      pattern.extent? text = some length → 0 < Text.byteLength (text.take length)) ∧
    ∀ count, ∃ given cursor, (start source file).pulls count = .ok (given, cursor) ∧
      cursor.source = source.toList ∧ cursor.Placed ∧
        ∃ pull next, cursor.next = .ok (pull, next) ∧ cursor.Returns pull next := by
  refine ⟨fun _ _ _ => Pattern.byteLength_pos_of_extent?, fun count => ?_⟩
  rcases pulls_ofLexer count (Lexer.start source file) with ⟨given, place, pulled, precedes⟩
  exact ⟨given, ofLexer place, pulled, precedes.source_eq, placed_ofLexer place, _, _,
    next_ofLexer place, returns_ofLexer place⟩

/-- Behind a comment with an accent in it an accented letter is met, again and again. -/
theorem accented_letter_stays :
    ∃ pull next, (start "/*é*/é" none).next = .ok (pull, next) ∧ next.offset = 6 ∧
      next.pulls 5 = .ok (List.replicate 5 pull, next) := by
  have rejected : (start "/*é*/é" none).next =
      .ok (.rejected ⟨.unrecognisedToken "é", ⟨6, unnamedSource⟩⟩,
        ⟨unnamedSource, "/*é*/é".toList, 6⟩) := by
    decide +kernel
  rcases (pulls_stay_placed "/*é*/é" none).2 0 with ⟨_, _, pulled, _, _, _, _, gives, returns⟩
  cases pulled
  cases rejected.symm.trans gives
  exact ⟨_, _, rejected, rfl, returns.stays nofun 5⟩

end Runs

end Script.Cursor
