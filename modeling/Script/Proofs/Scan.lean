import Mathlib.Logic.Relation
import Script.Lexer

/-!
# What one pull of a token does

A pull skips white space and comments, one match after the other, and then comes
to the end of the source, to a character that no rule accepts, or to the text of a
token.  The place it comes to belongs to the same source as the place it starts
from, and lies no earlier.
-/

namespace Script.Lexer

/-- The text at the head of what is left means nothing, and the next place lies behind it. -/
def SkipsOne (lexer next : Lexer) : Prop :=
  ∃ rule length,
    Rule.first? lexer.rest = some (rule, length) ∧
      rule.kind? (String.ofList (lexer.rest.take length)) = none ∧
        next = lexer.forward length

/-- Any number of texts that mean nothing are skipped. -/
def Skips : Lexer → Lexer → Prop :=
  Relation.ReflTransGen SkipsOne

/-- What a pull can come to, having skipped to a place. -/
inductive Stops (lexer place : Lexer) : Prop where
  /-- Nothing is left. -/
  | finished
      (ended : place.rest = [])
      (notLonger : place.rest.length ≤ lexer.rest.length)
      (pulled : lexer.next = .finished place notLonger)
  /-- No rule accepts the text. -/
  | rejected
      {character : Char}
      (first : place.rest.head? = some character)
      (refused : Rule.first? place.rest = none)
      (notLonger : place.rest.length ≤ lexer.rest.length)
      (pulled : lexer.next =
        .rejected ⟨.unrecognisedToken (String.singleton character), place.position⟩
          place notLonger)
  /-- The first rule that matches makes a token. -/
  | token
      {rule : Rule} {length : Nat} {kind : Kind}
      (found : Rule.first? place.rest = some (rule, length))
      (emits : rule.kind? (String.ofList (place.rest.take length)) = some kind)
      (shorter : (place.forward length).rest.length < lexer.rest.length)
      (pulled : lexer.next =
        .token (place.tokenOf kind length) (place.forward length) shorter)

theorem next_of_nil {lexer : Lexer} (ended : lexer.rest = []) :
    lexer.next = .finished lexer (Nat.le_refl _) := by
  rw [next]
  simp [ended]

theorem next_of_refused {lexer : Lexer} {character : Char}
    (first : lexer.rest.head? = some character)
    (refused : Rule.first? lexer.rest = none) :
    lexer.next =
      .rejected ⟨.unrecognisedToken (String.singleton character), lexer.position⟩ lexer
        (Nat.le_refl _) := by
  rw [next]
  simp only [first]
  split
  · rfl
  · next rule length found => simp [refused] at found

/-- A pull takes the text of the first rule that matches, or skips it and goes on. -/
theorem next_of_first? {lexer : Lexer} {rule : Rule} {length : Nat}
    (found : Rule.first? lexer.rest = some (rule, length)) :
    lexer.next =
      match rule.kind? (String.ofList (lexer.rest.take length)) with
      | none =>
          (lexer.forward length).next.within
            (Nat.le_of_lt (forward_rest_length_lt found))
      | some kind =>
          .token (lexer.tokenOf kind length) (lexer.forward length)
            (forward_rest_length_lt found) := by
  have positive := Rule.pos_of_first? found
  have within := Rule.le_length_of_first? found
  rw [next]
  split
  · next ended =>
      rw [List.head?_eq_none_iff] at ended
      simp only [ended, List.length_nil] at within
      omega
  · split
    · next refused => simp [refused] at found
    · next rule' length' found' =>
        cases found.symm.trans found'
        rfl

/-- Every pull skips to a place and stops there. -/
theorem exists_stops (lexer : Lexer) : ∃ place, lexer.Skips place ∧ lexer.Stops place := by
  fun_induction next lexer with
  | case1 lexer ended =>
      rw [List.head?_eq_none_iff] at ended
      exact ⟨lexer, .refl, .finished ended (Nat.le_refl _) (next_of_nil ended)⟩
  | case2 lexer character first refused =>
      exact ⟨lexer, .refl,
        .rejected first refused (Nat.le_refl _) (next_of_refused first refused)⟩
  | case3 lexer character first rule length found shorter skipped inductionHypothesis =>
      rcases inductionHypothesis with ⟨place, skips, stops⟩
      refine ⟨place, .head ⟨rule, length, found, skipped, rfl⟩ skips, ?_⟩
      have continues := next_of_first? found
      rw [skipped] at continues
      cases stops with
      | finished ended notLonger pulled =>
          rw [pulled] at continues
          exact .finished ended _ continues
      | rejected first refused notLonger pulled =>
          rw [pulled] at continues
          exact .rejected first refused _ continues
      | token found emits shorter pulled =>
          rw [pulled] at continues
          exact .token found emits _ continues
  | case4 lexer character first rule length found shorter kind emits =>
      have pulled := next_of_first? found
      rw [emits] at pulled
      exact ⟨lexer, .refl, .token found emits (forward_rest_length_lt found) pulled⟩

/-- A pull that finds no more tokens has come to the end of the source. -/
theorem rest_of_finished {lexer further : Lexer}
    {notLonger : further.rest.length ≤ lexer.rest.length}
    (pulled : lexer.next = .finished further notLonger) :
    further.rest = [] := by
  rcases lexer.exists_stops with ⟨place, _, stops⟩
  cases stops with
  | finished ended _ pulledPlace =>
      cases pulled.symm.trans pulledPlace
      exact ended
  | rejected _ _ _ pulledPlace => cases pulled.symm.trans pulledPlace
  | token _ _ _ pulledPlace => cases pulled.symm.trans pulledPlace

/-! ## Draining after one pull -/

theorem drain_of_token {lexer further : Lexer} {token : Token}
    {shorter : further.rest.length < lexer.rest.length}
    (pulled : lexer.next = .token token further shorter) :
    lexer.drain = ⟨token :: further.drain.tokens, further.drain.failure⟩ := by
  rw [drain, pulled]

theorem drain_of_finished {lexer further : Lexer}
    {notLonger : further.rest.length ≤ lexer.rest.length}
    (pulled : lexer.next = .finished further notLonger) :
    lexer.drain = ⟨[], none⟩ := by
  rw [drain, pulled]

theorem drain_of_rejected {lexer further : Lexer} {diagnostic : Diagnostic}
    {notLonger : further.rest.length ≤ lexer.rest.length}
    (pulled : lexer.next = .rejected diagnostic further notLonger) :
    lexer.drain = ⟨[], some diagnostic⟩ := by
  rw [drain, pulled]

/-! ## Places of one source -/

/-- A place of the same source that lies no earlier. -/
structure Precedes (lexer place : Lexer) : Prop where
  source_eq : place.source = lexer.source
  file_eq : place.file = lexer.file
  offset_le : lexer.offset ≤ place.offset

theorem Precedes.refl (lexer : Lexer) : lexer.Precedes lexer :=
  ⟨rfl, rfl, Nat.le_refl _⟩

theorem Precedes.trans {first second third : Lexer}
    (earlier : first.Precedes second) (later : second.Precedes third) :
    first.Precedes third :=
  ⟨later.source_eq.trans earlier.source_eq, later.file_eq.trans earlier.file_eq,
    Nat.le_trans earlier.offset_le later.offset_le⟩

theorem precedes_forward (lexer : Lexer) (length : Nat) :
    lexer.Precedes (lexer.forward length) :=
  ⟨rfl, rfl, Nat.le_add_right _ _⟩

theorem Skips.precedes {lexer place : Lexer} (skips : lexer.Skips place) :
    lexer.Precedes place := by
  induction skips with
  | refl => exact .refl lexer
  | tail _ one inductionHypothesis =>
      rcases one with ⟨rule, length, found, skipped, rfl⟩
      exact inductionHypothesis.trans (precedes_forward _ length)

/-- The place after a pull lies no earlier. -/
theorem precedes_next (lexer : Lexer) : lexer.Precedes lexer.next.next := by
  rcases lexer.exists_stops with ⟨place, skips, stops⟩
  have before := skips.precedes
  cases stops with
  | finished _ _ pulled => rw [pulled]; exact before
  | rejected _ _ _ pulled => rw [pulled]; exact before
  | @token _ length _ _ _ _ pulled => rw [pulled]; exact before.trans (precedes_forward place length)

/-- The place after a pull belongs to the same source. -/
theorem source_next (lexer : Lexer) : lexer.next.next.source = lexer.source :=
  lexer.precedes_next.source_eq

/-- The bytes behind a place and those in front of it are the bytes of its source. -/
theorem offset_add_byteLength (lexer : Lexer) :
    lexer.offset + Text.byteLength lexer.rest = Text.byteLength lexer.source := by
  rcases lexer.splits with ⟨behind, whole, size⟩
  rw [whole, Text.byteLength_append, size]

end Script.Lexer

namespace Script

/-- A source has tokens where the lexer comes to its end. -/
theorem tokenize_eq_ok_iff {source : String} {file : Option String} {tokens : List Token} :
    tokenize source file = .ok tokens ↔
      (Lexer.start source file).drain.failure = none ∧
        tokens = (Lexer.start source file).drain.tokens := by
  unfold tokenize
  cases fails : (Lexer.start source file).drain.failure <;> simp [fails, eq_comm]

end Script
