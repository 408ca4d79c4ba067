import Script.Proofs.Lockstep
import Script.Proofs.Partition
import Script.Proofs.Simulation

/-!
# The token looked at and the lexer

Between two requests a parser holds a lexer and the token before the place where the
lexer stands.  The two belong together: the token is the text in front of that place,
in the source that the lexer reads, under the name that the lexer has.

One request can part them.  A source whose first character no rule accepts replaces
the lexer, and the token looked at before stays.  It stays until a token is taken or
another source is started on, and no other request parts the two.
-/

namespace Script

/-- A token is the text in front of the place where a lexer stands. -/
structure Token.EndsAt (token : Token) (lexer : Lexer) : Prop where
  file_eq : token.span.file = lexer.file
  stop_eq : token.span.stop.toNat = lexer.offset
  lies : Text.LiesAt lexer.source token.span.start.toNat token.span.stop.toNat
    token.text.toList lexer.rest

/-- A token that is pulled ends where the lexer stands afterwards. -/
theorem Lexer.endsAt_of_next {lexer further : Lexer} {token : Token}
    {shorter : further.rest.length < lexer.rest.length}
    (short : Text.byteLength lexer.source < UInt32.size)
    (pulled : lexer.next = .token token further shorter) :
    token.EndsAt further := by
  rcases lexer.exists_stops with ⟨place, skips, stops⟩
  have shortPlace : Text.byteLength place.source < UInt32.size :=
    skips.precedes.source_eq ▸ short
  cases stops with
  | finished _ _ pulledPlace => cases pulled.symm.trans pulledPlace
  | rejected _ _ _ pulledPlace => cases pulled.symm.trans pulledPlace
  | @token rule length kind found emits _ pulledPlace =>
      cases pulled.symm.trans pulledPlace
      exact ⟨rfl, toNat_offset shortPlace, liesAt_tokenOf shortPlace kind length⟩

namespace Parser

/-- The token looked at, if there is one, ends where the lexer stands. -/
def State.Attached (state : State) : Prop :=
  ∀ token, state.lookahead = some token → token.EndsAt state.lexer

theorem State.attached_of_none {state : State} (ended : state.lookahead = none) :
    state.Attached := by
  intro token held
  rw [ended] at held
  cases held

/-- Where a token is taken, the next one ends where the lexer stands. -/
theorem State.Takes.attached {state next : State} {token : Token}
    (takes : state.Takes token next)
    (short : Text.byteLength state.lexer.source < UInt32.size) : next.Attached := by
  rcases takes.cases with ⟨_, ⟨following, further, shorter, pulled, rfl⟩ |
    ⟨further, notLonger, pulled, rfl⟩⟩
  · rintro _ ⟨⟩
    exact Lexer.endsAt_of_next short pulled
  · exact attached_of_none rfl

/-! ## What a production leaves -/

/--
What a production can leave: the state after some tokens, or the one in which the
lexer rejects the text behind a token.
-/
inductive State.Drifts (state : State) : State → Prop where
  | advanced {next : State} (advances : state.Advances next) : state.Drifts next
  | starved {last next : State} {diagnostic : Diagnostic} (advances : state.Advances last)
      (starves : last.Starves diagnostic next) : state.Drifts next

section Drifts

variable {state next : State}

/-- Taking a token keeps the file that sources are read under. -/
theorem State.Takes.file_eq {token : Token} (takes : state.Takes token next) :
    next.file = state.file := by
  rcases takes.cases with ⟨_, ⟨following, further, shorter, pulled, rfl⟩ |
    ⟨further, notLonger, pulled, rfl⟩⟩
  · rfl
  · rfl

theorem State.Advances.file_eq (advances : state.Advances next) : next.file = state.file := by
  induction advances with
  | refl => rfl
  | tail _ last inductionHypothesis =>
      rcases last with ⟨token, takes⟩
      rw [takes.file_eq, inductionHypothesis]

/-- Either no token is taken, or the one looked at in the end belongs to the lexer. -/
theorem State.Advances.eq_or_attached (advances : state.Advances next)
    (short : Text.byteLength state.lexer.source < UInt32.size) :
    next = state ∨ next.Attached := by
  cases advances with
  | refl => exact .inl rfl
  | tail earlier last =>
      rcases last with ⟨token, takes⟩
      have same : Text.byteLength _ < UInt32.size := State.Advances.source_eq earlier ▸ short
      exact .inr (takes.attached same)

/-- A state starves where the lexer rejects the text behind the token looked at. -/
theorem State.Starves.cases {diagnostic : Diagnostic} (starves : state.Starves diagnostic next) :
    ∃ further notLonger, state.lexer.next = .rejected diagnostic further notLonger ∧
      next = ⟨further, none, state.file⟩ := by
  cases held : state.lookahead with
  | none =>
      have blocks := starves.blocks
      rw [State.blocked, held] at blocks
      cases blocks
  | some token =>
      have outcome := State.outcome_advance held
      rw [starves.fails, Reply.outcome] at outcome
      cases pulled : state.lexer.next <;>
        simp only [pulled, Outcome.mk.injEq, reduceCtorEq, false_and,
          Except.error.injEq] at outcome
      rcases outcome with ⟨rfl, rfl⟩
      exact ⟨_, _, rfl, rfl⟩

/-- A production never moves the lexer back. -/
theorem State.Drifts.precedes (drifts : state.Drifts next) :
    state.lexer.Precedes next.lexer := by
  cases drifts with
  | advanced advances => exact advances.precedes
  | @starved last _ _ advances starves =>
      have before := last.lexer.precedes_next
      rcases starves.cases with ⟨further, notLonger, pulled, rfl⟩
      rw [pulled] at before
      exact advances.precedes.trans before

theorem State.Drifts.source_eq (drifts : state.Drifts next) :
    next.lexer.source = state.lexer.source :=
  drifts.precedes.source_eq

theorem State.Drifts.file_eq (drifts : state.Drifts next) : next.file = state.file := by
  cases drifts with
  | advanced advances => exact advances.file_eq
  | starved advances starves =>
      rcases starves.cases with ⟨further, notLonger, pulled, rfl⟩
      exact advances.file_eq

/-- A production leaves its state as it was, or one whose token belongs to the lexer. -/
theorem State.Drifts.eq_or_attached (drifts : state.Drifts next)
    (short : Text.byteLength state.lexer.source < UInt32.size) :
    next = state ∨ next.Attached := by
  cases drifts with
  | advanced advances => exact advances.eq_or_attached short
  | starved advances starves => exact .inr (attached_of_none starves.emptied)

variable {α : Type} {bound : Nat}

/-- A production that follows the machine only takes tokens. -/
theorem Performs.drifts {goal : Machine.Goal} {leaves : α → Bool → Prop}
    {reply : Reply α bound} (performs : Performs goal state leaves reply)
    (genuine : state.Genuine) :
    state.Drifts reply.outcome.next := by
  have followed := performs false genuine
  cases reply with
  | ok value next lighter => exact .advanced followed.1
  | fail diagnostic next =>
      rcases followed with ⟨last, advances, stops⟩
      rcases stops [] with ⟨control, _, explains⟩
      cases explains with
      | refused => exact .advanced advances
      | starved _ starves => exact .starved advances starves

/-- Taking a token that is looked at, or none. -/
theorem advance_drifts (state : State) : state.Drifts state.advance.outcome.next := by
  cases held : state.lookahead with
  | none =>
      rw [State.advance_of_none held]
      exact .advanced .refl
  | some token =>
      rcases State.takes_or_starves held with ⟨next, takes⟩ | ⟨diagnostic, next, starves⟩
      · have single : state.Advances next := .single ⟨token, takes⟩
        rcases takes with ⟨lighter, equation⟩
        rw [equation]
        exact .advanced single
      · rw [starves.fails]
        exact .starved .refl starves

theorem expect_drifts (state : State) (kind : Kind) :
    state.Drifts (state.expect kind).outcome.next := by
  unfold State.expect
  split
  · exact .advanced .refl
  · split
    · exact advance_drifts state
    · exact .advanced .refl

/-- Every production only takes tokens. -/
theorem produce_drifts (production : Production) (genuine : state.Genuine) :
    state.Drifts (produce production state : Outcome Tree).next := by
  rcases produce_performs production state with ⟨leaves, bound, reply, equation, performs, _⟩
  rw [equation]
  exact performs.drifts genuine

end Drifts

/-! ## What a request leaves -/

/-- A state of a parser that reads sources under a file, none of them too long for spans. -/
structure State.Fits (file : Option String) (state : State) : Prop where
  short : Text.byteLength state.lexer.source < UInt32.size
  file_eq : state.file = file
  genuine : state.Genuine

theorem State.fits_initial (file : Option String) : State.Fits file (.initial file) :=
  ⟨Nat.zero_lt_succ _, rfl, genuine_of_none rfl⟩

/-- What a request can do to the token looked at and the lexer. -/
inductive State.Answered (state : State) (request : Request) : State → Prop where
  | unmoved : state.Answered request state
  | attached {next : State} (attached : next.Attached) : state.Answered request next
  /-- The lexer is replaced, and no token of the new source is looked at. -/
  | rejected {source : String} {diagnostic : Diagnostic} {place : Lexer}
      {notLonger : place.rest.length ≤ (Lexer.start source state.file).rest.length}
      (asked : request = .parse source)
      (refuses : (Lexer.start source state.file).next = .rejected diagnostic place notLonger) :
      state.Answered request { state with lexer := place }

section Requests

variable {state : State} {file : Option String}

/-- A source is loaded with its first token, or its first character is rejected. -/
theorem load_cases (state : State) {source : String} (short : source.utf8ByteSize < 2 ^ 32) :
    (∃ diagnostic place notLonger,
      (Lexer.start source state.file).next = .rejected diagnostic place notLonger ∧
        load state source = ⟨.error diagnostic, { state with lexer := place }⟩) ∨
    ∃ loaded, load state source = ⟨.ok (), loaded⟩ ∧ loaded.Attached ∧
      loaded.lexer.source = source.toList ∧ loaded.file = state.file := by
  have size : Text.byteLength (Lexer.start source state.file).source < UInt32.size :=
    Text.byteLength_toList_lt short
  have same := (Lexer.start source state.file).source_next
  unfold load
  cases pulled : (Lexer.start source state.file).next with
  | token first further shorter =>
      rw [pulled] at same
      refine .inr ⟨_, rfl, ?_, same, rfl⟩
      rintro _ ⟨⟩
      exact Lexer.endsAt_of_next size pulled
  | finished further notLonger =>
      rw [pulled] at same
      exact .inr ⟨_, rfl, State.attached_of_none rfl, same, rfl⟩
  | rejected diagnostic place notLonger =>
      exact .inl ⟨diagnostic, place, notLonger, rfl, rfl⟩

/-- A request other than for a source only takes tokens. -/
theorem respond_drifts {request : Request} (genuine : state.Genuine)
    (notParse : ∀ source, request ≠ .parse source) :
    state.Drifts (respond request state : Outcome (Answer Tree)).next := by
  cases request with
  | parse source => exact absurd rfl (notParse source)
  | produce production => exact produce_drifts production genuine
  | statements stop => exact ((allStatements_perform state).1 stop _ _).drifts genuine
  | advance => exact advance_drifts state
  | expect kind => exact expect_drifts state kind

/-- A source is started on with a token that belongs to the lexer, or it is rejected. -/
theorem parseFrom_answered {source : String} (fits : state.Fits file)
    (short : source.utf8ByteSize < 2 ^ 32) :
    state.Answered (.parse source) (parseFrom state source : Outcome Tree).next ∧
      Text.byteLength (parseFrom state source : Outcome Tree).next.lexer.source < UInt32.size ∧
        (parseFrom state source : Outcome Tree).next.file = file := by
  have size : Text.byteLength source.toList < UInt32.size := Text.byteLength_toList_lt short
  have genuine := load_genuine fits.genuine source
  unfold parseFrom
  rcases load_cases state short with
    ⟨diagnostic, place, notLonger, refuses, equation⟩ |
    ⟨loaded, equation, attached, source_eq, file_eq⟩
  · have same := (Lexer.start source state.file).source_next
    rw [refuses] at same
    rw [equation]
    exact ⟨.rejected rfl refuses, lt_of_eq_of_lt (congrArg Text.byteLength same) size, fits.file_eq⟩
  · rw [equation] at genuine ⊢
    have drifts := produce_drifts .program genuine
    have shortLoaded : Text.byteLength loaded.lexer.source < UInt32.size := source_eq ▸ size
    refine ⟨.attached ?_, drifts.source_eq ▸ shortLoaded, ?_⟩
    · rcases drifts.eq_or_attached shortLoaded with same | attachedAfter
      · rw [same]
        exact attached
      · exact attachedAfter
    · exact drifts.file_eq.trans (file_eq.trans fits.file_eq)

/-- One request parts the token looked at and the lexer only where it rejects a source. -/
theorem respond_answered {request : Request} (fits : state.Fits file)
    (short : ∀ source, request = .parse source → source.utf8ByteSize < 2 ^ 32) :
    state.Answered request (respond request state : Outcome (Answer Tree)).next ∧
      (respond request state : Outcome (Answer Tree)).next.Fits file := by
  have genuine := (respond_agrees request fits.genuine).genuine
  by_cases parses : ∃ source, request = .parse source
  · rcases parses with ⟨source, rfl⟩
    rcases parseFrom_answered fits (short source rfl) with ⟨answered, shortAfter, file_eq⟩
    exact ⟨answered, shortAfter, file_eq, genuine⟩
  · have drifts := respond_drifts fits.genuine (not_exists.1 parses)
    refine ⟨?_, drifts.source_eq ▸ fits.short, drifts.file_eq.trans fits.file_eq, genuine⟩
    rcases drifts.eq_or_attached fits.short with same | attached
    · rw [same]
      exact .unmoved
    · exact .attached attached

end Requests

/-! ## Sessions -/

/-- The state that a parser of a mode is in after some requests. -/
def stateIn (mode : Mode) (file : Option String) (requests : List Request) : State :=
  match mode with
  | .tree => stateAfter Tree (State.initial file) requests
  | .list => stateAfter SExpr (State.initial file) requests

/-- The modes go through the same states. -/
theorem stateIn_eq (mode : Mode) (file : Option String) (requests : List Request) :
    stateIn mode file requests = stateAfter Tree (State.initial file) requests := by
  cases mode with
  | tree => rfl
  | list => exact (stateAfter_agrees (State.genuine_of_none rfl) requests).1.symm

/-- One more request is answered in the state that the others lead to. -/
theorem stateIn_append (mode : Mode) (file : Option String) (requests : List Request)
    (request : Request) :
    stateIn mode file (requests ++ [request]) =
      (respond request (stateIn mode file requests) : Outcome (Answer Tree)).next := by
  rw [stateIn_eq, stateIn_eq, stateAfter, List.foldl_append]
  rfl

/--
The lexer of a state was replaced by that of a source whose first character no rule
accepts, and nothing else changed since.
-/
inductive Replaced (mode : Mode) (file : Option String) : List Request → State → Prop where
  | rejected {earlier later : List Request} {source : String} {diagnostic : Diagnostic}
      {place : Lexer} {notLonger : place.rest.length ≤ (Lexer.start source file).rest.length}
      (refuses : (Lexer.start source file).next = .rejected diagnostic place notLonger) :
      Replaced mode file (earlier ++ .parse source :: later)
        { stateIn mode file earlier with lexer := place }

/-- What was left by a rejection stays left as long as nothing moves. -/
theorem Replaced.append {mode : Mode} {file : Option String} {requests : List Request}
    {state : State} (replaced : Replaced mode file requests state) (request : Request) :
    Replaced mode file (requests ++ [request]) state := by
  cases replaced with
  | rejected refuses =>
      rw [List.append_assoc, List.cons_append]
      exact .rejected refuses

/-- What holds after any requests, by what each of them keeps. -/
theorem attached_or_replaced (mode : Mode) (file : Option String) {requests : List Request}
    (short : ∀ source, .parse source ∈ requests → source.utf8ByteSize < 2 ^ 32) :
    (stateIn mode file requests).Fits file ∧
      ((stateIn mode file requests).Attached ∨
        Replaced mode file requests (stateIn mode file requests)) := by
  induction requests using List.reverseRecOn with
  | nil =>
      rw [stateIn_eq]
      exact ⟨State.fits_initial file, .inl (State.attached_of_none rfl)⟩
  | append_singleton requests request inductionHypothesis =>
      rcases inductionHypothesis fun source member =>
        short source (List.mem_append_left [request] member) with ⟨fits, before⟩
      have shortLast : ∀ source, request = .parse source → source.utf8ByteSize < 2 ^ 32 := by
        rintro source rfl
        exact short source (List.mem_append_right requests List.mem_cons_self)
      rcases respond_answered fits shortLast with ⟨answered, fitsAfter⟩
      rw [stateIn_append]
      refine ⟨fitsAfter, ?_⟩
      generalize (respond request (stateIn mode file requests) : Outcome (Answer Tree)).next =
        next at answered
      cases answered with
      | unmoved => exact before.imp_right fun replaced => replaced.append request
      | attached attached => exact .inl attached
      | rejected asked refuses =>
          rw [fits.file_eq] at refuses
          rw [asked]
          exact .inr (.rejected refuses)

/-- A token that ends elsewhere does not belong to the lexer. -/
theorem State.not_attached {state : State} {token : Token} (held : state.lookahead = some token)
    (differs : token.span.stop.toNat ≠ state.lexer.offset) : ¬state.Attached := by
  intro attached
  exact differs (attached token held).stop_eq

/--
After any requests, failed ones included, the token looked at is the text in front of
the lexer's place; or the lexer was replaced by one of a source that was rejected at
its first character, and the parser has not moved since.
-/
theorem lookahead_attached_unless_replaced (mode : Mode) (file : Option String)
    {requests : List Request}
    (short : ∀ source, .parse source ∈ requests → source.utf8ByteSize < 2 ^ 32) :
    (stateIn mode file requests).Attached ∨
      Replaced mode file requests (stateIn mode file requests) :=
  (attached_or_replaced mode file short).2

/-- A session goes on with a replaced lexer through a request that takes nothing. -/
theorem replaced_until_token_taken :
    Replaced .list none [.parse "1 2", .parse " @", .expect .semicolon]
      (stateIn .list none [.parse "1 2", .parse " @", .expect .semicolon]) := by
  have held : (stateIn .list none [.parse "1 2", .parse " @", .expect .semicolon]).lookahead =
      some ⟨.number, "2", ⟨2, 3, "shell"⟩⟩ := by
    decide +kernel
  have differs : ((3 : UInt32).toNat) ≠
      (stateIn .list none [.parse "1 2", .parse " @", .expect .semicolon]).lexer.offset := by
    decide +kernel
  apply (lookahead_attached_unless_replaced .list none ?_).resolve_left
    (State.not_attached held differs)
  intro source member
  simp only [List.mem_cons, Request.parse.injEq, reduceCtorEq, List.not_mem_nil, or_false] at member
  rcases member with rfl | rfl <;> decide +kernel

/-- The token of a source that was refused is looked at while the lexer holds the next one. -/
theorem rejected_source_keeps_token :
    (stateIn .tree none [.parse "1 2", .parse "@"]).lookahead =
        some ⟨.number, "2", ⟨2, 3, "shell"⟩⟩ ∧
      (stateIn .tree none [.parse "1 2", .parse "@"]).lexer.source = ['@'] ∧
        ¬(stateIn .tree none [.parse "1 2", .parse "@"]).Attached := by
  have held : (stateIn .tree none [.parse "1 2", .parse "@"]).lookahead =
      some ⟨.number, "2", ⟨2, 3, "shell"⟩⟩ := by
    decide +kernel
  exact ⟨held, by decide +kernel, State.not_attached held (by decide +kernel)⟩

end Parser

end Script
