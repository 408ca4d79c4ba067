import Script.Proofs.Lookahead

/-!
# Where a failed request leaves a parser

A request that fails leaves a state behind, and the next request goes on from there.
Whichever production fails, and however deep inside it, the parser stops at what the
diagnostic is about: the refused token is still looked at, or there is none to look at
because the source has ended or because the lexer stands before a character that no
rule accepts.  The diagnostic has the position of that state.

A number that has no value would be reported behind its token.  The lexer gives no such
number, so this never happens.
-/

namespace Script

/-! ## What is refused -/

namespace Machine

/-- What a refusal says about the kind that was looked at. -/
def Refusal.Blames (look : Option Kind) : Refusal → Prop
  | .kind expected => look ≠ some expected
  | .expression | .literal => ∀ kind, look = some kind → kind.isLiteral = false
  | .target => ∃ kind, look = some kind ∧ kind.isAssignment = true

/-- The machine refuses only what a refusal is about. -/
theorem Control.blames_of_refuse {control : Control} {look : Option Kind} {refusal : Refusal}
    (refuses : control.move look = .refuse refusal) : refusal.Blames look := by
  rcases control with ⟨assignable, _ | ⟨symbol, stack⟩⟩
  · cases refuses
  cases symbol with
  | take kind | keep kind =>
      simp only [Control.move] at refuses
      split at refuses <;> cases refuses
      next differs => exact differs
  | build build => cases refuses
  | goal goal =>
      simp only [Control.move] at refuses
      split at refuses <;> cases refuses
      next expands =>
        cases goal <;> simp only [Goal.expand] at expands
        all_goals
          repeat' split at expands
          all_goals
            cases expands <;> simp_all [Refusal.Blames]

end Machine

namespace Parser

open Machine

/-- A state looks at what a cause is about. -/
def State.Faces (state : State) : Cause → Prop
  | .unexpectedToken text expected =>
      ∃ token, state.lookahead = some token ∧ token.text = text ∧ token.kind.name ≠ expected
  | .unexpectedLiteral text =>
      ∃ token, state.lookahead = some token ∧ token.text = text ∧ token.kind.isLiteral = false
  | .invalidAssignmentTarget _ =>
      ∃ token, state.lookahead = some token ∧ token.kind.isAssignment = true
  | .unexpectedEndOfInput _ => state.lookahead = none
  | .unrecognisedToken text =>
      state.lookahead = none ∧ Rule.first? state.lexer.rest = none ∧
        ∃ character, state.lexer.rest.head? = some character ∧ text = String.singleton character
  | .numberParseError _ => False

/-- A request that was asked in a state has failed, and the parser has come to a stop. -/
structure StopsAt (state : State) (diagnostic : Diagnostic) (next : State) : Prop where
  /-- The state that is left has the position of the diagnostic. -/
  position_eq : next.position = diagnostic.position
  /-- It looks at what the diagnostic is about. -/
  faces : next.Faces diagnostic.cause
  /-- Only tokens before it have been taken. -/
  untaken : ∃ taken, state.pending = taken ++ next.pending

/-! ## One request where trees are built -/

section Stops

variable {state last next : State} {diagnostic : Diagnostic}

/-- The cause that is reported for a refusal is about the token looked at. -/
theorem Reports.faces {refusal : Refusal} {cause : Cause}
    (reports : Reports refusal state.lookahead cause) (blames : refusal.Blames state.kind?) :
    state.Faces cause := by
  generalize looks : state.lookahead = look at reports
  cases reports with
  | ended expected => exact looks
  | noExpression => exact looks
  | noLiteral => exact looks
  | otherKind expected token =>
      refine ⟨token, looks, rfl, ?_⟩
      intro same
      apply blames
      rw [kind?_of_lookahead looks, Kind.name_injective same]
  | notExpression token => exact ⟨token, looks, rfl, blames _ (kind?_of_lookahead looks)⟩
  | notLiteral token => exact ⟨token, looks, rfl, blames _ (kind?_of_lookahead looks)⟩
  | notAssignable token target =>
      rcases blames with ⟨kind, isKind, assigns⟩
      rw [kind?_of_lookahead looks, Option.some.injEq] at isKind
      exact ⟨token, looks, isKind ▸ assigns⟩

/-- The lexer stands before the character that it rejects. -/
theorem State.Starves.stopsAt (starves : state.Starves diagnostic next) :
    StopsAt state diagnostic next := by
  rcases starves.cases with ⟨further, notLonger, pulled, rfl⟩
  rcases state.lexer.exists_stops with ⟨place, _, stops⟩
  cases stops with
  | finished _ _ pulledPlace => cases pulled.symm.trans pulledPlace
  | token _ _ _ pulledPlace => cases pulled.symm.trans pulledPlace
  | @rejected character first refused _ pulledPlace =>
      cases pulled.symm.trans pulledPlace
      exact ⟨rfl, ⟨rfl, refused, character, first, rfl⟩, state.pending, (List.append_nil _).symm⟩

/-- Where the machine gets no further, the parser has stopped. -/
theorem Explains.stopsAt {control : Control} (explains : Explains control last diagnostic next) :
    StopsAt last diagnostic next := by
  cases explains with
  | refused refuses reports =>
      exact ⟨rfl, reports.faces (Control.blames_of_refuse refuses), [], rfl⟩
  | starved _ starves => exact starves.stopsAt

theorem StopsAt.of_advances (advances : state.Advances last)
    (stops : StopsAt last diagnostic next) : StopsAt state diagnostic next := by
  rcases advances.pending_eq with ⟨earlier, before⟩
  rcases stops.untaken with ⟨later, behind⟩
  refine ⟨stops.position_eq, stops.faces, earlier ++ later, ?_⟩
  rw [before, behind, List.append_assoc]

variable {α : Type} {bound : Nat}

/-- What follows the machine stops where the machine stops. -/
theorem Follows.stopsAt {assignable : Bool} {symbols : List Symbol} {leaves : α → Bool → Prop}
    {reply : Reply α bound} (follows : Follows assignable symbols state leaves reply)
    (genuine : state.Genuine) (fails : reply.outcome.answer = .error diagnostic) :
    StopsAt state diagnostic reply.outcome.next := by
  have followed := follows genuine
  cases reply with
  | ok value next lighter => cases fails
  | fail other next =>
      cases fails
      rcases followed with ⟨last, advances, stops⟩
      rcases stops [] with ⟨control, _, explains⟩
      exact explains.stopsAt.of_advances advances

/-- Where there is no token to take, the source has ended, or the lexer rejects what follows. -/
theorem advance_stopsAt (genuine : state.Genuine)
    (fails : state.advance.outcome.answer = .error diagnostic) :
    StopsAt state diagnostic state.advance.outcome.next := by
  cases looks : state.lookahead with
  | none =>
      rw [State.advance_of_none looks] at fails ⊢
      cases fails
      exact ⟨rfl, looks, [], rfl⟩
  | some token =>
      have follows : Follows false [.take token.kind] state (Keeps false) state.advance :=
        follows_advance (.inl rfl) (kind?_of_lookahead looks)
      exact follows.stopsAt genuine fails

theorem error_of_map {β : Type} {outcome : Outcome α} {change : α → β}
    (fails : (outcome.map change).answer = .error diagnostic) :
    outcome.answer = .error diagnostic := by
  rcases outcome with ⟨answer, next⟩
  cases answer with
  | ok value => cases fails
  | error other =>
      cases fails
      rfl

/-- Every request but one for a source stops at what its diagnostic is about. -/
theorem respond_stopsAt {request : Request} (genuine : state.Genuine)
    (notParse : ∀ source, request ≠ .parse source)
    (fails : (respond request state : Outcome (Answer Tree)).answer = .error diagnostic) :
    StopsAt state diagnostic (respond request state : Outcome (Answer Tree)).next := by
  cases request with
  | parse source => exact absurd rfl (notParse source)
  | produce production =>
      have failsInside := error_of_map fails
      rcases produce_performs production state with ⟨_, _, reply, equation, performs, _⟩
      rw [equation] at failsInside
      have stops := (performs false).stopsAt genuine failsInside
      rwa [← equation] at stops
  | statements stop =>
      exact ((allStatements_perform state).1 stop _ _ false).stopsAt genuine (error_of_map fails)
  | advance => exact advance_stopsAt genuine (error_of_map fails)
  | expect kind =>
      have follows : Follows false [.take kind] state (Keeps false) (state.expect kind) :=
        follows_take
      exact follows.stopsAt genuine (error_of_map fails)

/-- What a target is called in a message is no matter to where the parser stops. -/
theorem AgreeUpToTarget.stopsAt {other : Diagnostic} (agree : AgreeUpToTarget diagnostic other)
    (stops : StopsAt state diagnostic next) : StopsAt state other next := by
  rcases agree with ⟨samePosition, sameCause | ⟨target, otherTarget, ofFirst, ofSecond⟩⟩
  · exact ⟨samePosition ▸ stops.position_eq, sameCause ▸ stops.faces, stops.untaken⟩
  · have faces := stops.faces
    rw [ofFirst] at faces
    refine ⟨samePosition ▸ stops.position_eq, ?_, stops.untaken⟩
    rw [ofSecond]
    exact faces

end Stops

/-! ## Sessions -/

/-- What a request comes to in a mode, without what it answers. -/
def respondIn (mode : Mode) (request : Request) (state : State) : Outcome Unit :=
  match mode with
  | .tree => (respond request state : Outcome (Answer Tree)).map fun _ => ()
  | .list => (respond request state : Outcome (Answer SExpr)).map fun _ => ()

/-- The modes fail together, and leave one state. -/
theorem respondIn_fails {mode : Mode} {request : Request} {state : State}
    {diagnostic : Diagnostic} (genuine : state.Genuine)
    (fails : (respondIn mode request state).answer = .error diagnostic) :
    (respondIn mode request state).next =
        (respond request state : Outcome (Answer Tree)).next ∧
      ∃ reported, (respond request state : Outcome (Answer Tree)).answer = .error reported ∧
        AgreeUpToTarget reported diagnostic := by
  cases mode with
  | tree => exact ⟨rfl, diagnostic, error_of_map fails, .refl diagnostic⟩
  | list =>
      have agrees := respond_agrees request genuine
      refine ⟨agrees.next_eq.symm, ?_⟩
      have answers := agrees.answers
      rw [error_of_map fails] at answers
      generalize (respond request state : Outcome (Answer Tree)).answer = answer at answers
      cases answers with
      | @error reported _ agree => exact ⟨reported, rfl, agree⟩

/--
A request that fails, in either mode and after any other requests, stops at what its
diagnostic is about and has taken nothing but the tokens before it.
-/
theorem failed_request_stops_at_fault (mode : Mode) (file : Option String)
    (earlier : List Request) {request : Request} {diagnostic : Diagnostic}
    (notParse : ∀ source, request ≠ .parse source)
    (fails : (respondIn mode request (stateIn mode file earlier)).answer = .error diagnostic) :
    StopsAt (stateIn mode file earlier) diagnostic
      (respondIn mode request (stateIn mode file earlier)).next := by
  have genuine : (stateIn mode file earlier).Genuine := by
    rw [stateIn_eq]
    exact (stateAfter_agrees (State.genuine_of_none rfl) earlier).2
  rcases respondIn_fails genuine fails with ⟨next_eq, reported, failsAsTree, agree⟩
  rw [next_eq]
  exact agree.stopsAt (respond_stopsAt genuine notParse failsAsTree)

/--
A production stops at an operator deep inside it; and where the token of one source is
taken although the lexer holds another one, the parser stops at what the lexer rejects.
-/
theorem sessions_stop_at_faults :
    StopsAt (stateIn .tree none [.parse ") a[1 = 2]", .advance])
        ⟨.invalidAssignmentTarget "NumericLiteral", ⟨6, "shell"⟩⟩
        (respondIn .tree (.produce .member)
          (stateIn .tree none [.parse ") a[1 = 2]", .advance])).next ∧
      StopsAt (stateIn .list none [.parse "1 2", .parse " @"])
        ⟨.unrecognisedToken "@", ⟨1, "shell"⟩⟩
        (respondIn .list .advance (stateIn .list none [.parse "1 2", .parse " @"])).next := by
  have misassigned : (respondIn .tree (.produce .member)
      (stateIn .tree none [.parse ") a[1 = 2]", .advance])).answer =
      .error ⟨.invalidAssignmentTarget "NumericLiteral", ⟨6, "shell"⟩⟩ := by
    decide +kernel
  have rejected : (respondIn .list .advance
      (stateIn .list none [.parse "1 2", .parse " @"])).answer =
      .error ⟨.unrecognisedToken "@", ⟨1, "shell"⟩⟩ := by
    decide +kernel
  constructor
  · exact failed_request_stops_at_fault .tree none _ (by simp) misassigned
  · exact failed_request_stops_at_fault .list none _ (by simp) rejected

end Parser

end Script
