import Script.Proofs.Scan

/-!
# Where tokens lie

The tokens of a source lie one after the other, each takes at least one byte, and
what stops the lexer lies behind all of them.  Spans hold offsets in 32 bits, so
this is said of sources that have fewer than `2 ^ 32` bytes.
-/

namespace Script

/-- Tokens lie one after the other between two offsets, and none is empty. -/
inductive InOrder : Nat → List Token → Nat → Prop where
  | nil {start stop : Nat} (ordered : start ≤ stop) : InOrder start [] stop
  | cons {start stop : Nat} {token : Token} {others : List Token}
      (follows : start ≤ token.span.start.toNat)
      (nonempty : token.span.start.toNat < token.span.stop.toNat)
      (rest : InOrder token.span.stop.toNat others stop) :
      InOrder start (token :: others) stop

/-- Whether all of a token lies before a position. -/
def Token.liesBefore (position : Position) (token : Token) : Bool :=
  token.span.stop ≤ position.offset

namespace InOrder

variable {start stop : Nat} {tokens front back : List Token} {position : Position}

theorem le (ordered : InOrder start tokens stop) : start ≤ stop := by
  induction ordered with
  | nil ordered => exact ordered
  | cons follows nonempty _ inductionHypothesis => omega

theorem le_start (ordered : InOrder start tokens stop) {token : Token} (member : token ∈ tokens) :
    start ≤ token.span.start.toNat := by
  induction ordered with
  | nil => cases member
  | cons follows nonempty _ inductionHypothesis =>
      rcases List.mem_cons.1 member with rfl | later
      · exact follows
      · have behind := inductionHypothesis later
        omega

/-- No two tokens in a row start at one place. -/
theorem eq_of_start (ordered : InOrder start tokens stop) {token other : Token}
    (member : token ∈ tokens) (otherMember : other ∈ tokens)
    (same : other.span.start = token.span.start) : other = token := by
  induction ordered with
  | nil => cases member
  | cons follows nonempty rest inductionHypothesis =>
      rcases List.mem_cons.1 member with rfl | later
      · rcases List.mem_cons.1 otherMember with rfl | otherLater
        · rfl
        · have behind := rest.le_start otherLater
          rw [same] at behind
          omega
      · rcases List.mem_cons.1 otherMember with rfl | otherLater
        · have behind := rest.le_start later
          rw [← same] at behind
          omega
        · exact inductionHypothesis later otherLater

/-- Tokens in a row are the tokens of its first and of its second part. -/
theorem of_append (ordered : InOrder start (front ++ back) stop) :
    ∃ middle, InOrder start front middle ∧ InOrder middle back stop := by
  induction front generalizing start with
  | nil => exact ⟨start, .nil (Nat.le_refl _), ordered⟩
  | cons token others inductionHypothesis =>
      cases ordered with
      | cons follows nonempty rest =>
          rcases inductionHypothesis rest with ⟨middle, first, second⟩
          exact ⟨middle, .cons follows nonempty first, second⟩

/-- Tokens that end before a position lie before it. -/
theorem filter_eq_self (ordered : InOrder start tokens stop)
    (reaches : stop ≤ position.offset.toNat) :
    tokens.filter (Token.liesBefore position) = tokens := by
  induction ordered with
  | nil => rfl
  | cons follows nonempty rest inductionHypothesis =>
      have ends := rest.le
      rw [List.filter_cons_of_pos, inductionHypothesis reaches]
      rw [Token.liesBefore, decide_eq_true_eq, UInt32.le_iff_toNat_le]
      omega

/-- Tokens that start at a position or behind it do not lie before it. -/
theorem filter_eq_nil (ordered : InOrder start tokens stop)
    (reaches : position.offset.toNat ≤ start) :
    tokens.filter (Token.liesBefore position) = [] := by
  induction ordered with
  | nil => rfl
  | cons follows nonempty rest inductionHypothesis =>
      rw [List.filter_cons_of_neg, inductionHypothesis (by omega)]
      rw [Token.liesBefore, decide_eq_true_eq, UInt32.le_iff_toNat_le]
      omega

/-- The tokens before the start of a token are those that come before it. -/
theorem filter_start {token : Token} (ordered : InOrder start (front ++ token :: back) stop) :
    (front ++ token :: back).filter (Token.liesBefore token.start) = front := by
  rcases ordered.of_append with ⟨middle, ofFront, ofBack⟩
  cases ofBack with
  | cons follows nonempty rest =>
      have notBefore : ¬token.liesBefore token.start = true := by
        rw [Token.liesBefore, decide_eq_true_eq, UInt32.le_iff_toNat_le]
        exact Nat.not_le_of_lt nonempty
      have offset_eq : token.start.offset = token.span.start := rfl
      rw [List.filter_append, List.filter_cons_of_neg notBefore,
        ofFront.filter_eq_self (by rwa [offset_eq]),
        rest.filter_eq_nil (by rw [offset_eq]; omega), List.append_nil]

end InOrder

/-- The bytes of a text are those of its characters. -/
theorem Text.byteLength_toList (text : String) : byteLength text.toList = text.utf8ByteSize := by
  suffices ofCharacters : ∀ characters,
      byteLength characters = (String.ofList characters).utf8ByteSize by
    rw [ofCharacters, String.ofList_toList]
  intro characters
  induction characters with
  | nil => rfl
  | cons character rest inductionHypothesis =>
      rw [byteLength_cons, inductionHypothesis, String.ofList_cons, String.utf8ByteSize_append,
        String.utf8ByteSize_singleton]

/-- The places of a short text fit into a word. -/
theorem Text.byteLength_toList_lt {text : String} (short : text.utf8ByteSize < UInt32.size) :
    byteLength text.toList < UInt32.size := by
  rw [byteLength_toList]
  exact short

/-- A pattern that matches takes at least one byte. -/
theorem Pattern.byteLength_pos_of_extent? {pattern : Pattern} {text : List Char} {length : Nat}
    (found : pattern.extent? text = some length) : 0 < Text.byteLength (text.take length) := by
  have positive := pos_of_extent? found
  have within := le_length_of_extent? found
  cases text with
  | nil => exact absurd (Nat.lt_of_lt_of_le positive within) (Nat.lt_irrefl _)
  | cons first others =>
      cases length with
      | zero => exact absurd positive (Nat.lt_irrefl _)
      | succ shorter => exact Nat.add_pos_left first.utf8Size_pos _

namespace Lexer

/-- Where the tokens of a lexer end: at the end of the source, or where the lexer is stopped. -/
def limit (lexer : Lexer) : Nat :=
  match lexer.drain.failure with
  | none => Text.byteLength lexer.source
  | some diagnostic => diagnostic.position.offset.toNat

variable {lexer place : Lexer}

/-- A source cut where a lexer stands leaves what the lexer has left. -/
theorem dropBytes?_offset (lexer : Lexer) :
    Text.dropBytes? lexer.offset lexer.source = some lexer.rest := by
  rcases lexer.splits with ⟨behind, whole, size⟩
  rw [whole, ← size]
  exact Text.dropBytes?_append behind lexer.rest

theorem offset_le_byteLength (lexer : Lexer) :
    lexer.offset ≤ Text.byteLength lexer.source := by
  have whole := lexer.offset_add_byteLength
  omega

theorem toNat_offset (short : Text.byteLength lexer.source < UInt32.size) :
    lexer.offset.toUInt32.toNat = lexer.offset := by
  have within := lexer.offset_le_byteLength
  exact UInt32.toNat_ofNat_of_lt' (Nat.lt_of_le_of_lt within short)

theorem offset_lt_forward {rule : Rule} {length : Nat}
    (found : Rule.first? lexer.rest = some (rule, length)) :
    lexer.offset < (lexer.forward length).offset := by
  have taken := Pattern.byteLength_pos_of_extent? (Rule.extent?_of_first? found)
  simp only [forward]
  omega

/-- The lexer is stopped in front of a character of its source that no rule accepts. -/
theorem exists_place_of_drain {diagnostic : Diagnostic}
    (stopped : lexer.drain.failure = some diagnostic) :
    ∃ (place : Lexer) (character : Char), place.source = lexer.source ∧
      place.rest.head? = some character ∧
        diagnostic = ⟨.unrecognisedToken (String.singleton character), place.position⟩ := by
  fun_induction drain lexer with
  | case1 lexer token further shorter pulled others inductionHypothesis =>
      have same := lexer.source_next
      rw [pulled] at same
      rcases inductionHypothesis stopped with ⟨place, character, source_eq, rest⟩
      exact ⟨place, character, source_eq.trans same, rest⟩
  | case2 => cases stopped
  | case3 lexer rejection further notLonger pulled =>
      cases stopped
      rcases lexer.exists_stops with ⟨place, skips, stops⟩
      cases stops with
      | finished _ _ pulledPlace => cases pulled.symm.trans pulledPlace
      | token _ _ _ pulledPlace => cases pulled.symm.trans pulledPlace
      | @rejected character first _ _ pulledPlace =>
          cases pulled.symm.trans pulledPlace
          exact ⟨_, character, skips.precedes.source_eq, first, rfl⟩

theorem cause_of_drain {diagnostic : Diagnostic}
    (stopped : lexer.drain.failure = some diagnostic) :
    ∃ character, diagnostic.cause = .unrecognisedToken character := by
  rcases exists_place_of_drain stopped with ⟨place, character, _, _, rfl⟩
  exact ⟨_, rfl⟩

/-- The tokens of a lexer lie in order from where it stands to where they end. -/
theorem inOrder_drain (short : Text.byteLength lexer.source < UInt32.size) :
    InOrder lexer.offset lexer.drain.tokens lexer.limit := by
  induction steps : lexer.rest.length using Nat.strongRecOn generalizing lexer with
  | _ size inductionHypothesis =>
      rcases lexer.exists_stops with ⟨place, skips, stops⟩
      have precedes := skips.precedes
      have later := precedes.offset_le
      have shortPlace : Text.byteLength place.source < UInt32.size := precedes.source_eq ▸ short
      cases stops with
      | finished ended notLonger pulled =>
          rw [limit, drain_of_finished pulled]
          exact .nil lexer.offset_le_byteLength
      | rejected first refused notLonger pulled =>
          rw [limit, drain_of_rejected pulled]
          have stopped : place.position.offset.toNat = place.offset := toNat_offset shortPlace
          exact .nil (Nat.le_trans later (Nat.le_of_eq stopped.symm))
      | @token rule length kind found emits shorter pulled =>
          have ofOthers : InOrder (place.forward length).offset
              (place.forward length).drain.tokens (place.forward length).limit :=
            inductionHypothesis _ (steps ▸ shorter) shortPlace rfl
          have limit_eq : lexer.limit = (place.forward length).limit := by
            rw [limit, limit, drain_of_token pulled, ← precedes.source_eq]
            rfl
          rw [limit_eq, drain_of_token pulled]
          have moves := offset_lt_forward found
          have stops_eq : (place.tokenOf kind length).span.stop.toNat =
              (place.forward length).offset :=
            toNat_offset shortPlace
          have starts_eq : (place.tokenOf kind length).span.start.toNat = place.offset :=
            toNat_offset shortPlace
          refine .cons ?_ ?_ ?_
          · rwa [starts_eq]
          · rwa [starts_eq, stops_eq]
          · rwa [stops_eq]

end Lexer

end Script
