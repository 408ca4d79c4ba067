import Mathlib.Data.List.DropRight
import Script.Excerpt
import Script.Proofs.LexicalFailure
import Script.Proofs.LineColumn
import Script.Proofs.Strays

/-!
# The caret of an excerpt

The last two lines of an excerpt are a line of the source and a caret below it.  The line
has lost its indentation and the white space at its end, and both start with a margin that
is as wide as the number of the line.  Still the caret stands under the character that the
diagnostic is about, because that one is never white space, and behind the line where the
diagnostic is about the end of the source.

The layout sets no limit to the width of a line.
-/

namespace Script

namespace Excerpt

open Text

section Line

variable {line front back : List Char} {stop : Char}

/-! ## Shown lines -/

theorem isWhiteSpace_of_isIndent {character : Char} (indents : isIndent character = true) :
    isWhiteSpace character = true := by
  rw [isIndent, Bool.or_eq_true, decide_eq_true_eq, decide_eq_true_eq] at indents
  rcases indents with rfl | rfl <;> decide

/-- What indents a line is what its dedented form has lost. -/
theorem length_dedented (line : List Char) :
    (dedented line).length = line.length - indentation line := by
  have whole := congrArg List.length (List.takeWhile_append_dropWhile (p := isIndent) (l := line))
  rw [List.length_append] at whole
  rw [dedented, indentation]
  omega

theorem indentation_le (line : List Char) : indentation line ≤ line.length :=
  (List.takeWhile_prefix isIndent).length_le

/-- Indentation ends before a character that does not indent. -/
theorem indentation_append (stops : isIndent stop = false) (back : List Char) :
    indentation (front ++ stop :: back) = indentation front := by
  rw [indentation, indentation, List.takeWhile_append]
  split_ifs with all
  · simp [stops, all]
  · rfl

theorem dedented_append (stops : isIndent stop = false) (back : List Char) :
    dedented (front ++ stop :: back) = dedented front ++ stop :: back := by
  rw [dedented, dedented, List.dropWhile_append]
  split_ifs with none
  · simp [stops, List.isEmpty_iff.1 none]
  · rfl

/-- The white space at the end of a line comes behind what is not white space. -/
theorem trimmedEnd_append (visible : isWhiteSpace stop = false) (back : List Char) :
    trimmedEnd (front ++ stop :: back) = front ++ stop :: trimmedEnd back := by
  have stays : ¬isWhiteSpace stop = true := Bool.eq_false_iff.1 visible
  rw [trimmedEnd, trimmedEnd, List.reverse_append, List.reverse_cons, List.append_assoc,
    List.singleton_append, List.dropWhile_append]
  split_ifs with none
  · rw [List.dropWhile_cons_of_neg stays, List.isEmpty_iff.1 none]
    simp
  · simp

/-- The newline of a line is not shown. -/
theorem shownLine_of_body {body : List Char} (ofLine : line = body ∨ line = body ++ ['\n']) :
    shownLine line = shownLine body := by
  rcases ofLine with rfl | rfl
  · rfl
  · have white : isWhiteSpace '\n' = true := by decide
    rw [shownLine, dedented_append (by decide)]
    exact List.rdropWhile_concat_pos isWhiteSpace (dedented body) '\n' white

/-- The newline of a line does not indent it. -/
theorem indentation_of_body {body : List Char} (ofLine : line = body ∨ line = body ++ ['\n']) :
    indentation line = indentation body := by
  rcases ofLine with rfl | rfl
  · rfl
  · exact indentation_append (by decide) []

theorem length_shownLine_le (line : List Char) :
    (shownLine line).length ≤ line.length - indentation line := by
  rw [← length_dedented]
  exact (List.rdropWhile_prefix isWhiteSpace (dedented line)).length_le

theorem isIndent_of_visible (visible : isWhiteSpace stop = false) : isIndent stop = false := by
  rw [Bool.eq_false_iff]
  intro indents
  rw [isWhiteSpace_of_isIndent indents] at visible
  cases visible

/-- A character that is not white space is shown, as many columns in as it is dedented. -/
theorem getElem?_shownLine (visible : isWhiteSpace stop = false) (front back : List Char) :
    (shownLine (front ++ stop :: back))[front.length - indentation front]? = some stop := by
  rw [shownLine, dedented_append (isIndent_of_visible visible), trimmedEnd_append visible,
    ← length_dedented]
  simp

end Line

/-! ## The last two lines -/

/-- A line with its number in front. -/
def numbered (place : Place) : List Char :=
  Nat.toDigits 10 place.number ++ " | ".toList ++ shownLine place.line

/-- The caret with the margin in front. -/
def pointer (place : Place) : List Char :=
  margin place.number ++ [' '] ++ caret place

/-- The number of a line and the margin that takes its place are equally wide. -/
theorem idxOf_pointer (place : Place) :
    (pointer place).idxOf '^' = (Nat.toDigits 10 place.number ++ " | ".toList).length +
      (place.column - indentation place.line) := by
  have absent : '^' ∉ margin place.number ++ [' '] ++
      List.replicate (place.column - indentation place.line) '-' := by
    simp [margin]
  have width : " | ".toList.length = 3 := by decide
  rw [pointer, caret, ← List.append_assoc, List.idxOf_append, if_neg absent,
    List.idxOf_cons_self, Nat.zero_add]
  simp only [margin, List.length_append, List.length_replicate, List.length_singleton, width]

theorem count_pointer (place : Place) : (pointer place).count '^' = 1 := by
  simp [pointer, margin, caret, List.count_replicate]

/-- What the caret points at is shown behind the number of its line. -/
theorem getElem?_numbered (place : Place) (index : Nat) :
    (numbered place)[(Nat.toDigits 10 place.number ++ " | ".toList).length + index]? =
      (shownLine place.line)[index]? := by
  rw [numbered, List.getElem?_append_right (Nat.le_add_right _ _), Nat.add_sub_cancel_left]

theorem not_mem_pointer (place : Place) : '\n' ∉ pointer place := by
  simp [pointer, margin, caret]

theorem not_mem_toDigits (number : Nat) : '\n' ∉ Nat.toDigits 10 number := by
  intro member
  have digit := Nat.isDigit_of_mem_toDigits (by decide) (by decide) member
  cases digit

theorem not_mem_shownLine {line body : List Char} (plain : '\n' ∉ body)
    (ofLine : line = body ∨ line = body ++ ['\n']) : '\n' ∉ shownLine line := by
  rw [shownLine_of_body ofLine]
  intro isShown
  have ofDedented := (List.rdropWhile_prefix isWhiteSpace (dedented body)).subset isShown
  exact plain ((List.dropWhile_suffix isIndent).subset ofDedented)

/-- Two texts are the last two lines of a text. -/
def LastLines (text upper lower : List Char) : Prop :=
  ∃ before, CutAfterNewlines text (before ++ [upper ++ ['\n'], lower ++ ['\n']])

/-- Lines in front of a newline stay the same whatever follows. -/
theorem lines_append_newline (front back : List Char) :
    lines (front ++ '\n' :: back) = lines (front ++ ['\n']) ++ lines back := by
  induction front with
  | nil => simp [lines]
  | cons character rest inductionHypothesis =>
      rw [List.cons_append, List.cons_append, lines, lines, inductionHypothesis]
      split_ifs with isNewline
      · rfl
      · have nonempty : lines (rest ++ ['\n']) ≠ [] := by
          intro none
          have cut := cut_lines (rest ++ ['\n'])
          rw [none] at cut
          simpa using cut.eq_nil
        cases pieces : lines (rest ++ ['\n']) with
        | nil => exact absurd pieces nonempty
        | cons first others => rfl

theorem lastLines_of_plain {upper lower : List Char} (upperPlain : '\n' ∉ upper)
    (lowerPlain : '\n' ∉ lower) (heading : List Char) :
    LastLines (heading ++ '\n' :: (upper ++ '\n' :: (lower ++ ['\n']))) upper lower := by
  refine ⟨lines (heading ++ ['\n']), cut_iff.2 ?_⟩
  rw [lines_append_newline heading (upper ++ '\n' :: (lower ++ ['\n'])),
    lines_of_newline upperPlain, lines_of_newline lowerPlain]
  rfl

/-- A rendered diagnostic ends in the numbered line and in the caret. -/
theorem lastLines_render (diagnostic : Diagnostic) (source : String) {place : Place}
    (isPlace : Text.place source.toList diagnostic.position.offset.toNat = place)
    (plain : '\n' ∉ shownLine place.line) :
    LastLines (render diagnostic source).toList (numbered place) (pointer place) := by
  have numberedPlain : '\n' ∉ numbered place := by
    have absent := not_mem_toDigits place.number
    simp [numbered, absent, plain]
  have rendered : ∃ heading, (render diagnostic source).toList =
      heading ++ '\n' :: (numbered place ++ '\n' :: (pointer place ++ ['\n'])) := by
    refine ⟨("Error: " ++ diagnostic.cause.name ++ " (" ++ explanation diagnostic.cause
      ++ ")").toList ++ '\n' :: (("-> " ++ diagnostic.position.file).toList
        ++ '\n' :: margin place.number), ?_⟩
    simp [render, rows, isPlace, numbered, pointer]
  rcases rendered with ⟨heading, whole⟩
  rw [whole]
  exact lastLines_of_plain numberedPlain (not_mem_pointer place) heading

/-! ## Where the caret points -/

/-- The last two lines of an excerpt are a shown line and a caret that points into it. -/
structure Points (diagnostic : Diagnostic) (source : String) (shown pointing : List Char) :
    Prop where
  lastLines : LastLines (render diagnostic source).toList shown pointing
  /-- There is only one caret. -/
  single : pointing.count '^' = 1
  /-- It stands under the character that the diagnostic is about. -/
  character : diagnostic.position.offset.toNat < source.utf8ByteSize → ∃ first rest,
    dropBytes? diagnostic.position.offset.toNat source.toList = some (first :: rest) ∧
      shown[pointing.idxOf '^']? = some first
  /-- At the end of the source it stands behind all that is shown. -/
  ending : diagnostic.position.offset.toNat = source.utf8ByteSize →
    shown.length ≤ pointing.idxOf '^'
  /-- No column lies in the indentation that is taken away. -/
  indented : indentation (Text.place source.toList diagnostic.position.offset.toNat).line ≤
    (Text.place source.toList diagnostic.position.offset.toNat).column

variable {diagnostic : Diagnostic} {source : String}

/-- The caret stands under a character that is not white space. -/
theorem points_inside {front rest : List Char} {first : Char}
    (whole : source.toList = front ++ first :: rest)
    (visible : isWhiteSpace first = false)
    (offset_eq : diagnostic.position.offset.toNat = byteLength front) :
    ∃ shown pointing, Points diagnostic source shown pointing := by
  rcases exists_place whole (by simp) with
    ⟨before, head, tail, after, split, ends, ofFront, ofBack, counted, place_eq⟩
  rw [← offset_eq] at place_eq
  -- The line goes on with the character behind the column.
  rcases List.append_eq_cons_iff.1 ofBack.symm with ⟨rfl, _⟩ | ⟨behind, rfl, _⟩
  · exact absurd rfl ends
  have stops : isIndent first = false := isIndent_of_visible visible
  have ofLine : head ++ first :: behind ∈ lines source.toList := by
    rw [split]
    simp
  rcases (cut_lines source.toList).exists_body ofLine with ⟨body, plain, ofBody⟩
  have size := Text.byteLength_toList source
  rw [whole] at size
  refine ⟨_, _, lastLines_render diagnostic source place_eq (not_mem_shownLine plain ofBody),
    count_pointer _, ?_, ?_, ?_⟩
  · intro inside
    refine ⟨first, rest, ?_, ?_⟩
    · rw [offset_eq, whole]
      exact dropBytes?_append front (first :: rest)
    · rw [idxOf_pointer, getElem?_numbered, indentation_append stops]
      exact getElem?_shownLine visible head behind
  · intro atEnd
    have more : byteLength front < byteLength (front ++ first :: rest) :=
      byteLength_lt_append (List.cons_ne_nil first rest)
    omega
  · rw [place_eq, indentation_append stops]
    exact indentation_le head

/-- The caret stands behind the last line. -/
theorem points_past (atEnd : diagnostic.position.offset.toNat = source.utf8ByteSize) :
    ∃ shown pointing, Points diagnostic source shown pointing := by
  have placed : ∃ number line body, '\n' ∉ body ∧ (line = body ∨ line = body ++ ['\n']) ∧
      Text.place source.toList diagnostic.position.offset.toNat =
        ⟨number, line, body.length⟩ := by
    by_cases empty : source.toList = []
    · exact ⟨1, [], [], by simp, .inl rfl, by rw [empty]; rfl⟩
    · have past := Nat.le_of_eq ((Text.byteLength_toList source).trans atEnd.symm)
      rcases exists_place_past empty past with ⟨before, line, body, _, plain, ofLine, place_eq⟩
      exact ⟨_, line, body, plain, ofLine, place_eq⟩
  rcases placed with ⟨number, line, body, plain, ofLine, place_eq⟩
  have indents := indentation_of_body ofLine
  refine ⟨_, _, lastLines_render diagnostic source place_eq (not_mem_shownLine plain ofLine),
    count_pointer _, ?_, ?_, ?_⟩
  · intro inside
    omega
  · intro _
    have shorter := length_shownLine_le body
    rw [idxOf_pointer, numbered, List.length_append, shownLine_of_body ofLine, indents]
    exact Nat.add_le_add_left shorter _
  · rw [place_eq, indents]
    exact indentation_le body

end Excerpt

/-! ## What diagnostics are about -/

/-- An offset lies in front of a character that is not white space. -/
def Text.VisibleAt (text : List Char) (offset : Nat) : Prop :=
  ∃ front first rest, text = front ++ first :: rest ∧ byteLength front = offset ∧
    isWhiteSpace first = false

namespace Lexer

variable {lexer place : Lexer}

/-- Where a pull stops before the end, a character stands that is not white space. -/
theorem Stops.visibleAt (stops : lexer.Stops place)
    (short : Text.byteLength place.source < UInt32.size) (more : place.rest ≠ []) :
    Text.VisibleAt place.source place.position.offset.toNat := by
  rcases List.exists_cons_of_ne_nil more with ⟨first, rest, whole⟩
  rcases place.splits with ⟨behind, splits, size⟩
  have offset_eq : place.position.offset.toNat = place.offset := toNat_offset short
  refine ⟨behind, first, rest, by rw [splits, whole], by rw [size, offset_eq], ?_⟩
  exact stops.visible first (by simp [whole])

/-- No token of a lexer starts with white space, and no white space stops the lexer. -/
theorem visibleAt_drain (short : Text.byteLength lexer.source < UInt32.size) :
    (∀ token ∈ lexer.drain.tokens, Text.VisibleAt lexer.source token.start.offset.toNat) ∧
      ∀ diagnostic, lexer.drain.failure = some diagnostic →
        Text.VisibleAt lexer.source diagnostic.position.offset.toNat := by
  induction steps : lexer.rest.length using Nat.strongRecOn generalizing lexer with
  | _ size inductionHypothesis =>
      rcases lexer.exists_stops with ⟨place, skips, stops⟩
      have source_eq := skips.precedes.source_eq
      have shortPlace : Text.byteLength place.source < UInt32.size := source_eq ▸ short
      have visibleAt := stops.visibleAt shortPlace
      rw [← source_eq]
      cases stops with
      | finished ended notLonger pulled =>
          rw [drain_of_finished pulled]
          simp
      | rejected first refused notLonger pulled =>
          rw [drain_of_rejected pulled]
          refine ⟨by simp, ?_⟩
          rintro diagnostic ⟨⟩
          apply visibleAt
          rintro ended
          simp [ended] at first
      | @token rule length kind found emits shorter pulled =>
          have ofOthers := @inductionHypothesis _ (steps ▸ shorter) (place.forward length)
            shortPlace rfl
          rw [drain_of_token pulled]
          refine ⟨?_, ofOthers.2⟩
          rintro token (_ | ⟨_, member⟩)
          · apply visibleAt
            rintro ended
            have within := Rule.le_length_of_first? found
            have positive := Rule.pos_of_first? found
            rw [ended, List.length_nil] at within
            omega
          · exact ofOthers.1 token member

end Lexer

/-- A diagnostic is about a character that is not white space, or about the end. -/
theorem Parser.Wrong.visibleAt {source : Lexer} {diagnostic : Diagnostic}
    (short : Text.byteLength source.source < UInt32.size) (wrong : Wrong source diagnostic) :
    Text.VisibleAt source.source diagnostic.position.offset.toNat ∨
      diagnostic.position.offset.toNat = Text.byteLength source.source := by
  have visible := Lexer.visibleAt_drain short
  cases wrong with
  | text stopped viable => exact .inl (visible.2 diagnostic stopped)
  | @token cause token front back tokens_eq grammatical notEnd viable dead =>
      exact .inl (visible.1 token (by simp [tokens_eq]))
  | ending expected complete atEnd viable unfinished =>
      right
      rw [atEnd]
      exact UInt32.toNat_ofNat_of_lt' short

section Source

variable {source : String} {file : Option String} {diagnostic : Diagnostic}

/-- Both modes refuse a source at such a place, and so do its tokens. -/
theorem visibleAt_of_error (short : source.utf8ByteSize < 2 ^ 32)
    (fails : tokenize source file = .error diagnostic ∨
      ∃ mode, parse mode source file = .error diagnostic) :
    Text.VisibleAt source.toList diagnostic.position.offset.toNat ∨
      diagnostic.position.offset.toNat = source.utf8ByteSize := by
  have size : Text.byteLength (Lexer.start source file).source < UInt32.size :=
    Text.byteLength_toList_lt short
  rcases fails with fails | ⟨mode, fails⟩
  · exact .inl ((Lexer.visibleAt_drain size).2 diagnostic (tokenize_eq_error_iff.1 fails))
  · have agree := Parser.parse_agrees_with_tree mode source file
    rw [fails] at agree
    generalize answers : (Parser.parse source file : Except Diagnostic Tree) = answer at agree
    cases agree with
    | error agree =>
        rw [← agree.1, ← Text.byteLength_toList]
        exact (Parser.wrong_of_parse answers).visibleAt size

/--
The caret of a rendered diagnostic points at the character of the source that the
diagnostic is about, or behind the last line where it is about the end of the source.  The
column of the diagnostic never lies in the indentation that the excerpt takes away.
-/
theorem caret_points_at_fault (short : source.utf8ByteSize < 2 ^ 32)
    (fails : tokenize source file = .error diagnostic ∨
      ∃ mode, parse mode source file = .error diagnostic) :
    diagnostic.position.offset.toNat ≤ source.utf8ByteSize ∧
      ∃ shown pointing, Excerpt.Points diagnostic source shown pointing := by
  rcases visibleAt_of_error short fails with ⟨front, first, rest, whole, size, visible⟩ | atEnd
  · refine ⟨?_, Excerpt.points_inside whole visible size.symm⟩
    rw [← size, ← Text.byteLength_toList, whole, Text.byteLength_append]
    exact Nat.le_add_right _ _
  · exact ⟨Nat.le_of_eq atEnd, Excerpt.points_past atEnd⟩

end Source

/--
The caret points at a stray character behind a string of two lines, in an indented line, and
behind the line where a comment ends the source too early.
-/
theorem indented_faults_pointed_at :
    (∃ shown pointing, Excerpt.Points ⟨.unrecognisedToken "#", ⟨19, "shell"⟩⟩
      "x = 'a\nb';\n\t  'é' #\n" shown pointing) ∧
    ∃ shown pointing, Excerpt.Points ⟨.unexpectedEndOfInput ")", ⟨13, "shell"⟩⟩
      "if (x\n  // ü" shown pointing := by
  have stray : tokenize "x = 'a\nb';\n\t  'é' #\n" none =
      .error ⟨.unrecognisedToken "#", ⟨19, "shell"⟩⟩ :=
    tokenize_eq_error_iff.2 (by decide +kernel)
  have ended : (Parser.parse "if (x\n  // ü" none : Except Diagnostic Tree) =
      .error ⟨.unexpectedEndOfInput ")", ⟨13, "shell"⟩⟩ := by
    decide +kernel
  constructor
  · exact (caret_points_at_fault (by decide +kernel) (.inl stray)).2
  · exact (caret_points_at_fault (by decide +kernel)
      (.inr ⟨.tree, congrArg (Except.map Output.tree) ended⟩)).2

end Script
