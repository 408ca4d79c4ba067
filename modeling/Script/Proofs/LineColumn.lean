import Mathlib.Data.List.Basic
import Script.Text.Lines

/-!
# Lines and columns stand for offsets

A byte offset between two characters of a source is shown as a line number, a line and a
column.  The lines in front of that line and the characters in front of that column are
exactly what stands before the offset, so nothing is lost: two offsets with one line number
and one column are the same.  An offset at the end of the source or behind it is shown
behind the last character of the last line, its newline left out.

The lines are those of a relation that cuts a text after each newline.
-/

namespace Script.Text

/-! ## Cutting a text -/

/-- A text is cut after each newline. -/
inductive CutAfterNewlines : List Char → List (List Char) → Prop where
  | nil : CutAfterNewlines [] []
  /-- The last piece has no newline. -/
  | last {line : List Char} (nonempty : line ≠ []) (plain : '\n' ∉ line) :
      CutAfterNewlines line [line]
  /-- A piece goes up to its newline. -/
  | line {body rest : List Char} {others : List (List Char)} (plain : '\n' ∉ body)
      (ofRest : CutAfterNewlines rest others) :
      CutAfterNewlines (body ++ '\n' :: rest) ((body ++ ['\n']) :: others)

/-- A text of which no pieces are left is empty. -/
theorem CutAfterNewlines.eq_nil {text : List Char} (cut : CutAfterNewlines text []) :
    text = [] := by
  cases cut
  rfl

theorem cut_lines (text : List Char) : CutAfterNewlines text (lines text) := by
  induction text with
  | nil => exact .nil
  | cons character rest inductionHypothesis =>
      rw [lines]
      split_ifs with isNewline
      · subst isNewline
        exact .line (List.not_mem_nil : '\n' ∉ []) inductionHypothesis
      · have differs : '\n' ≠ character := fun same => isNewline same.symm
        cases pieces : lines rest with
        | nil =>
            rw [pieces] at inductionHypothesis
            rw [inductionHypothesis.eq_nil]
            exact .last (by simp) (by simpa using differs)
        | cons first others =>
            rw [pieces] at inductionHypothesis
            cases inductionHypothesis with
            | last nonempty plain => exact .last (by simp) (by simp [differs, plain])
            | @line body rest _ plain ofRest =>
                have longer : '\n' ∉ character :: body := by simp [differs, plain]
                exact .line longer ofRest

theorem lines_of_plain {line : List Char} (nonempty : line ≠ []) (plain : '\n' ∉ line) :
    lines line = [line] := by
  induction line with
  | nil => exact absurd rfl nonempty
  | cons character rest inductionHypothesis =>
      rw [List.mem_cons, not_or] at plain
      rw [lines, if_neg (Ne.symm plain.1)]
      cases rest with
      | nil => rfl
      | cons next others => rw [inductionHypothesis (by simp) plain.2]

theorem lines_of_newline {body : List Char} (plain : '\n' ∉ body) (rest : List Char) :
    lines (body ++ '\n' :: rest) = (body ++ ['\n']) :: lines rest := by
  induction body with
  | nil => simp [lines]
  | cons character others inductionHypothesis =>
      rw [List.mem_cons, not_or] at plain
      rw [List.cons_append, lines, if_neg (Ne.symm plain.1), inductionHypothesis plain.2]
      rfl

/-- A text is cut in one way only. -/
theorem cut_iff {text : List Char} {pieces : List (List Char)} :
    CutAfterNewlines text pieces ↔ pieces = lines text := by
  constructor
  · intro cut
    induction cut with
    | nil => rfl
    | last nonempty plain => rw [lines_of_plain nonempty plain]
    | line plain _ inductionHypothesis => rw [lines_of_newline plain, inductionHypothesis]
  · rintro rfl
    exact cut_lines text

/-! ## Places -/

/-- A cut behind some characters has these characters before it. -/
theorem charactersBefore?_append (front back : List Char) :
    charactersBefore? (byteLength front) (front ++ back) = some front.length := by
  induction front with
  | nil => cases back <;> rfl
  | cons character rest inductionHypothesis =>
      have positive : 0 < character.utf8Size := character.utf8Size_pos
      obtain ⟨offset, equation⟩ :
          ∃ offset, byteLength (character :: rest) = offset + 1 :=
        ⟨byteLength (character :: rest) - 1, by simp; omega⟩
      rw [byteLength_cons] at equation
      have remaining : offset + 1 - character.utf8Size = byteLength rest := by omega
      have fits : character.utf8Size ≤ offset + 1 := by omega
      rw [byteLength_cons, equation, List.cons_append, charactersBefore?, if_pos fits, remaining,
        inductionHypothesis]
      rfl

/-- A part of some text has fewer bytes than the text. -/
theorem byteLength_lt_append {front back : List Char} (more : back ≠ []) :
    byteLength front < byteLength (front ++ back) := by
  cases back with
  | nil => exact absurd rfl more
  | cons first rest =>
      have positive := first.utf8Size_pos
      simp only [byteLength_append, byteLength_cons]
      omega

section Among

variable {text front back : List Char} {pieces : List (List Char)}

/-- An offset into the first of some pieces. -/
theorem placeAmong_first (more : back ≠ []) (number : Nat) (others : List (List Char)) :
    placeAmong number ((front ++ back) :: others) (byteLength front) =
      ⟨number, front ++ back, front.length⟩ := by
  unfold placeAmong
  rw [if_pos (byteLength_lt_append more), columnAt, charactersBefore?_append, Option.getD_some]

/-- An offset behind the first of some pieces. -/
theorem placeAmong_later {line : List Char} (more : pieces ≠ []) (number offset : Nat) :
    placeAmong number (line :: pieces) (byteLength line + offset) =
      placeAmong (number + 1) pieces offset := by
  cases pieces with
  | nil => exact absurd rfl more
  | cons next further =>
      conv => lhs; unfold placeAmong
      rw [if_neg (by omega), Nat.add_sub_cancel_left]

/-- An offset into one of some numbered pieces. -/
theorem placeAmong_inside (more : back ≠ []) (before after : List (List Char)) (number : Nat) :
    placeAmong number (before ++ (front ++ back) :: after) (byteLength (before.flatten ++ front)) =
      ⟨number + before.length, front ++ back, front.length⟩ := by
  induction before generalizing number with
  | nil => exact placeAmong_first more number after
  | cons line others inductionHypothesis =>
      rw [List.flatten_cons, List.append_assoc, byteLength_append, List.cons_append,
        placeAmong_later (by simp), inductionHypothesis, List.length_cons, Nat.add_right_comm,
        Nat.add_assoc]

/-- An offset behind all of some numbered pieces. -/
theorem placeAmong_past {line : List Char} {offset : Nat} (before : List (List Char))
    (past : byteLength (before ++ [line]).flatten ≤ offset) (number : Nat) :
    placeAmong number (before ++ [line]) offset =
      ⟨number + before.length, line, columnAtEnd line⟩ := by
  induction before generalizing number offset with
  | nil =>
      have behind : byteLength line ≤ offset := by simpa using past
      rw [List.nil_append, placeAmong, if_neg (by omega)]
      rfl
  | cons first others inductionHypothesis =>
      rw [List.cons_append, List.flatten_cons, byteLength_append] at past
      rcases Nat.exists_eq_add_of_le (Nat.le_of_add_right_le past) with ⟨further, rfl⟩
      rw [List.cons_append, placeAmong_later (by simp), inductionHypothesis (by omega),
        List.length_cons, Nat.add_right_comm, Nat.add_assoc]

theorem columnAtEnd_of_plain (plain : '\n' ∉ front) : columnAtEnd front = front.length := by
  rw [columnAtEnd, List.filter_eq_self.2]
  intro character member
  rw [bne_iff_ne]
  rintro rfl
  exact plain member

theorem columnAtEnd_of_newline (plain : '\n' ∉ front) :
    columnAtEnd (front ++ ['\n']) = front.length := by
  rw [← columnAtEnd_of_plain plain, columnAtEnd, columnAtEnd, List.filter_append]
  simp

end Among

namespace CutAfterNewlines

variable {text front back : List Char} {pieces : List (List Char)}

/-- Nothing of a text is lost. -/
theorem flatten_eq (cut : CutAfterNewlines text pieces) : pieces.flatten = text := by
  induction cut with
  | nil => rfl
  | last nonempty plain => exact List.append_nil _
  | line plain _ inductionHypothesis => simp [inductionHypothesis]

/--
A place between two characters lies inside a piece.  The pieces before that one are as many
as the newlines before the place.
-/
theorem exists_piece (cut : CutAfterNewlines text pieces) (whole : text = front ++ back)
    (more : back ≠ []) :
    ∃ before head tail after, pieces = before ++ (head ++ tail) :: after ∧ tail ≠ [] ∧
      front = before.flatten ++ head ∧ back = tail ++ after.flatten ∧
        before.length = front.count '\n' := by
  induction cut generalizing front with
  | nil => exact absurd (List.append_eq_nil_iff.1 whole.symm).2 more
  | last nonempty plain =>
      subst whole
      rw [List.mem_append, not_or] at plain
      exact ⟨[], front, back, [], rfl, more, rfl, (List.append_nil back).symm,
        (List.count_eq_zero_of_not_mem plain.1).symm⟩
  | @line body rest others plain ofRest inductionHypothesis =>
      have regrouped : (body ++ ['\n']) ++ rest = front ++ back := by simpa using whole
      -- The place lies behind the newline, or else inside the piece that ends there.
      have sides : (∃ behind, front = (body ++ ['\n']) ++ behind ∧ rest = behind ++ back) ∨
          ∃ tail, tail ≠ [] ∧ body ++ ['\n'] = front ++ tail ∧ back = tail ++ rest := by
        rcases List.append_eq_append_iff.1 regrouped with side | ⟨tail, ofLine, ofBack⟩
        · exact .inl side
        · by_cases ended : tail = []
          · exact .inl ⟨[], by simp [ofLine, ended], by simp [ofBack, ended]⟩
          · exact .inr ⟨tail, ended, ofLine, ofBack⟩
      rcases sides with ⟨behind, rfl, split⟩ | ⟨tail, ends, ofLine, rfl⟩
      · rcases inductionHypothesis split with
          ⟨before, head, tail, after, rfl, ends, rfl, ofBack, counted⟩
        refine ⟨(body ++ ['\n']) :: before, head, tail, after, rfl, ends, by simp, ofBack, ?_⟩
        rw [List.length_cons, counted]
        simp [List.count_eq_zero_of_not_mem plain, Nat.add_comm]
      · have inBody : body = front ++ tail.dropLast := by
          rw [← List.dropLast_append_of_ne_nil ends, ← ofLine, List.dropLast_concat]
        rw [inBody, List.mem_append, not_or] at plain
        refine ⟨[], front, tail, others, by rw [ofLine]; rfl, ends, rfl, ?_, ?_⟩
        · rw [ofRest.flatten_eq]
        · exact (List.count_eq_zero_of_not_mem plain.1).symm

/-- A piece may end in a newline, and has no other one. -/
theorem exists_body (cut : CutAfterNewlines text pieces) {line : List Char}
    (member : line ∈ pieces) :
    ∃ body, '\n' ∉ body ∧ (line = body ∨ line = body ++ ['\n']) := by
  induction cut with
  | nil => cases member
  | last nonempty plain =>
      rw [List.mem_singleton] at member
      exact ⟨_, member ▸ plain, .inl rfl⟩
  | @line body rest others plain ofRest inductionHypothesis =>
      rcases List.mem_cons.1 member with rfl | later
      · exact ⟨body, plain, .inr rfl⟩
      · exact inductionHypothesis later

end CutAfterNewlines

/-- The number and the column of a place stand for an offset into some pieces. -/
structure Place.StandsFor (place : Place) (pieces : List (List Char)) (offset : Nat) :
    Prop where
  /-- The line is the piece that the number counts to, from one. -/
  line_eq : pieces[place.number - 1]? = some place.line
  /-- The column is that of a character of the line. -/
  within : place.column < place.line.length
  /-- The bytes of the pieces and of the characters before the place make up the offset. -/
  offset_eq : byteLength (pieces.take (place.number - 1)).flatten +
    byteLength (place.line.take place.column) = offset

/-- A place lies behind the last of some pieces, its newline left out. -/
structure Place.EndsAll (place : Place) (pieces : List (List Char)) : Prop where
  number_eq : place.number = pieces.length
  line_eq : pieces.getLast? = some place.line
  column_eq : ∃ body, '\n' ∉ body ∧ (place.line = body ∨ place.line = body ++ ['\n']) ∧
    place.column = body.length

/-- Two places that stand for offsets into the same pieces agree only if the offsets do. -/
theorem Place.StandsFor.unique {place other : Place} {pieces : List (List Char)}
    {offset otherOffset : Nat} (stands : place.StandsFor pieces offset)
    (otherStands : other.StandsFor pieces otherOffset) (sameNumber : place.number = other.number)
    (sameColumn : place.column = other.column) : offset = otherOffset := by
  have sameLine : place.line = other.line := by
    have ofPlace := stands.line_eq
    rw [sameNumber, otherStands.line_eq, Option.some.injEq] at ofPlace
    exact ofPlace.symm
  rw [← stands.offset_eq, ← otherStands.offset_eq, sameNumber, sameColumn, sameLine]

/-- An offset lies in front of a character of a text. -/
def InFront (text : List Char) (offset : Nat) : Prop :=
  ∃ front back, text = front ++ back ∧ back ≠ [] ∧ byteLength front = offset

section Source

variable {source : List Char}

/-- The place of an offset between two characters, with what stands around it. -/
theorem exists_place {front back : List Char} (whole : source = front ++ back)
    (more : back ≠ []) :
    ∃ before head tail after, lines source = before ++ (head ++ tail) :: after ∧ tail ≠ [] ∧
      front = before.flatten ++ head ∧ back = tail ++ after.flatten ∧
        before.length = front.count '\n' ∧
          place source (byteLength front) = ⟨before.length + 1, head ++ tail, head.length⟩ := by
  rcases (cut_lines source).exists_piece whole more with
    ⟨before, head, tail, after, split, ends, rfl, ofBack, counted⟩
  refine ⟨before, head, tail, after, split, ends, rfl, ofBack, counted, ?_⟩
  rw [place, split, placeAmong_inside ends, Nat.add_comm]

/-- The place of an offset that is not in front of a character. -/
theorem exists_place_past {offset : Nat} (nonempty : source ≠ [])
    (past : byteLength source ≤ offset) :
    ∃ before line body, lines source = before ++ [line] ∧ '\n' ∉ body ∧
      (line = body ∨ line = body ++ ['\n']) ∧
        place source offset = ⟨before.length + 1, line, body.length⟩ := by
  have cut := cut_lines source
  have pieces : lines source ≠ [] := by
    intro none
    rw [none] at cut
    exact nonempty cut.eq_nil
  rcases (List.eq_nil_or_concat' (lines source)).resolve_left pieces with ⟨before, line, split⟩
  rcases cut.exists_body (by rw [split]; simp : line ∈ lines source) with ⟨body, plain, ofLine⟩
  refine ⟨before, line, body, split, plain, ofLine, ?_⟩
  have column : columnAtEnd line = body.length := by
    rcases ofLine with rfl | rfl
    · exact columnAtEnd_of_plain plain
    · exact columnAtEnd_of_newline plain
  rw [← cut.flatten_eq, split] at past
  rw [place, split, placeAmong_past before past, column, Nat.add_comm]

/-- In front of a character, a place counts the newlines and stands for its offset. -/
theorem standsFor_place {front back : List Char} (whole : source = front ++ back)
    (more : back ≠ []) :
    (place source (byteLength front)).number = front.count '\n' + 1 ∧
      (place source (byteLength front)).StandsFor (lines source) (byteLength front) := by
  rcases exists_place whole more with
    ⟨before, head, tail, after, split, ends, rfl, ofBack, counted, place_eq⟩
  have size := List.length_pos_of_ne_nil ends
  rw [place_eq, split]
  refine ⟨congrArg (· + 1) counted, ?_, ?_, ?_⟩
  · simp
  · simpa using size
  · simp

end Source

/--
The place of an offset in a source determines the offset.  In front of a character, the line
is the piece of the source that its number counts to, there are as many lines before it as
newlines, and the lines and characters before the place have as many bytes as the offset
says.  Any offset from the end on has the place at the end of the last line.
-/
theorem place_determines_offset (source : List Char) :
    ∃ pieces, (∀ others, CutAfterNewlines source others ↔ others = pieces) ∧
      (∀ front back, source = front ++ back → back ≠ [] →
        (place source (byteLength front)).number = front.count '\n' + 1 ∧
          (place source (byteLength front)).StandsFor pieces (byteLength front)) ∧
      (∀ offset other, InFront source offset → InFront source other →
        (place source offset).number = (place source other).number →
          (place source offset).column = (place source other).column → offset = other) ∧
      ∀ offset, byteLength source ≤ offset →
        (source ≠ [] → (place source offset).EndsAll pieces) ∧
          (source = [] → place source offset = ⟨1, [], 0⟩) := by
  refine ⟨lines source, fun others => cut_iff, fun front back => standsFor_place, ?_, ?_⟩
  · rintro _ _ ⟨front, back, whole, more, rfl⟩ ⟨other, otherBack, otherWhole, otherMore, rfl⟩
    exact (standsFor_place whole more).2.unique (standsFor_place otherWhole otherMore).2
  · intro offset past
    constructor
    · intro nonempty
      rcases exists_place_past nonempty past with
        ⟨before, line, body, split, plain, ofLine, place_eq⟩
      rw [place_eq, split]
      exact ⟨by simp, by simp, body, plain, ofLine, rfl⟩
    · rintro rfl
      rfl

/-- Behind a line and a character of several bytes, columns still count characters. -/
theorem accented_place_determines_offset :
    ∃ pieces, CutAfterNewlines "né\nß=\n".toList pieces ∧
      (⟨2, "ß=\n".toList, 1⟩ : Place).StandsFor pieces 6 ∧
        (⟨2, "ß=\n".toList, 2⟩ : Place).EndsAll pieces := by
  have inside : place "né\nß=\n".toList 6 = ⟨2, "ß=\n".toList, 1⟩ := by decide +kernel
  have past : place "né\nß=\n".toList 40 = ⟨2, "ß=\n".toList, 2⟩ := by decide +kernel
  rcases place_determines_offset "né\nß=\n".toList with ⟨pieces, cuts, stands, _, ends⟩
  refine ⟨pieces, (cuts pieces).2 rfl, ?_, ?_⟩
  · rw [← inside]
    exact (stands "né\nß".toList "=\n".toList (by decide +kernel) (by decide +kernel)).2
  · rw [← past]
    exact (ends 40 (by decide +kernel)).1 (by decide +kernel)

end Script.Text
