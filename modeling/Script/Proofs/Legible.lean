import Mathlib.Data.List.TakeWhile

/-!
# Items that are told apart by their texts

A writer puts the text of an item in front of the text after it.  An item is legible if
its text, read from the front, belongs to no other item and shows where it ends.  What
comes after it has to be a text that can end an item: digits, for instance, must not be
followed by another digit.

Legible items make legible lists, if a separator and a closing mark can end an item, the
two differ, and no item starts with the closing mark.
-/

namespace Script.Text

variable {α : Type}

/--
Only this item is written like this, among those that fit, and its text shows where it
ends, in front of the texts that can end an item.
-/
def Legible (write : α → List Char → List Char) (Fits : α → Prop) (Ends : List Char → Prop)
    (item : α) : Prop :=
  ∀ other after otherAfter, Fits other → Ends after → Ends otherAfter →
    write item after = write other otherAfter → item = other ∧ after = otherAfter

/-- Items with a separator between them, and the text after them. -/
def separatedThen (write : α → List Char → List Char) (separator : Char) :
    List α → List Char → List Char
  | [], after => after
  | [last], after => write last after
  | item :: next :: others, after =>
      write item (separator :: separatedThen write separator (next :: others) after)

/-- The text after the first of several items, from the separator on if there are others. -/
def behindFirst (write : α → List Char → List Char) (separator : Char) :
    List α → List Char → List Char
  | [], after => after
  | next :: others, after => separator :: separatedThen write separator (next :: others) after

section Separated

variable {write : α → List Char → List Char} {separator closing : Char}
  {Fits : α → Prop} {Ends : List Char → Prop}

theorem separatedThen_cons (item : α) (others : List α) (after : List Char) :
    separatedThen write separator (item :: others) after =
      write item (behindFirst write separator others after) := by
  cases others <;> rfl

/-- How items stand in a list between a separator and a closing mark. -/
structure Listed (write : α → List Char → List Char) (Fits : α → Prop)
    (Ends : List Char → Prop) (separator closing : Char) : Prop where
  endsAtSeparator : ∀ after, Ends (separator :: after)
  endsAtClosing : ∀ after, Ends (closing :: after)
  apart : separator ≠ closing
  opens : ∀ item, Fits item → ∀ after, (write item after).head? ≠ some closing

theorem Listed.ends_behindFirst (listed : Listed write Fits Ends separator closing)
    (others : List α) (after : List Char) :
    Ends (behindFirst write separator others (closing :: after)) := by
  cases others with
  | nil => exact listed.endsAtClosing after
  | cons next others => exact listed.endsAtSeparator _

/-- A list of legible items can be told from any other list, up to its closing mark. -/
theorem Listed.eq_of_separatedThen (listed : Listed write Fits Ends separator closing)
    {items others : List α} {after otherAfter : List Char}
    (legible : ∀ item ∈ items, Legible write Fits Ends item)
    (fit : ∀ item ∈ items, Fits item) (othersFit : ∀ item ∈ others, Fits item)
    (same : separatedThen write separator items (closing :: after) =
      separatedThen write separator others (closing :: otherAfter)) :
    items = others ∧ after = otherAfter := by
  induction items generalizing others with
  | nil =>
      cases others with
      | nil => simpa [separatedThen] using same
      | cons other others =>
          have opens := listed.opens other (othersFit other (by simp))
          rw [separatedThen_cons] at same
          exact absurd (congrArg List.head? same).symm (opens _)
  | cons item items inductionHypothesis =>
      cases others with
      | nil =>
          have opens := listed.opens item (fit item (by simp))
          rw [separatedThen_cons] at same
          exact absurd (congrArg List.head? same) (opens _)
      | cons other others =>
          rw [separatedThen_cons, separatedThen_cons] at same
          rcases legible item (by simp) other _ _ (othersFit other (by simp))
            (listed.ends_behindFirst items after) (listed.ends_behindFirst others otherAfter)
            same with ⟨rfl, sameBehind⟩
          -- What stands behind the first item says whether there is another one.
          have rest : separatedThen write separator items (closing :: after) =
              separatedThen write separator others (closing :: otherAfter) := by
            rcases items with _ | ⟨next, items⟩ <;> rcases others with _ | ⟨otherNext, others⟩
            · exact sameBehind
            · exact absurd (List.cons.inj sameBehind).1.symm listed.apart
            · exact absurd (List.cons.inj sameBehind).1 listed.apart
            · exact (List.cons.inj sameBehind).2
          rcases inductionHypothesis (fun item member => legible item (by simp [member]))
            (fun item member => fit item (by simp [member]))
            (fun item member => othersFit item (by simp [member])) rest with ⟨rfl, sameAfter⟩
          exact ⟨rfl, sameAfter⟩

end Separated

/-! ## Runs of characters -/

/-- A run of characters of a class is told from what follows, if that is of no such character. -/
theorem eq_of_append_run {holds : Char → Bool} {run otherRun after otherAfter : List Char}
    (held : ∀ character ∈ run, holds character = true)
    (otherHeld : ∀ character ∈ otherRun, holds character = true)
    (ends : ∀ character ∈ after.head?, holds character = false)
    (otherEnds : ∀ character ∈ otherAfter.head?, holds character = false)
    (same : run ++ after = otherRun ++ otherAfter) : run = otherRun ∧ after = otherAfter := by
  have taken (run after : List Char) (held : ∀ character ∈ run, holds character = true)
      (ends : ∀ character ∈ after.head?, holds character = false) :
      (run ++ after).takeWhile holds = run := by
    rw [List.takeWhile_append_of_pos held]
    cases after with
    | nil => simp
    | cons first rest => simp [ends first rfl]
  have sameRun : run = otherRun := by
    rw [← taken run after held ends, same, taken otherRun otherAfter otherHeld otherEnds]
  subst sameRun
  exact ⟨rfl, List.append_cancel_left same⟩

end Script.Text
