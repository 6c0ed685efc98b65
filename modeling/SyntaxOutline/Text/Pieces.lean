/-
  The pieces of a text between marks.

  A text is a row of characters or of other signs.  With `n`
  marks in it, it has `n + 1` pieces, some of which may be
  empty.  No piece holds the mark, and joined by the mark the
  pieces are the text again.

  Key definitions include:
    * `Text.pieces`
    * `Text.splitAt`
-/

------------------------------------------------------------
-- Pieces
------------------------------------------------------------

namespace SyntaxOutline

namespace Text

variable {α : Type}

/- Put a sign before the first of some pieces. -/
def prepend
    (c : α) :
    List (List α) → List (List α)
  | [] => [[c]]
  | first :: others => (c :: first) :: others

/- The pieces of a text between marks. -/
def pieces [DecidableEq α]
    (mark : α) :
    List α → List (List α)
  | [] => [[]]
  | c :: rest =>
      if c = mark then [] :: pieces mark rest
      else prepend c (pieces mark rest)

/- The pieces of a text between marks, as texts. -/
def splitAt
    (mark : Char)
    (text : String) : List String :=
  (pieces mark text.toList).map String.ofList

------------------------------------------------------------
-- Facts About Pieces
------------------------------------------------------------

/- There is always a piece. -/
theorem pieces_ne_nil [DecidableEq α]
    (mark : α)
    (text : List α) :
    pieces mark text ≠ [] := by
  cases text with
  | nil => simp [pieces]
  | cons c rest =>
      by_cases h : c = mark
      · simp [pieces, h]
      · cases hp : pieces mark rest <;> simp [pieces, h, hp, prepend]

/- A mark ends the pieces before it and starts those behind. -/
theorem pieces_append_mark [DecidableEq α]
    (mark : α)
    (front back : List α) :
    pieces mark (front ++ mark :: back) =
      pieces mark front ++ pieces mark back := by
  induction front with
  | nil => simp [pieces]
  | cons c front ih =>
      by_cases h : c = mark
      · simp [pieces, h, ih]
      · cases hp : pieces mark front with
        | nil => exact absurd hp (pieces_ne_nil mark front)
        | cons first others => simp [pieces, h, ih, hp, prepend]

/- What holds no mark belongs to the first piece behind it. -/
theorem pieces_append_of_not_mem [DecidableEq α]
    {mark : α}
    {front : List α}
    (hfront : mark ∉ front)
    (text : List α) :
    pieces mark (front ++ text) =
      (pieces mark text).modifyHead (front ++ ·) := by
  induction front with
  | nil => cases hp : pieces mark text <;> simp [hp]
  | cons c front ih =>
      rw [List.mem_cons, not_or] at hfront
      cases hp : pieces mark text with
      | nil => exact absurd hp (pieces_ne_nil mark text)
      | cons first others =>
          simp [pieces, Ne.symm hfront.1, ih hfront.2, hp, prepend]

/- Joined by the mark, the pieces are the text again. -/
theorem intercalate_pieces [DecidableEq α]
    (mark : α)
    (text : List α) :
    [mark].intercalate (pieces mark text) = text := by
  induction text with
  | nil => simp [pieces]
  | cons c rest ih =>
      by_cases h : c = mark
      · rw [pieces, if_pos h, List.intercalate_cons_of_ne_nil
          (pieces_ne_nil mark rest), ih]
        simp [h]
      · cases hp : pieces mark rest with
        | nil => exact absurd hp (pieces_ne_nil mark rest)
        | cons first others =>
            rw [hp] at ih
            rw [pieces, if_neg h, hp, prepend, ← ih]
            cases others with
            | nil => simp
            | cons second others => simp

end Text

end SyntaxOutline
