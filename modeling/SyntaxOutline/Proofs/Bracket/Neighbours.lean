import SyntaxOutline.Bracket.Mark
import Mathlib.Data.List.Basic

/-
  How the mark of a character depends on its neighbours.

  Marks were defined along a text, with the character before
  carried on.  Here they are put in two other forms.
  `classify` looks at the two neighbouring positions of the
  whole text.  `marksBetween` marks a piece of a text between
  the character before it and the character after it, so that
  the marks of a text are the marks of its pieces.

  Key definitions include:
    * `Bracket.IsLiteralAt`
    * `Bracket.classify`
    * `Bracket.Enclosed`
    * `Bracket.marksBetween`

  Main statements:
    * `Bracket.marks_eq_classify`
    * `Bracket.marksAfter_append`
    * `Bracket.enclosed_iff_isPlain`
-/

------------------------------------------------------------
-- Marks That Are Text
------------------------------------------------------------

namespace SyntaxOutline

namespace Bracket

namespace Mark

/-
  A character is text unless it is a parenthesis that does not
  stand between two spaces.
-/
theorem of_eq_text_iff
    (before after : Option Char)
    (c : Char) :
    of before c after = .text c ↔
      (IsParen c → Flanked before after) := by
  by_cases hParen : IsParen c
  · by_cases hFlanked : Flanked before after
    · simp [of, hParen, hFlanked]
    · rcases hParen with rfl | rfl
      · simp [of, hFlanked, IsParen]
      · simp [of, hFlanked, IsParen]
  · have hOpen : c ≠ '(' :=
      fun hEq => hParen (.inl hEq)
    have hClose : c ≠ ')' :=
      fun hEq => hParen (.inr hEq)
    simp [of, hParen, hOpen, hClose]

/- Without a space on one side a parenthesis is structural. -/
theorem of_opening_of_not_flanked
    {before after : Option Char}
    (hFlanked : ¬ Flanked before after) :
    of before '(' after = .opening := by
  simp [of, hFlanked]

theorem of_closing_of_not_flanked
    {before after : Option Char}
    (hFlanked : ¬ Flanked before after) :
    of before ')' after = .closing := by
  simp [of, hFlanked]

/- A character that is not text is a parenthesis. -/
theorem isParen_of_of_ne_text
    {before after : Option Char}
    {c : Char}
    (hMark : of before c after ≠ .text c) :
    IsParen c := by
  by_contra hParen
  apply hMark
  exact (of_eq_text_iff before after c).mpr
    fun h => absurd h hParen

end Mark

------------------------------------------------------------
-- Marks By Position
------------------------------------------------------------

/-
  The character at a position lies strictly inside the text,
  between a space right before it and a space right after it.
-/
def IsLiteralAt
    (text : List Char)
    (i : Nat) : Prop :=
  0 < i ∧ i + 1 < text.length ∧
    text[i - 1]? = some ' ' ∧ text[i + 1]? = some ' '

instance
    (text : List Char)
    (i : Nat) :
    Decidable (IsLiteralAt text i) := by
  unfold IsLiteralAt
  infer_instance

/-
  The marks of a text by position: a parenthesis is text where
  it is literal, and structural everywhere else.
-/
def classify
    (text : List Char) : List Mark :=
  text.mapIdx fun i c =>
    if Mark.IsParen c ∧ IsLiteralAt text i then .text c
    else if c = '(' then .opening
    else if c = ')' then .closing
    else .text c

/- The character before a position that may be the first. -/
private def characterBefore
    (before : Option Char)
    (text : List Char) :
    Nat → Option Char
  | 0 => before
  | i + 1 => text[i]?

private theorem getElem?_marksAfter
    (before : Option Char)
    (text : List Char)
    (i : Nat) :
    (marksAfter before text)[i]? =
      text[i]?.map fun c =>
        Mark.of (characterBefore before text i) c
          text[i + 1]? := by
  induction text generalizing before i with
  | nil => simp [marksAfter]
  | cons c rest ih =>
      cases i with
      | zero =>
          simp [marksAfter, characterBefore,
            List.head?_eq_getElem?]
      | succ i =>
          rw [marksAfter, List.getElem?_cons_succ, ih]
          cases i with
          | zero => simp [characterBefore]
          | succ i => simp [characterBefore]

private theorem flanked_iff_isLiteralAt
    (text : List Char)
    (i : Nat) :
    Mark.Flanked (characterBefore none text i)
        text[i + 1]? ↔
      IsLiteralAt text i := by
  cases i with
  | zero => simp [Mark.Flanked, characterBefore, IsLiteralAt]
  | succ i =>
      constructor
      · rintro ⟨hBefore, hAfter⟩
        have hLength : i + 1 + 1 < text.length :=
          (List.getElem?_eq_some_iff.mp hAfter).1
        exact ⟨Nat.succ_pos i, hLength, hBefore, hAfter⟩
      · rintro ⟨-, -, hBefore, hAfter⟩
        exact ⟨hBefore, hAfter⟩

/- Marks carried along a text are the marks by position. -/
theorem marks_eq_classify
    (text : List Char) :
    marks text = classify text := by
  apply List.ext_getElem?
  intro i
  rw [marks, getElem?_marksAfter, classify,
    List.getElem?_mapIdx]
  simp only [Mark.of, flanked_iff_isLiteralAt]

------------------------------------------------------------
-- Pieces Of A Text
------------------------------------------------------------

/-
  The marks of a piece of text between the character before it
  and the character after it.
-/
def marksBetween
    (before : Option Char) :
    List Char → Option Char → List Mark
  | [], _ => []
  | c :: rest, after =>
      Mark.of before c (rest.head?.or after) ::
        marksBetween (some c) rest after

/- A whole text has nothing after it. -/
theorem marksAfter_eq_marksBetween
    (before : Option Char)
    (text : List Char) :
    marksAfter before text =
      marksBetween before text none := by
  induction text generalizing before with
  | nil => rfl
  | cons c rest ih => simp [marksAfter, marksBetween, ih]

/-
  Of two pieces, the first has the second after it, and the
  second has the first before it.
-/
theorem marksBetween_append
    (before after : Option Char)
    (front back : List Char) :
    marksBetween before (front ++ back) after =
      marksBetween before front (back.head?.or after) ++
        marksBetween (front.getLast?.or before) back
          after := by
  induction front generalizing before with
  | nil => simp [marksBetween]
  | cons c front ih =>
      have hBefore :
          (c :: front).getLast?.or before =
            front.getLast?.or (some c) := by
        cases hLast : front.getLast? with
        | none =>
            simp [List.getLast?_cons, hLast]
        | some d => simp [List.getLast?_cons, hLast]
      have hAfter :
          (front ++ back).head?.or after =
            front.head?.or (back.head?.or after) := by
        rw [List.head?_append, Option.or_assoc]
      rw [List.cons_append, marksBetween, ih, hAfter,
        hBefore, marksBetween, List.cons_append]

theorem marksAfter_append
    (before : Option Char)
    (front back : List Char) :
    marksAfter before (front ++ back) =
      marksBetween before front back.head? ++
        marksAfter (front.getLast?.or before) back := by
  rw [marksAfter_eq_marksBetween, marksBetween_append,
    ← marksAfter_eq_marksBetween, Option.or_none]

------------------------------------------------------------
-- Enclosed Parentheses
------------------------------------------------------------

/-
  Every parenthesis of a text lies strictly inside it, with a
  space right before it and a space right after it.
-/
def Enclosed
    (value : String) : Prop :=
  ∀ i c, value.toList[i]? = some c → Mark.IsParen c →
    IsLiteralAt value.toList i

/-
  A piece of text is plain when all its characters are text,
  given what stands before it and after it.
-/
def IsPlain
    (before : Option Char)
    (text : List Char)
    (after : Option Char) : Prop :=
  marksBetween before text after = text.map .text

theorem isPlain_nil
    (before after : Option Char) :
    IsPlain before [] after := by
  simp [IsPlain, marksBetween]

theorem isPlain_cons_iff
    (before after : Option Char)
    (c : Char)
    (rest : List Char) :
    IsPlain before (c :: rest) after ↔
      (Mark.IsParen c →
          Mark.Flanked before (rest.head?.or after)) ∧
        IsPlain (some c) rest after := by
  simp [IsPlain, marksBetween, Mark.of_eq_text_iff]

theorem isPlain_append_singleton_iff
    (before after : Option Char)
    (text : List Char)
    (c : Char) :
    IsPlain before (text ++ [c]) after ↔
      IsPlain before text (some c) ∧
        (Mark.IsParen c →
          Mark.Flanked (text.getLast?.or before) after) := by
  unfold IsPlain
  rw [marksBetween_append, List.map_append]
  constructor
  · intro hMarks
    have hLength :
        (marksBetween before text
            (([c] : List Char).head?.or after)).length =
          (text.map Mark.text).length := by
      have hAll := congrArg List.length hMarks
      simp [marksBetween] at hAll
      simpa using hAll
    rcases List.append_inj hMarks hLength with
      ⟨hText, hLast⟩
    refine ⟨by simpa using hText, ?_⟩
    simpa [marksBetween, Mark.of_eq_text_iff] using hLast
  · rintro ⟨hText, hLast⟩
    have hMark :=
      (Mark.of_eq_text_iff _ _ c).mpr hLast
    simpa [marksBetween, hMark] using hText

/- A neighbour on the right can only make more text. -/
theorem IsPlain.before_any
    {before : Option Char}
    {text : List Char}
    (hPlain : IsPlain before text none)
    (after : Option Char) :
    IsPlain before text after := by
  induction text generalizing before with
  | nil => exact isPlain_nil before after
  | cons c rest ih =>
      rw [isPlain_cons_iff] at hPlain ⊢
      refine ⟨?_, ih hPlain.2⟩
      intro hParen
      rcases hPlain.1 hParen with ⟨hLeft, hRight⟩
      rw [Option.or_none] at hRight
      exact ⟨hLeft, by simp [hRight]⟩

/- What is plain on its own is plain in every place. -/
theorem IsPlain.of_isolated
    {text : List Char}
    (hPlain : IsPlain none text none)
    (before after : Option Char) :
    IsPlain before text after := by
  have hAfter := hPlain.before_any after
  cases text with
  | nil => exact isPlain_nil before after
  | cons c rest =>
      -- The first character has no space before it, so it is
      -- no parenthesis.
      rw [isPlain_cons_iff] at hAfter ⊢
      refine ⟨?_, hAfter.2⟩
      intro hParen
      exact absurd (hAfter.1 hParen).1 (by simp)

/- A neighbour on the right that is no space does nothing. -/
theorem IsPlain.isolated_right
    {before after : Option Char}
    {text : List Char}
    (hPlain : IsPlain before text after)
    (hAfter : after ≠ some ' ') :
    IsPlain before text none := by
  induction text generalizing before with
  | nil => exact isPlain_nil before none
  | cons c rest ih =>
      rw [isPlain_cons_iff] at hPlain ⊢
      refine ⟨?_, ih hPlain.2⟩
      intro hParen
      rcases hPlain.1 hParen with ⟨hLeft, hRight⟩
      refine ⟨hLeft, ?_⟩
      cases rest with
      | nil => exact absurd hRight hAfter
      | cons d rest => simpa using hRight

/- The parentheses of a text are enclosed when it is plain. -/
theorem enclosed_iff_isPlain
    (value : String) :
    Enclosed value ↔ IsPlain none value.toList none := by
  rw [IsPlain, ← marksAfter_eq_marksBetween, ← marks,
    marks_eq_classify]
  constructor
  · intro hEnclosed
    apply List.ext_getElem?
    intro i
    rw [classify, List.getElem?_mapIdx, List.getElem?_map]
    cases hChar : value.toList[i]? with
    | none => rfl
    | some c =>
        by_cases hParen : Mark.IsParen c
        · have hLiteral := hEnclosed i c hChar hParen
          simp [hParen, hLiteral]
        · have hOpen : c ≠ '(' :=
            fun hEq => hParen (.inl hEq)
          have hClose : c ≠ ')' :=
            fun hEq => hParen (.inr hEq)
          simp [hParen, hOpen, hClose]
  · intro hMarks i c hChar hParen
    have hMark := congrArg (·[i]?) hMarks
    simp only [classify, List.getElem?_mapIdx,
      List.getElem?_map, hChar, Option.map_some,
      Option.some.injEq] at hMark
    by_contra hLiteral
    rcases hParen with rfl | rfl
    · simp [hLiteral] at hMark
    · simp [hLiteral] at hMark

theorem Enclosed.isPlain
    {value : String}
    (hEnclosed : Enclosed value)
    (before after : Option Char) :
    IsPlain before value.toList after :=
  ((enclosed_iff_isPlain value).mp hEnclosed).of_isolated
    before after

end Bracket

end SyntaxOutline
