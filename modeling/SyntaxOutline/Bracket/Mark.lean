/-
  The marks of bracket notation: which parentheses of a text
  open and close nodes, and which characters are plain text.

  A parenthesis with a space directly before it and a space
  directly after it is plain text; every other one is
  structural.  At the first or the last position of a text
  there is no neighbour on one side, so a parenthesis there
  is structural.

  Key definitions include:
    * `Bracket.Mark`
    * `Bracket.Mark.of`
    * `Bracket.marks`
-/

------------------------------------------------------------
-- Marks
------------------------------------------------------------

namespace SyntaxOutline

namespace Bracket

/- What one character of a text stands for. -/
inductive Mark where
  | opening
  | closing
  | text (c : Char)
  deriving DecidableEq, Repr

namespace Mark

/- A character is a parenthesis of either kind. -/
def IsParen
    (c : Char) : Prop :=
  c = '(' ∨ c = ')'

instance
    (c : Char) :
    Decidable (IsParen c) := by
  unfold IsParen
  infer_instance

/- A character stands between two spaces. -/
def Flanked
    (before after : Option Char) : Prop :=
  before = some ' ' ∧ after = some ' '

instance
    (before after : Option Char) :
    Decidable (Flanked before after) := by
  unfold Flanked
  infer_instance

/-
  The mark of a character between its two neighbours, where
  `none` is the end of the text on that side.
-/
def of
    (before : Option Char)
    (c : Char)
    (after : Option Char) : Mark :=
  if IsParen c ∧ Flanked before after then .text c
  else if c = '(' then .opening
  else if c = ')' then .closing
  else .text c

end Mark

------------------------------------------------------------
-- Marks Of A Text
------------------------------------------------------------

/- The marks of a text that continues after `before`. -/
def marksAfter
    (before : Option Char) :
    List Char → List Mark
  | [] => []
  | c :: rest =>
      Mark.of before c rest.head? :: marksAfter (some c) rest

/- The marks of a whole text, one for each character. -/
def marks
    (text : List Char) : List Mark :=
  marksAfter none text

end Bracket

end SyntaxOutline
