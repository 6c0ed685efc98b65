import SyntaxOutline.Text.LetterCase
import SyntaxOutline.Value.Misuse

/-
  Plain data where a text is expected.

  What counts as nothing is no text.  The texts of a list stand
  for their characters, one after the other.  Whether a value
  starts with a capital is asked of its first element.

  Key definitions include:
    * `Value.textIn`
    * `Value.startsCapital`
-/

------------------------------------------------------------
-- Texts
------------------------------------------------------------

namespace SyntaxOutline

namespace Value

/- The text of one element of a text. -/
def textElement : Value → Except Misuse String
  | .str s => .ok s
  | other => .error (.notMember other.kindName)

/- The text that a value is or consists of, if there is one. -/
def textIn
    (v : Value) : Except Misuse (Option String) :=
  if v.isEmpty then .ok none
  else
    match v with
    | .str s => .ok (some s)
    | other => do
        let items ← other.elements
        let texts ← items.mapM textElement
        return some (String.join texts)

------------------------------------------------------------
-- Capitals
------------------------------------------------------------

/- A letter that has a case, or belongs to one that has. -/
def isCased
    (c : Char) : Bool :=
  Text.casedRanges.any fun (first, last) =>
    first ≤ c.toNat && c.toNat ≤ last

/- The text has capitals, and no other letters with a case. -/
def isAllCapital
    (text : String) : Bool :=
  text.toList.any Text.isCapital &&
    text.toList.all fun c => Text.isCapital c || !isCased c

/- The value starts with a capital. -/
def startsCapital
    (v : Value) : Except Misuse Bool :=
  if v.isEmpty then .ok false
  else
    match v.content with
    | .str s => .ok (Text.startsCapital s)
    | .list (.str s :: _) => .ok (isAllCapital s)
    | .list (first :: _) => .error (.lacks first.kindName "upper")
    | .map _ => .error (.missingKey "0")
    | other => .error (.notIndexable other.kindName)

end Value

end SyntaxOutline
