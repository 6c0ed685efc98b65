/-
  Texts by their code points.

  Some code points are only halves of characters.  A text with
  such halves in it is no row of characters, so it is kept by
  its code points.  Where it is written out, a first half and a
  second half in a row give the character that they make.

  Key definitions include:
    * `Text.isHalf`
    * `Text.points`
    * `Text.joined`
-/

------------------------------------------------------------
-- Halves
------------------------------------------------------------

namespace SyntaxOutline

namespace Text

/- A code point that is the first half of a character. -/
def isFirstHalf
    (n : Nat) : Bool :=
  0xD800 ≤ n && n ≤ 0xDBFF

/- A code point that is the second half of a character. -/
def isSecondHalf
    (n : Nat) : Bool :=
  0xDC00 ≤ n && n ≤ 0xDFFF

/- A code point that is one of the halves of a character. -/
def isHalf
    (n : Nat) : Bool :=
  isFirstHalf n || isSecondHalf n

/- The code point of the character that two halves make. -/
def pairCode
    (first second : Nat) : Nat :=
  0x10000 + (first - 0xD800) * 0x400 + (second - 0xDC00)

/- The character of a code point; a half has none of its own. -/
def single
    (n : Nat) : Char :=
  if isHalf n then '\uFFFD' else Char.ofNat n

------------------------------------------------------------
-- Texts And Code Points
------------------------------------------------------------

/- The code points of a text. -/
def points
    (text : String) : List Nat :=
  text.toList.map Char.toNat

/- The characters of code points, halves that follow made one. -/
def joinedChars : List Nat → List Char
  | [] => []
  | [n] => [single n]
  | a :: b :: rest =>
      if isFirstHalf a && isSecondHalf b then
        Char.ofNat (pairCode a b) :: joinedChars rest
      else single a :: joinedChars (b :: rest)

/- Code points written out as a text. -/
def joined
    (points : List Nat) : String :=
  String.ofList (joinedChars points)

end Text

end SyntaxOutline
