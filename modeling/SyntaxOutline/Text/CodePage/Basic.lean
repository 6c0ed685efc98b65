/-
  Code pages: encodings with one octet for each character.

  A page gives a character to every octet.  Most pages agree
  with ASCII in their first half.  Where a page leaves an octet
  undefined, the replacement character stands in its table.

  Key definitions include:
    * `CodePage`
    * `CodePage.above`
    * `CodePage.whole`
    * `CodePage.char?`
-/

------------------------------------------------------------
-- Pages
------------------------------------------------------------

namespace SyntaxOutline

/- The characters of all octets, and the names of the page. -/
structure CodePage where
  names : List String
  chars : Array Char
  deriving DecidableEq, Repr, Inhabited

namespace CodePage

/- What stands in the place of a character that is undefined. -/
def undefinedMark : Char := '\uFFFD'

/- The characters of ASCII. -/
def ascii : List Char :=
  (List.range 128).map Char.ofNat

/- The page with all its characters given row by row. -/
def whole
    (names rows : List String) : CodePage :=
  ⟨names, (String.join rows).toList.toArray⟩

/- The page that agrees with ASCII below the given rows. -/
def above
    (names rows : List String) : CodePage :=
  ⟨names, (ascii ++ (String.join rows).toList).toArray⟩

/- The character of an octet, if the page defines one. -/
def char?
    (page : CodePage)
    (octet : UInt8) : Option Char :=
  match page.chars[octet.toNat]? with
  | none => none
  | some c => if c = undefinedMark then none else some c

end CodePage

end SyntaxOutline
