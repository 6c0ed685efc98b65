/-
  Blank characters and the trimming of texts.

  Key definitions include:
    * `Text.isSpace`
    * `Text.isBlank`
    * `Text.trimWhile`
-/

------------------------------------------------------------
-- Blank Characters
------------------------------------------------------------

namespace SyntaxOutline

namespace Text

/-
  The white space of the character database: tab to carriage
  return, the space, the next line, and the space separators.
-/
def isSpace
    (c : Char) : Bool :=
  let n := c.toNat
  (9 ≤ n && n ≤ 13) || n == 32 || n == 0x85 || n == 0xA0 ||
    n == 0x1680 || (0x2000 ≤ n && n ≤ 0x200A) ||
    n == 0x2028 || n == 0x2029 || n == 0x202F ||
    n == 0x205F || n == 0x3000

/- White space, or one of the four information separators. -/
def isBlank
    (c : Char) : Bool :=
  isSpace c || (0x1C ≤ c.toNat && c.toNat ≤ 0x1F)

------------------------------------------------------------
-- Trimming
------------------------------------------------------------

/- The text without the matching characters at its end. -/
def dropRightWhile
    (p : Char → Bool)
    (text : List Char) : List Char :=
  (text.reverse.dropWhile p).reverse

/- The text without the matching characters at both ends. -/
def trimWhile
    (p : Char → Bool)
    (text : List Char) : List Char :=
  dropRightWhile p (text.dropWhile p)

end Text

end SyntaxOutline
