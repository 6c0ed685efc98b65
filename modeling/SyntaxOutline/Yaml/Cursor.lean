import SyntaxOutline.Yaml.Failure

/-
  A place in a document.

  Past the end of a document stands the null character, which
  no document holds.  A cursor knows how far the document has
  been looked at, which may be further than it has been read.

  Key definitions include:
    * `Yaml.Cursor`
    * `Yaml.Cursor.peek`
    * `Yaml.Cursor.demand`
    * `Yaml.Cursor.advance`
    * `Yaml.Cursor.takeBreak`
-/

------------------------------------------------------------
-- Classes Of Characters
------------------------------------------------------------

namespace SyntaxOutline

namespace Yaml

/- What stands past the end of a document. -/
def endMark : Char := '\x00'

/- A line break. -/
def isBreak
    (c : Char) : Bool :=
  c = '\n' || c = '\r' || c = '\x85' || c = '\u2028' || c = '\u2029'

/- A line break or the end. -/
def isStop
    (c : Char) : Bool :=
  isBreak c || c = endMark

/- A space, a line break or the end. -/
def isSpaceOrStop
    (c : Char) : Bool :=
  c = ' ' || isStop c

/- A space, a tab, a line break or the end. -/
def isGap
    (c : Char) : Bool :=
  c = '\t' || isSpaceOrStop c

/- A letter, a digit, a hyphen or an underscore. -/
def isWordChar
    (c : Char) : Bool :=
  c.isAlphanum || c = '-' || c = '_'

/- A character that may stand in a document. -/
def isAllowed
    (c : Char) : Bool :=
  let n := c.toNat
  n = 0x09 || n = 0x0A || n = 0x0D || (0x20 ≤ n && n ≤ 0x7E) ||
    n = 0x85 || (0xA0 ≤ n && n ≤ 0xD7FF) ||
    (0xE000 ≤ n && n ≤ 0xFFFD) || 0x10000 ≤ n

------------------------------------------------------------
-- Cursors
------------------------------------------------------------

/-
  What is left of a document of a size, where that begins, and
  up to which place the document has been looked at.
-/
structure Cursor where
  rest : List Char
  size : Nat := 0
  index : Nat := 0
  line : Nat := 0
  column : Nat := 0
  reach : Nat := 0
  deriving Repr, Inhabited

namespace Cursor

/- The start of a text. -/
def ofText
    (text : List Char) : Cursor :=
  { rest := text, size := text.length }

/- The number of characters to come. -/
def left
    (c : Cursor) : Nat :=
  c.size - c.index

/- The character a given number of places ahead. -/
def peek
    (c : Cursor)
    (n : Nat := 0) : Char :=
  (c.rest[n]?).getD endMark

/- The same place, with the document looked at further on. -/
def demand
    (c : Cursor)
    (n : Nat) : Cursor :=
  { c with reach := max c.reach (c.index + n) }

/- A fault at this place. -/
def fault
    (c : Cursor)
    (cause : Failure) : Fault :=
  ⟨cause, c.reach⟩

/- The next characters, as many as there are. -/
def ahead
    (c : Cursor)
    (n : Nat) : List Char :=
  c.rest.take n

/- The character ends a line, given what follows it. -/
def endsLine
    (c : Char)
    (rest : List Char) : Bool :=
  if c = '\r' then rest.head? ≠ some '\n' else isBreak c

/- One character further; a byte order mark takes no column. -/
def next
    (c : Cursor) : Cursor :=
  match c.rest with
  | [] => c
  | ch :: rest =>
      if endsLine ch rest then
        { c with
          rest := rest
          index := c.index + 1
          line := c.line + 1
          column := 0
          reach := max c.reach (c.index + 1) }
      else
        { c with
          rest := rest
          index := c.index + 1
          column := if ch = '\uFEFF' then c.column else c.column + 1
          reach := max c.reach (c.index + 1) }

/- A number of characters further. -/
def advance
    (c : Cursor) :
    Nat → Cursor
  | 0 => c
  | n + 1 => c.next.advance n

/- The next characters of a class, and the place behind them. -/
def span
    (c : Cursor)
    (p : Char → Bool) : List Char × Cursor :=
  let taken := c.rest.takeWhile p
  (taken, c.advance taken.length)

/- The place behind all next characters of a class. -/
def skip
    (c : Cursor)
    (p : Char → Bool) : Cursor :=
  (c.span p).2

/- The place behind all next spaces. -/
def skipSpaces
    (c : Cursor) : Cursor :=
  c.skip (· = ' ')

/- The place behind a comment that starts here. -/
def skipComment
    (c : Cursor) : Cursor :=
  if c.peek = '#' then c.skip (!isStop ·) else c

/-
  The line break that stands here, and the place behind it.
  The usual breaks all become a line feed.
-/
def takeBreak
    (c : Cursor) : List Char × Cursor :=
  let ch := c.peek
  if ch = '\r' ∧ c.peek 1 = '\n' then (['\n'], c.advance 2)
  else if ch = '\r' ∨ ch = '\n' ∨ ch = '\x85' then (['\n'], c.next)
  else if ch = '\u2028' ∨ ch = '\u2029' then ([ch], c.next)
  else ([], c)

/- Three of the characters that divide documents stand here. -/
def atMarks
    (c : Cursor) : Bool :=
  c.ahead 3 = ['-', '-', '-'] || c.ahead 3 = ['.', '.', '.']

/- A line of three such characters divides documents. -/
def atDivider
    (c : Cursor) : Bool :=
  c.atMarks && isGap (c.peek 3)

/- The same place, once it is known whether a divider is here. -/
def seekDivider
    (c : Cursor) : Cursor :=
  c.demand (if c.atMarks then 3 else 2)

end Cursor

end Yaml

end SyntaxOutline
