/-
  Line ends.

  Files may end their lines with a carriage return, with a
  line feed or with both.  Reading a file as text makes a line
  feed of each.

  Key definitions include:
    * `Text.unifyLineEnds`
-/

------------------------------------------------------------
-- Line Ends
------------------------------------------------------------

namespace SyntaxOutline

namespace Text

/- The text with every line end written as a line feed. -/
def unifyLineEnds : List Char → List Char
  | [] => []
  | '\r' :: '\n' :: rest => '\n' :: unifyLineEnds rest
  | c :: rest =>
      (if c = '\r' then '\n' else c) :: unifyLineEnds rest

/- A text whose lines all end with a line feed. -/
def asRead
    (text : String) : String :=
  String.ofList (unifyLineEnds text.toList)

end Text

end SyntaxOutline
