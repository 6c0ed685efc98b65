import SyntaxOutline.Text.Utf8

/-
  Syntax trees as spans of the source.

  An external parser hands over a tree of spans.  A span knows
  the number and the name of its kind, its octets in the source,
  whether it may stand anywhere (like a comment), and whether
  something in it could not be parsed.  A negative place counts
  from the end of the source.

  Key definitions include:
    * `Span`
    * `Span.text`
    * `SpanTree`
-/

------------------------------------------------------------
-- Spans
------------------------------------------------------------

namespace SyntaxOutline

/- A part of a source, from octet `start` up to octet `stop`. -/
structure Span where
  kind : Int
  name : String
  start : Int
  stop : Int
  isExtra : Bool := false
  hasError : Bool := false
  deriving DecidableEq, Repr, Inhabited

namespace Span

/- The octet at a place, where a negative one counts from the end. -/
def octetAt
    (size : Nat)
    (place : Int) : Nat :=
  (if place < 0 then place + size else place).toNat

/- The text of a part of a source between two places. -/
def textBetween
    (source : List UInt8)
    (start stop : Int) : String :=
  Text.slice source (octetAt source.length start)
    (octetAt source.length stop)

/- The text of a span. -/
def text
    (source : List UInt8)
    (span : Span) : String :=
  textBetween source span.start span.stop

/- A place that is not negative is its own octet. -/
@[simp] theorem octetAt_ofNat
    (size place : Nat) :
    octetAt size place = place := by
  have h : ¬ ((place : Int) < 0) := by omega
  simp [octetAt, h]

end Span

/- A tree of spans. -/
inductive SpanTree where
  | mk (span : Span) (children : List SpanTree)
  deriving Repr, Inhabited

namespace SpanTree

/- The span of the root. -/
def span : SpanTree → Span
  | mk span _ => span

/- The trees right below the root. -/
def children : SpanTree → List SpanTree
  | mk _ children => children

end SpanTree

end SyntaxOutline
