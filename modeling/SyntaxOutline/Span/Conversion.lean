import SyntaxOutline.Cst
import SyntaxOutline.Span.Tree

/-
  From spans to tokens and a concrete syntax tree.

  Spans without parts, and spans of kinds that are asked for,
  become tokens of the tree.  Spans that may stand anywhere
  become hidden tokens, and so does all source that no token
  covers.  Tokens are numbered as they come.  A last token marks
  the end of the input.

  Key definitions include:
    * `Span.Tape`
    * `Span.Tape.add`
    * `Span.convertAll`
    * `Span.convert`
-/

------------------------------------------------------------
-- Tapes
------------------------------------------------------------

namespace SyntaxOutline

namespace Span

/- The type of tokens for source that no span covers. -/
def gapType : Int := -2

/- The text of the token at the end of the input. -/
def endText : String := "<EOF>"

/- The tokens so far, and the octet up to which they reach. -/
structure Tape where
  offset : Nat
  tokens : List Token
  deriving Repr, DecidableEq

namespace Tape

/- Nothing has been read. -/
def start : Tape :=
  ⟨0, []⟩

/- The number that the next token gets. -/
def next
    (t : Tape) : Int :=
  t.tokens.length

/- Add the source up to an octet as a hidden token. -/
def addGap
    (source : List UInt8)
    (t : Tape)
    (upTo : Int) : Tape :=
  if upTo ≤ t.offset then t
  else
    { offset := upTo.toNat
      tokens :=
        t.tokens ++
          [⟨Text.slice source t.offset upTo.toNat, gapType, t.next,
            Token.hiddenChannel⟩] }

/- The token of a span, where the given tokens come before it. -/
def tokenOf
    (source : List UInt8)
    (t : Tape)
    (span : Span)
    (channel : Int) : Token :=
  ⟨span.text source, span.kind, t.next, channel⟩

/- Add the token of a span behind the gap before it. -/
def add
    (source : List UInt8)
    (t : Tape)
    (span : Span)
    (channel : Int) : Token × Tape :=
  let t := t.addGap source span.start
  let token := t.tokenOf source span channel
  (token, ⟨max t.offset span.stop.toNat, t.tokens ++ [token]⟩)

end Tape

------------------------------------------------------------
-- Conversion
------------------------------------------------------------

variable (source : List UInt8) (isToken : String → Bool)

/- The span with these parts is one token. -/
def isAtom
    (span : Span)
    (children : List SpanTree) : Bool :=
  children.isEmpty || isToken span.name

mutual

/- The children of a rule from spans that stand side by side. -/
def convertAll
    (rule : Int) :
    List SpanTree → Tape → List Cst × Tape
  | [], t => ([], t)
  | tree :: rest, t =>
      let (first, t) := convertOne rule tree t
      let (others, t) := convertAll rule rest t
      (first ++ others, t)

/- What a span gives to the rule around it. -/
def convertOne
    (rule : Int) :
    SpanTree → Tape → List Cst × Tape
  | .mk span children, t =>
      if span.isExtra then
        ([], (t.add source span Token.hiddenChannel).2)
      else if isAtom isToken span children then
        let (token, t) := t.add source span Token.defaultChannel
        ([.terminal ⟨token.text, some token, some rule⟩], t)
      else
        let (inner, t) := convertAll span.kind children t
        ([.rule (some span.kind) inner], t)

end

/- The tree and the tokens of a source, given its spans. -/
def convert
    (root : SpanTree) : Rule × Stream :=
  let rule := root.span.kind
  let (children, t) :=
    convertAll source isToken rule root.children Tape.start
  let t := t.addGap source source.length
  let last : Token :=
    ⟨endText, Token.endType, t.next, Token.defaultChannel⟩
  (⟨some rule, children ++ [.terminal ⟨endText, some last, some rule⟩]⟩,
    ⟨t.tokens ++ [last]⟩)

end Span

end SyntaxOutline
