import SyntaxOutline.Token
import SyntaxOutline.Value.Misuse

/-
  Asking a stream of tokens by plain data.

  An index and a channel may be values of any kind.  True and
  false count as one and zero.  A number that is not an integer
  can be compared with the ends of the range, but no token is
  at it.  A channel that is no integer holds no tokens.

  Key definitions include:
    * `Stream.channelOf?`
    * `Stream.Refusal`
    * `Stream.tokenAt`
    * `Stream.leftOf`
    * `Stream.rightOf`
-/

------------------------------------------------------------
-- Channels And Indices
------------------------------------------------------------

namespace SyntaxOutline

namespace Stream

/- The channel that a value names, if it names any. -/
def channelOf? : Value → Option Int
  | .bool b => some (if b then 1 else 0)
  | .int n => some n
  | .float x => x.toInt?
  | _ => none

/- The index that a value gives. -/
inductive Index where
  | whole (n : Int)
  | ratio (upper lower : Int)
  deriving DecidableEq, Repr

/- The index that a value gives, if it is a number. -/
def indexOf? : Value → Option Index
  | .bool b => some (.whole (if b then 1 else 0))
  | .int n => some (.whole n)
  | .float x => x.toRatio?.map fun (upper, lower) => .ratio upper lower
  | _ => none

/- The index, moved by some tokens, lies within a stream. -/
def Index.liesIn
    (s : Stream)
    (shift : Int) :
    Index → Bool
  | .whole n => 0 ≤ n + shift && n + shift < s.size
  | .ratio upper lower =>
      0 ≤ upper + shift * lower && upper + shift * lower < s.size * lower

------------------------------------------------------------
-- Inquiries
------------------------------------------------------------

/- Why an inquiry has no answer. -/
inductive Refusal where
  | outOfRange (index : String) (size : Nat)
  | misuse (cause : Misuse)
  deriving DecidableEq, Repr

/- The text of a refusal. -/
def Refusal.message : Refusal → String
  | .outOfRange index size => rangeMessage index size
  | .misuse cause => cause.message

/- The index of a value, which must lie within the stream. -/
def checkedIndex
    (s : Stream)
    (value : Value) : Except Refusal Index :=
  match indexOf? value with
  | none => .error (.misuse (.notOrdered value.kindName))
  | some index =>
      if index.liesIn s 0 then .ok index
      else .error (.outOfRange value.literal s.size)

/- An answer that an index gives, unless it is no integer. -/
def answerAt
    {α : Type}
    (s : Stream)
    (value : Value)
    (shift : Int)
    (default : Except Refusal α)
    (answer : Int → Except OutOfRange α) : Except Refusal α := do
  match ← s.checkedIndex value with
  | .whole n =>
      (answer n).mapError fun e => .outOfRange value.literal e.size
  | index =>
      if index.liesIn s shift then
        .error (.misuse (.listIndex value.kindName))
      else default

/- The token at the index that a value gives. -/
def tokenAt
    (s : Stream)
    (value : Value) : Except Refusal Token :=
  s.answerAt value 0 (.error (.outOfRange value.literal s.size)) s.get

/- The hidden tokens before the index that a value gives. -/
def leftOf
    (s : Stream)
    (value : Value)
    (channel : Option Int) : Except Refusal (List Token) :=
  s.answerAt value (-1) (.ok []) fun n => s.hiddenBefore n channel

/- The hidden tokens after the index that a value gives. -/
def rightOf
    (s : Stream)
    (value : Value)
    (channel : Option Int) : Except Refusal (List Token) :=
  s.answerAt value 1 (.ok []) fun n => s.hiddenAfter n channel

end Stream

end SyntaxOutline
