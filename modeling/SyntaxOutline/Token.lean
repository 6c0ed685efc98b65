/-
  Tokens and token streams.

  Tokens lie on channels.  The default channel holds what the
  grammar is about; white space and comments lie on others and
  are hidden.  A stream answers which hidden tokens stand
  right before and right after a token.

  Key definitions include:
    * `Token`
    * `Token.IsHidden`
    * `Stream`
    * `Stream.get`
    * `Stream.hiddenBefore`
    * `Stream.hiddenAfter`
-/

------------------------------------------------------------
-- Tokens
------------------------------------------------------------

namespace SyntaxOutline

/- A token: its text, its type, its place and its channel. -/
structure Token where
  text : String
  type : Int
  index : Int
  channel : Int
  deriving DecidableEq, Repr, Inhabited

namespace Token

/- The channel of the tokens that the grammar is about. -/
def defaultChannel : Int := 0

/- The usual channel of white space and comments. -/
def hiddenChannel : Int := 1

/- The type of the token at the end of the input. -/
def endType : Int := -1

/- The token does not lie on the default channel. -/
def IsHidden
    (t : Token) : Prop :=
  t.channel ≠ defaultChannel

instance
    (t : Token) :
    Decidable t.IsHidden := by
  unfold IsHidden
  infer_instance

end Token

------------------------------------------------------------
-- Streams
------------------------------------------------------------

/- All tokens of a source, in order. -/
structure Stream where
  tokens : List Token
  deriving DecidableEq, Repr, Inhabited

namespace Stream

/- An index that no token of a stream has. -/
structure OutOfRange where
  index : Int
  size : Nat
  deriving DecidableEq, Repr

/- That an index is out of range, which is given by its ends. -/
def rangeMessage
    (index : String)
    (size : Nat) : String :=
  "token index " ++ index ++ " out of range 0.." ++
    toString ((size : Int) - 1)

/-
  The text of the failure.  The limit on the digits of integers
  that are written out, which holds for values in the log, is
  left out here: an index of any length is written.
-/
def OutOfRange.message
    (e : OutOfRange) : String :=
  rangeMessage (toString e.index) e.size

/- The number of tokens. -/
def size
    (s : Stream) : Nat :=
  s.tokens.length

/- The index lies within the stream. -/
def InRange
    (s : Stream)
    (index : Int) : Prop :=
  0 ≤ index ∧ index < s.size

instance
    (s : Stream)
    (index : Int) :
    Decidable (s.InRange index) := by
  unfold InRange
  infer_instance

/- The index as a position, if it lies within the stream. -/
def position
    (s : Stream)
    (index : Int) : Except OutOfRange Nat :=
  if s.InRange index then .ok index.toNat
  else .error ⟨index, s.size⟩

/- The token at an index. -/
def get
    (s : Stream)
    (index : Int) : Except OutOfRange Token := do
  let i ← s.position index
  match s.tokens[i]? with
  | some t => return t
  | none => .error ⟨index, s.size⟩

/- The run of hidden tokens that ends right before a position. -/
def runBefore
    (s : Stream)
    (i : Nat) : List Token :=
  ((s.tokens.take i).reverse.takeWhile
    fun t => decide t.IsHidden).reverse

/- The run of hidden tokens that starts right after a position. -/
def runAfter
    (s : Stream)
    (i : Nat) : List Token :=
  (s.tokens.drop (i + 1)).takeWhile fun t => decide t.IsHidden

/-
  The tokens on a channel in the run before an index.  Without a
  channel there are none.
-/
def hiddenBefore
    (s : Stream)
    (index : Int)
    (channel : Option Int) : Except OutOfRange (List Token) := do
  let i ← s.position index
  return (s.runBefore i).filter fun t => channel = some t.channel

/-
  The tokens on a channel in the run after an index.  Without a
  channel there are none.
-/
def hiddenAfter
    (s : Stream)
    (index : Int)
    (channel : Option Int) : Except OutOfRange (List Token) := do
  let i ← s.position index
  return (s.runAfter i).filter fun t => channel = some t.channel

end Stream

end SyntaxOutline
