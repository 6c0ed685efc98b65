import SyntaxOutline.Bracket.Mark
import SyntaxOutline.Bracket.Node

/-
  Reading bracket notation.

  A text is read mark by mark.  The state of a reading is the
  spine of the tree built so far: the node that receives the
  next character, then its parent, and so on up to the root.
  `depth` says how many of these nodes still wait for their
  closing parenthesis.

  No text is refused.  Characters before the first opening
  parenthesis are dropped, nodes left open keep what they
  have, and once nothing waits for a closing parenthesis the
  node closed last stays at the tip of the spine: it receives
  what follows, and further closing parentheses do nothing.

  Key definitions include:
    * `Bracket.Frame`
    * `Bracket.Reading`
    * `Bracket.Reading.step`
    * `Bracket.read`
-/

------------------------------------------------------------
-- Frames
------------------------------------------------------------

namespace SyntaxOutline

namespace Bracket

/- A node under construction: its finished children are known. -/
structure Frame where
  id : Int
  value : String
  finished : List Node
  deriving Repr

namespace Frame

/- The node that a frame stands for when nothing is added. -/
def close
    (f : Frame) : Node :=
  .mk f.id f.value f.finished

/- The frame with one more finished child. -/
def attach
    (f : Frame)
    (child : Node) : Frame :=
  { f with finished := f.finished ++ [child] }

/- The frame with one more character of text. -/
def push
    (f : Frame)
    (c : Char) : Frame :=
  { f with value := f.value.push c }

end Frame

------------------------------------------------------------
-- Readings
------------------------------------------------------------

/-
  The spine from the tip to the root, the number of nodes on
  it that wait for their closing parenthesis, and the number
  that the next node gets.
-/
structure Reading where
  next : Nat
  depth : Nat
  spine : List Frame
  deriving Repr

namespace Reading

/- Nothing has been read. -/
def start : Reading :=
  ⟨0, 0, []⟩

/-
  Reading one mark.  Only a closing parenthesis that leaves
  some node waiting moves the tip up to the parent.
-/
def step
    (r : Reading) : Mark → Reading
  | .opening =>
      { next := r.next + 1
        depth := r.depth + 1
        spine := ⟨r.next, "", []⟩ :: r.spine }
  | .closing =>
      match r.depth, r.spine with
      | depth + 2, tip :: parent :: above =>
          { r with
            depth := depth + 1
            spine := parent.attach tip.close :: above }
      | depth, spine =>
          { r with depth := depth - 1, spine := spine }
  | .text c =>
      match r.spine with
      | [] => r
      | tip :: above => { r with spine := tip.push c :: above }

/- The tree over `child` when the given frames are closed. -/
def closeOver
    (child : Node) :
    List Frame → Node
  | [] => child
  | parent :: above =>
      closeOver (parent.attach child).close above

/- The tree read so far, if any node was opened. -/
def root?
    (r : Reading) : Option Node :=
  match r.spine with
  | [] => none
  | tip :: above => some (closeOver tip.close above)

end Reading

------------------------------------------------------------
-- Reading A Text
------------------------------------------------------------

/- The tree of a text, or `none` when it opens no node. -/
def read
    (text : String) : Option Node :=
  ((marks text.toList).foldl Reading.step .start).root?

/- The tree of a text that may be missing altogether. -/
def read?
    (text : Option String) : Option Node :=
  text.bind read

end Bracket

end SyntaxOutline
