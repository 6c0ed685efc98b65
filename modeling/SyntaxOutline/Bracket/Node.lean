/-
  Nodes of a tree written in bracket notation, and the
  notation they are written in.

  A node carries a number, a text and its children in
  order.  Written out, a node is its text followed by its
  children, between one pair of parentheses; numbers are not
  written.

  Key definitions include:
    * `Bracket.Node`
    * `Bracket.Node.count`
    * `Bracket.Node.dump`
-/

------------------------------------------------------------
-- Nodes
------------------------------------------------------------

namespace SyntaxOutline

namespace Bracket

/- A numbered node with its text and its ordered children. -/
inductive Node where
  | mk (id : Int) (value : String) (children : List Node)
  deriving Repr, Inhabited

namespace Node

/- The number of a node. -/
def id : Node → Int
  | mk id _ _ => id

/- The text of a node. -/
def value : Node → String
  | mk _ value _ => value

/- The children of a node, in order. -/
def children : Node → List Node
  | mk _ _ children => children

------------------------------------------------------------
-- Equality
------------------------------------------------------------

mutual

/- Equality of nodes is decided number by number, text by
   text and child by child. -/
def decideEq : (a b : Node) → Decidable (a = b)
  | mk i v cs, mk j w ds =>
      if hi : i = j then
        if hv : v = w then
          match decideEqAll cs ds with
          | isTrue hc => isTrue (by rw [hi, hv, hc])
          | isFalse hc =>
              isFalse (by intro h; cases h; exact hc rfl)
        else
          isFalse (by intro h; cases h; exact hv rfl)
      else
        isFalse (by intro h; cases h; exact hi rfl)

/- Equality of child lists, element by element. -/
def decideEqAll : (as bs : List Node) → Decidable (as = bs)
  | [], [] => isTrue rfl
  | [], _ :: _ => isFalse (by intro h; cases h)
  | _ :: _, [] => isFalse (by intro h; cases h)
  | a :: as, b :: bs =>
      match decideEq a b with
      | isTrue ha =>
          match decideEqAll as bs with
          | isTrue hs => isTrue (by rw [ha, hs])
          | isFalse hs =>
              isFalse (by intro h; cases h; exact hs rfl)
      | isFalse ha =>
          isFalse (by intro h; cases h; exact ha rfl)

end

instance : DecidableEq Node := decideEq

------------------------------------------------------------
-- Size And Written Form
------------------------------------------------------------

mutual

/- The number of nodes of a tree, its root included. -/
def count : Node → Nat
  | mk _ _ children => 1 + countAll children

/- The number of nodes of a list of trees. -/
def countAll : List Node → Nat
  | [] => 0
  | child :: rest => count child + countAll rest

end

mutual

/- A tree in bracket notation: the text comes before the
   children. -/
def dump : Node → String
  | mk _ value children =>
      "(" ++ value ++ dumpAll children ++ ")"

/- Trees written one after another. -/
def dumpAll : List Node → String
  | [] => ""
  | child :: rest => dump child ++ dumpAll rest

end

end Node

end Bracket

end SyntaxOutline
