import SyntaxOutline.Value.Basic

/-
  Outlines: simplified syntax trees.

  A leaf carries the text of an atomic token, what is known
  about it, and the hidden text around it.  A branch carries a
  label: the shape of its source with every child written as
  one placeholder.

  Key definitions include:
    * `Leaf`
    * `Outline`
    * `Branch`
    * `Branch.leaves`
    * `Branch.toValue`
-/

------------------------------------------------------------
-- Leaves And Branches
------------------------------------------------------------

namespace SyntaxOutline

/- A leaf.  A missing flag means false, a missing text empty. -/
structure Leaf where
  token : String
  isVariable : Option Bool := none
  isCapitalized : Option Bool := none
  leading : Option String := none
  trailing : Option String := none
  deriving DecidableEq, Repr, Inhabited

/- A leaf, or a label over an ordered list of parts. -/
inductive Outline where
  | leaf (leaf : Leaf)
  | branch (label : String) (children : List Outline)
  deriving Repr, Inhabited

/- An outline that is not a leaf. -/
structure Branch where
  label : String
  children : List Outline
  deriving Repr, Inhabited

/- The branch as an outline. -/
def Branch.toOutline
    (b : Branch) : Outline :=
  .branch b.label b.children

------------------------------------------------------------
-- Leaves Of An Outline
------------------------------------------------------------

namespace Outline

mutual

/- The leaves of an outline in document order. -/
def leaves : Outline → List Leaf
  | .leaf l => [l]
  | .branch _ children => leavesAll children

/- The leaves of outlines that stand side by side. -/
def leavesAll : List Outline → List Leaf
  | [] => []
  | child :: rest => leaves child ++ leavesAll rest

end

end Outline

/- The leaves of a branch in document order. -/
def Branch.leaves
    (b : Branch) : List Leaf :=
  Outline.leavesAll b.children

------------------------------------------------------------
-- Outlines As Data
------------------------------------------------------------

/- A field that is written only when it is there. -/
def optionalField
    {α : Type}
    (name : String)
    (write : α → Value) :
    Option α → List (String × Value)
  | none => []
  | some a => [(name, write a)]

/- A leaf as data; what is missing is left out. -/
def Leaf.toValue
    (l : Leaf) : Value :=
  .record <|
    [("token", .str l.token), ("isLeaf", .bool true)] ++
      optionalField "isVariable" .bool l.isVariable ++
      optionalField "isCapitalized" .bool l.isCapitalized ++
      optionalField "leading" .str l.leading ++
      optionalField "trailing" .str l.trailing

namespace Outline

mutual

/- An outline as data. -/
def toValue : Outline → Value
  | .leaf l => l.toValue
  | .branch label children =>
      .record
        [("label", .str label), ("children", .list (toValues children))]

/- Outlines as data, one by one. -/
def toValues : List Outline → List Value
  | [] => []
  | child :: rest => toValue child :: toValues rest

end

end Outline

/- A branch as data. -/
def Branch.toValue
    (b : Branch) : Value :=
  b.toOutline.toValue

end SyntaxOutline
