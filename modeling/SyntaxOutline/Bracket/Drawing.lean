import SyntaxOutline.Bracket.Reading

/-
  Drawing a tree with box characters.

  A node is drawn as its number, a space and its text.  The
  drawings of its children follow below it, each behind a
  branch; a child's further lines are moved to the right under
  its branch.  A text may itself hold line ends, and its lines
  are moved like all others.

  Key definitions include:
    * `Bracket.Node.draw`
    * `Bracket.draw`
    * `Bracket.DrawError`
-/

------------------------------------------------------------
-- Branches
------------------------------------------------------------

namespace SyntaxOutline

namespace Bracket

/- Before a child that has later siblings. -/
def branch : String := "├──"

/- Before the last child. -/
def lastBranch : String := "└──"

/- Before the further lines of a child with later siblings. -/
def pipeIndent : String := "│  "

/- Before the further lines of the last child. -/
def spaceIndent : String := "   "

/- Put `pad` behind every line end of a block of text. -/
def indent
    (pad block : String) : String :=
  String.ofList
    (block.toList.flatMap fun c =>
      if c = '\n' then c :: pad.toList else [c])

------------------------------------------------------------
-- Drawings
------------------------------------------------------------

namespace Node

/-
  The first part of a drawing: number, space, text.  The limit
  on the digits of integers that are written out, which holds
  for values in the log, is left out here: a number of any
  length is written.
-/
def heading
    (id : Int)
    (value : String) : String :=
  toString id ++ " " ++ value

mutual

/- The drawing of a tree. -/
def draw : Node → String
  | mk id value children =>
      heading id value ++ drawBelow children

/- The drawings of siblings, each on lines of its own. -/
def drawBelow : List Node → String
  | [] => ""
  | [child] =>
      "\n" ++ lastBranch ++ indent spaceIndent (draw child)
  | child :: sibling :: rest =>
      "\n" ++ branch ++ indent pipeIndent (draw child) ++
        drawBelow (sibling :: rest)

end

end Node

------------------------------------------------------------
-- Drawing What Was Read
------------------------------------------------------------

/- Why a drawing can fail. -/
inductive DrawError where
  | noRoot
  deriving DecidableEq, Repr

/- The text of the only failure. -/
def DrawError.message : DrawError → String
  | .noRoot => "Cannot render a tree without a root"

/- The drawing of a tree that may have no root. -/
def draw : Option Node → Except DrawError String
  | none => .error .noRoot
  | some root => .ok root.draw

/- Read a text and draw its tree. -/
def drawText
    (text : Option String) : Except DrawError String :=
  draw (read? text)

end Bracket

end SyntaxOutline
