import SyntaxOutline.Token

/-
  Concrete syntax trees, as a grammar plugin hands them over.

  A terminal carries a token, or none when the parser gave
  none; a rule carries its children.  Both may know the number
  of a grammar rule.

  Key definitions include:
    * `Terminal`
    * `Cst`
    * `Rule`
    * `Rule.terminalCount`
    * `Cst.texts`
    * `ParsedSource`
-/

------------------------------------------------------------
-- Trees
------------------------------------------------------------

namespace SyntaxOutline

/- A leaf of a concrete syntax tree. -/
structure Terminal where
  text : String
  symbol : Option Token
  rule : Option Int
  deriving DecidableEq, Repr, Inhabited

/- A concrete syntax tree. -/
inductive Cst where
  | terminal (t : Terminal)
  | rule (index : Option Int) (children : List Cst)
  deriving Repr, Inhabited

/- A tree whose root is a rule. -/
structure Rule where
  index : Option Int
  children : List Cst
  deriving Repr, Inhabited

------------------------------------------------------------
-- Terminals Of A Tree
------------------------------------------------------------

namespace Cst

mutual

/- The terminals of a tree in document order. -/
def terminals : Cst → List Terminal
  | .terminal t => [t]
  | .rule _ children => terminalsAll children

/- The terminals of trees that stand side by side. -/
def terminalsAll : List Cst → List Terminal
  | [] => []
  | child :: rest => terminals child ++ terminalsAll rest

end

/- The texts of all terminals in document order. -/
def texts
    (tree : Cst) : List String :=
  tree.terminals.map (·.text)

end Cst

namespace Rule

/- The rule as a tree. -/
def toCst
    (r : Rule) : Cst :=
  .rule r.index r.children

/- The number of direct children. -/
def childCount
    (r : Rule) : Nat :=
  r.children.length

/- The number of terminals at any depth. -/
def terminalCount
    (r : Rule) : Nat :=
  (Cst.terminalsAll r.children).length

end Rule

------------------------------------------------------------
-- Parsed Sources
------------------------------------------------------------

/-
  What a plugin hands over for a source: the tree, the names
  of rules and of token types, and the tokens.  A token type
  may have no name.
-/
structure ParsedSource where
  tree : Rule
  ruleNames : List String
  symbolNames : List (Option String)
  stream : Stream
  deriving Repr, Inhabited

end SyntaxOutline
