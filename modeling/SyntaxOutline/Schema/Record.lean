import SyntaxOutline.Bracket.Node
import SyntaxOutline.Classification
import SyntaxOutline.Cst
import SyntaxOutline.Outline

/-
  Things as plain data with all of their fields.

  What is missing is written as null, so every thing of one
  kind has the same fields.

  Key definitions include:
    * `Token.fields`
    * `Terminal.fields`
    * `Rule.fields`
    * `Bracket.Node.fields`
    * `Leaf.fields`
    * `Branch.fields`
    * `Classification.fields`
    * `ParsedSource.fields`
-/

------------------------------------------------------------
-- Tokens And Trees
------------------------------------------------------------

namespace SyntaxOutline

/- An integer, or null when it is missing. -/
def Value.ofInt? : Option Int → Value
  | none => .null
  | some n => .int n

/- A truth value, or null when it is missing. -/
def Value.ofBool? : Option Bool → Value
  | none => .null
  | some b => .bool b

/- The fields of a token. -/
def Token.fields
    (t : Token) : List (String × Value) :=
  [("text", .str t.text), ("type", .int t.type),
    ("token_index", .int t.index), ("channel", .int t.channel)]

/- The fields of a terminal. -/
def Terminal.fields
    (t : Terminal) : List (String × Value) :=
  [("kind", .str "terminal"), ("text", .str t.text),
    ("symbol",
      match t.symbol with
      | none => .null
      | some symbol => .record symbol.fields),
    ("rule_index", .ofInt? t.rule)]

mutual

/- A tree with all of its fields. -/
def Cst.fullRecord : Cst → Value
  | .terminal t => .record t.fields
  | .rule index children =>
      .record
        [("kind", .str "rule"), ("rule_index", .ofInt? index),
          ("children", .list (Cst.fullRecords children))]

/- Trees with all of their fields, one by one. -/
def Cst.fullRecords : List Cst → List Value
  | [] => []
  | child :: rest => Cst.fullRecord child :: Cst.fullRecords rest

end

/- The fields of a rule. -/
def Rule.fields
    (r : Rule) : List (String × Value) :=
  [("kind", .str "rule"), ("rule_index", .ofInt? r.index),
    ("children", .list (Cst.fullRecords r.children))]

/- The fields of what a plugin hands over. -/
def ParsedSource.fields
    (p : ParsedSource) : List (String × Value) :=
  [("tree", .record p.tree.fields),
    ("rule_names", .strs p.ruleNames),
    ("symbolic_names", .list (p.symbolNames.map .ofText?)),
    ("token_count", .int p.stream.size)]

------------------------------------------------------------
-- Bracket Nodes
------------------------------------------------------------

mutual

/- A bracket node with all of its fields. -/
def Bracket.Node.fullRecord : Bracket.Node → Value
  | .mk id value children =>
      .record
        [("id", .int id), ("value", .str value),
          ("children", .list (Bracket.Node.fullRecords children))]

/- Bracket nodes with all of their fields, one by one. -/
def Bracket.Node.fullRecords : List Bracket.Node → List Value
  | [] => []
  | child :: rest =>
      Bracket.Node.fullRecord child :: Bracket.Node.fullRecords rest

end

/- The fields of a bracket node. -/
def Bracket.Node.fields
    (n : Bracket.Node) : List (String × Value) :=
  [("id", .int n.id), ("value", .str n.value),
    ("children", .list (Bracket.Node.fullRecords n.children))]

------------------------------------------------------------
-- Outlines
------------------------------------------------------------

/- The fields of a leaf. -/
def Leaf.fields
    (l : Leaf) : List (String × Value) :=
  [("token", .str l.token), ("is_leaf", .bool true),
    ("is_variable", .ofBool? l.isVariable),
    ("is_capitalized", .ofBool? l.isCapitalized),
    ("leading", .ofText? l.leading),
    ("trailing", .ofText? l.trailing)]

mutual

/- An outline with all of its fields. -/
def Outline.fullRecord : Outline → Value
  | .leaf l => .record l.fields
  | .branch label children =>
      .record
        [("label", .str label),
          ("children", .list (Outline.fullRecords children))]

/- Outlines with all of their fields, one by one. -/
def Outline.fullRecords : List Outline → List Value
  | [] => []
  | child :: rest =>
      Outline.fullRecord child :: Outline.fullRecords rest

end

/- The fields of a branch. -/
def Branch.fields
    (b : Branch) : List (String × Value) :=
  [("label", .str b.label),
    ("children", .list (Outline.fullRecords b.children))]

/- The fields of a classification; its names are in order. -/
def Classification.fields
    (c : Classification) : List (String × Value) :=
  [("rule_names", .set ((sortedNames c.ruleNames).map .str)),
    ("symbolic_names", .set ((sortedNames c.symbolNames).map .str)),
    ("identifier_symbolic_name", .str c.identifierName)]

end SyntaxOutline
