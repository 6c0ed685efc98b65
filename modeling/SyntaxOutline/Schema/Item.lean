import SyntaxOutline.Schema.Outline
import SyntaxOutline.Schema.Record
import SyntaxOutline.Schema.Source
import SyntaxOutline.Value.Fields

/-
  Checked things of all kinds.

  Key definitions include:
    * `Schema.Kind`
    * `Schema.Item`
    * `Schema.Item.fields`
    * `Schema.Item.check`
-/

------------------------------------------------------------
-- Kinds And Items
------------------------------------------------------------

namespace SyntaxOutline

namespace Schema

/- The kinds of things that can be checked. -/
inductive Kind where
  | token
  | terminal
  | rule
  | node
  | leaf
  | branch
  | classification
  | parsedSource
  deriving DecidableEq, Repr

namespace Kind

/- The name of a kind in messages. -/
def title : Kind → String
  | .token => "Token"
  | .terminal => "TerminalNode"
  | .rule => "RuleNode"
  | .node => "BracketNode"
  | .leaf => "SimpleParseTreeLeaf"
  | .branch => "SimpleParseTree"
  | .classification => "LeafClassification"
  | .parsedSource => "ParsedSource"

/- All kinds. -/
def all : List Kind :=
  [.token, .terminal, .rule, .node, .leaf, .branch,
    .classification, .parsedSource]

/- The kind with a name. -/
def ofTitle?
    (name : String) : Option Kind :=
  all.find? (·.title = name)

/- The names of the fields of a kind. -/
def fieldNames : Kind → List String
  | .token => ["text", "type", "token_index", "channel"]
  | .terminal => ["kind", "text", "symbol", "rule_index"]
  | .rule => ["kind", "rule_index", "children"]
  | .node => ["id", "value", "children"]
  | .leaf =>
      ["token", "is_leaf", "is_variable", "is_capitalized",
        "leading", "trailing"]
  | .branch => ["label", "children"]
  | .classification =>
      ["rule_names", "symbolic_names", "identifier_symbolic_name"]
  | .parsedSource =>
      ["tree", "rule_names", "symbolic_names", "token_stream"]

/- The names of what things of a kind tell about themselves. -/
def computedNames : Kind → List String
  | .rule => ["child_count", "model_extra", "model_fields_set"]
  | _ => ["model_extra", "model_fields_set"]

end Kind

/- A checked thing. -/
inductive Item where
  | token (t : Token)
  | terminal (t : Terminal)
  | rule (r : Rule)
  | node (n : Bracket.Node)
  | leaf (l : Leaf)
  | branch (b : Branch)
  | classification (c : Classification)
  | parsedSource (p : ParsedSource)

namespace Item

/- The kind of a thing. -/
def kind : Item → Kind
  | .token _ => .token
  | .terminal _ => .terminal
  | .rule _ => .rule
  | .node _ => .node
  | .leaf _ => .leaf
  | .branch _ => .branch
  | .classification _ => .classification
  | .parsedSource _ => .parsedSource

/- All fields of a thing. -/
def fields : Item → Fields
  | .token t => t.fields
  | .terminal t => t.fields
  | .rule r => r.fields
  | .node n => n.fields
  | .leaf l => l.fields
  | .branch b => b.fields
  | .classification c => c.fields
  | .parsedSource p => p.fields

/-
  A thing of a kind out of plain data.  Tokens given with a
  parsed source make its stream, and are checked first.
-/
def check
    (kind : Kind)
    (data : Value) : Except Rejection Item :=
  let checked (outcome : Checked Item) : Except Rejection Item :=
    (titled kind.title outcome).mapError .invalid
  match kind with
  | .token => checked ((Schema.token data).map .token)
  | .terminal => checked ((Schema.terminal data).map .terminal)
  | .rule => checked ((Schema.rule data).map .rule)
  | .node => checked ((Schema.node data).map .node)
  | .leaf => checked ((Schema.leaf data).map .leaf)
  | .branch => checked ((Schema.branch data).map .branch)
  | .classification =>
      checked ((Schema.classification data).map .classification)
  | .parsedSource => do
      let stream ←
        match data.field? "tokens" with
        | some tokens => (Schema.streamOf tokens).map some
        | none => pure none
      checked ((Schema.parsedSource stream data).map .parsedSource)

end Item

end Schema

end SyntaxOutline
