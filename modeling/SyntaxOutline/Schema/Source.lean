import SyntaxOutline.Bracket.Node
import SyntaxOutline.Cst
import SyntaxOutline.Schema.Scalar
import SyntaxOutline.Value.Misuse

/-
  Tokens, concrete syntax trees and bracket nodes out of plain
  data.

  The children of a rule say by their `kind` whether they are
  rules or terminals; the kind stands on the path to what is
  wrong below it.

  Key definitions include:
    * `Schema.token`
    * `Schema.terminal`
    * `Schema.rule`
    * `Schema.parsedSource`
    * `Schema.Rejection`
    * `Schema.streamOf`
    * `Schema.node`
-/

------------------------------------------------------------
-- Tokens And Terminals
------------------------------------------------------------

namespace SyntaxOutline

namespace Schema

/- A token. -/
def token : Value → Checked Token :=
  object "Token" fun entries =>
    .ok Token.mk
      |> taking (required "text" text entries)
      |> taking (required "type" int entries)
      |> taking (required "token_index" int entries)
      |> taking (optional "channel" Token.defaultChannel int entries)

/- The fields of a terminal. -/
def terminalFields
    (entries : List (Value × Value)) : Checked Terminal :=
  .ok (fun _ => Terminal.mk)
    |> taking (literalField "kind" "terminal" entries)
    |> taking (required "text" text entries)
    |> taking (optional "symbol" none (orNull token) entries)
    |> taking (optional "rule_index" none (orNull int) entries)

/- A terminal. -/
def terminal : Value → Checked Terminal :=
  object "TerminalNode" terminalFields

------------------------------------------------------------
-- Rules
------------------------------------------------------------

/- The fields of a rule, its children having been checked. -/
def ruleFields
    (entries : List (Value × Value))
    (children : Option (Checked (List Cst))) : Checked Rule :=
  .ok (fun _ => Rule.mk)
    |> taking (literalField "kind" "rule" entries)
    |> taking (optional "rule_index" none (orNull int) entries)
    |> taking (under (.name "children") (children.getD (.ok [])))

mutual

/- The children that the last entry of this name gives. -/
def ruleChildren :
    List (Value × Value) → Option (Checked (List Cst))
  | [] => none
  | (key, value) :: rest =>
      match ruleChildren rest with
      | some later => some later
      | none =>
          if key.text? = some "children" then some (childList value)
          else none

/- A list of children. -/
def childList : Value → Checked (List Cst)
  | .list items => childrenFrom 0 items
  | _ => fail .notList

/- Children from a position on. -/
def childrenFrom
    (position : Nat) :
    List Value → Checked (List Cst)
  | [] => .ok []
  | item :: rest =>
      .ok List.cons
        |> taking (under (.position position) (child item))
        |> taking (childrenFrom (position + 1) rest)

/- A child, which is a rule or a terminal by its kind. -/
def child : Value → Checked Cst
  | .map entries =>
      match Value.fieldOf? "kind" entries with
      | none => fail .noTag
      | some (.str "rule") =>
          under (.name "rule") <|
            (ruleFields entries (ruleChildren entries)).map Rule.toCst
      | some (.str "terminal") =>
          under (.name "terminal") <|
            (terminalFields entries).map Cst.terminal
      | some kind => fail (.unknownTag kind.sentence)
  | _ => fail .notObject

end

/- A rule. -/
def rule : Value → Checked Rule :=
  object "RuleNode" fun entries =>
    ruleFields entries (ruleChildren entries)

------------------------------------------------------------
-- Parsed Sources
------------------------------------------------------------

/-
  What a plugin hands over.  A stream of tokens is no plain
  data, so it is either supplied apart or faulty.
-/
def parsedSource
    (stream : Option Stream) :
    Value → Checked ParsedSource :=
  object "ParsedSource" fun entries =>
    .ok ParsedSource.mk
      |> taking (required "tree" rule entries)
      |> taking (required "rule_names" (list text) entries)
      |> taking (required "symbolic_names" (list (orNull text)) entries)
      |> taking (match stream with
          | some s => .ok s
          | none =>
              required "token_stream" (fun _ => fail .notStream) entries)

/- A stream of tokens; the first token that is wrong counts. -/
def stream
    (items : List Value) : Except Invalid Stream := do
  let tokens ← items.mapM fun item => titled "Token" (token item)
  return ⟨tokens⟩

/- Why data is refused: it is faulty, or asked for too much. -/
inductive Rejection where
  | invalid (cause : Invalid)
  | misuse (cause : Misuse)
  deriving DecidableEq, Repr

/- A stream of the tokens that are the elements of a value. -/
def streamOf
    (tokens : Value) : Except Rejection Stream := do
  let items ← tokens.elements.mapError .misuse
  (stream items).mapError .invalid

------------------------------------------------------------
-- Bracket Nodes
------------------------------------------------------------

/- The fields of a node, its children having been checked. -/
def nodeFields
    (entries : List (Value × Value))
    (children : Option (Checked (List Bracket.Node))) :
    Checked Bracket.Node :=
  .ok Bracket.Node.mk
    |> taking (required "id" nonNegative entries)
    |> taking (optional "value" "" text entries)
    |> taking (under (.name "children") (children.getD (.ok [])))

mutual

/- A bracket node. -/
def node : Value → Checked Bracket.Node
  | .map entries => nodeFields entries (nodeChildren entries)
  | _ => fail (.notModel "BracketNode")

/- The children that the last entry of this name gives. -/
def nodeChildren :
    List (Value × Value) → Option (Checked (List Bracket.Node))
  | [] => none
  | (key, value) :: rest =>
      match nodeChildren rest with
      | some later => some later
      | none =>
          if key.text? = some "children" then some (nodeList value)
          else none

/- A list of bracket nodes. -/
def nodeList : Value → Checked (List Bracket.Node)
  | .list items => nodesFrom 0 items
  | _ => fail .notList

/- Bracket nodes from a position on. -/
def nodesFrom
    (position : Nat) :
    List Value → Checked (List Bracket.Node)
  | [] => .ok []
  | item :: rest =>
      .ok List.cons
        |> taking (under (.position position) (node item))
        |> taking (nodesFrom (position + 1) rest)

end

end Schema

end SyntaxOutline
