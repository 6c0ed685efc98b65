import SyntaxOutline.Classification
import SyntaxOutline.Cst
import SyntaxOutline.Log
import SyntaxOutline.Outline
import SyntaxOutline.Text.LetterCase

/-
  Collapsing a concrete syntax tree into an outline.

  Every child of a rule contributes a piece of label and some
  parts.  An atomic terminal contributes a placeholder and its
  leaf; any other terminal contributes its text; the terminal
  at the end of the input contributes nothing.  A rule first
  joins the contributions of its own children.  If their label
  is empty it vanishes, if they have exactly one part it is
  absorbed by its parent, and otherwise it is one part itself,
  behind a placeholder.

  Key definitions include:
    * `Collapse.Policy`
    * `Collapse.Source`
    * `Collapse.contribution`
    * `Collapse.collapse`
    * `Collapse.report`
-/

------------------------------------------------------------
-- Policies And Sources
------------------------------------------------------------

namespace SyntaxOutline

namespace Collapse

/-
  How trees are collapsed.  No terminal has to stand for the end
  of the input, and no channel has to be hidden.
-/
structure Policy where
  classification : Classification
  endText : Option String
  hiddenChannel : Option Int
  deriving DecidableEq, Repr, Inhabited

/- What the terminals of a tree refer to. -/
structure Source where
  ruleNames : List (Option String)
  symbolNames : List (Option String)
  stream : Stream
  deriving Repr, Inhabited

/- What stands in a label for one part. -/
def placeholder : String := "#"

------------------------------------------------------------
-- Failures
------------------------------------------------------------

/- Why a tree cannot be collapsed. -/
inductive Failure where
  | missingToken (text : String)
  | outOfRange (cause : Stream.OutOfRange)
  deriving DecidableEq, Repr

/- The text of a failure. -/
def Failure.message : Failure → String
  | .missingToken text =>
      "Terminal node " ++ Text.quote text ++ " has no token"
  | .outOfRange cause => cause.message

------------------------------------------------------------
-- Leaves
------------------------------------------------------------

variable (policy : Policy) (source : Source)

/- The text of hidden tokens, or `none` when it is empty. -/
def trivia
    (tokens : List Token) : Option String :=
  let text := String.join (tokens.map (·.text))
  if text = "" then none else some text

/- A flag that is written only when it holds. -/
def flag
    (b : Bool) : Option Bool :=
  if b then some true else none

/- The name of the type of a token. -/
def symbolName
    (symbol : Token) : Option String :=
  nameAt? source.symbolNames (some symbol.type)

/- A terminal with this token is atomic. -/
def IsAtomic
    (t : Terminal)
    (symbol : Token) : Prop :=
  policy.classification.IsAtomic
    (nameAt? source.ruleNames t.rule) (symbolName source symbol)

instance
    (t : Terminal)
    (symbol : Token) :
    Decidable (IsAtomic policy source t symbol) := by
  unfold IsAtomic
  infer_instance

/- The leaf of an atomic terminal. -/
def leafOf
    (t : Terminal)
    (symbol : Token) : Except Failure Leaf := do
  let isVariable : Bool :=
    symbolName source symbol = some policy.classification.identifierName
  let before ←
    (source.stream.hiddenBefore symbol.index
      policy.hiddenChannel).mapError .outOfRange
  let after ←
    (source.stream.hiddenAfter symbol.index
      policy.hiddenChannel).mapError .outOfRange
  return {
    token := t.text
    isVariable := flag isVariable
    isCapitalized := flag (isVariable && Text.startsCapital t.text)
    leading := trivia before
    trailing := trivia after }

------------------------------------------------------------
-- Contributions
------------------------------------------------------------

/- What contributes neither label nor parts. -/
def nothing : Branch :=
  ⟨"", []⟩

/- Two contributions side by side. -/
def join
    (a b : Branch) : Branch :=
  ⟨a.label ++ b.label, a.children ++ b.children⟩

/- What a rule contributes, given what its children do. -/
def absorbed
    (inner : Branch) : Branch :=
  if inner.label = "" then nothing
  else
    match inner.children with
    | [only] => ⟨inner.label, [only]⟩
    | _ => ⟨placeholder, [inner.toOutline]⟩

/- What a terminal contributes. -/
def ofTerminal
    (t : Terminal) : Except Failure Branch :=
  if policy.endText = some t.text then .ok nothing
  else
    match t.symbol with
    | none => .error (.missingToken t.text)
    | some symbol =>
        if IsAtomic policy source t symbol then do
          let leaf ← leafOf policy source t symbol
          return ⟨placeholder, [.leaf leaf]⟩
        else
          .ok ⟨t.text, []⟩

mutual

/- What a tree contributes to the rule above it. -/
def contribution : Cst → Except Failure Branch
  | .terminal t => ofTerminal policy source t
  | .rule _ children => do
      let inner ← contributions children
      return absorbed inner

/- What trees that stand side by side contribute. -/
def contributions : List Cst → Except Failure Branch
  | [] => .ok nothing
  | child :: rest => do
      let first ← contribution child
      let others ← contributions rest
      return join first others

end

------------------------------------------------------------
-- Collapsing A Tree
------------------------------------------------------------

/- The outline of a tree; a root without children has none. -/
def collapse
    (root : Rule) : Except Failure (Option Branch) :=
  if root.children.isEmpty then .ok none
  else do
    let branch ← contributions policy source root.children
    return some branch

/- What a parsed source offers to its tree. -/
def Source.ofParsed
    (parsed : ParsedSource) : Source :=
  ⟨parsed.ruleNames.map some, parsed.symbolNames, parsed.stream⟩

------------------------------------------------------------
-- Reports
------------------------------------------------------------

/- The name under which collapsing writes to the log. -/
def loggerName : String :=
  "simpletree.analyzers.tree_simplifier"

/- What the log says about an outline. -/
def report : Option Branch → List Log.Record
  | none => []
  | some branch =>
      [{ level := .debug
         logger := loggerName
         message :=
           "Simplified CST into tree with " ++
             toString branch.leaves.length ++ " leaves"
         extra :=
           [("phase", .str "simplify"),
             ("label_length", .int branch.label.length)] }]

end Collapse

end SyntaxOutline
