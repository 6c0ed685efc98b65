import SyntaxOutline.Value.Key
import SyntaxOutline.Yaml.Binary
import SyntaxOutline.Yaml.Node
import SyntaxOutline.Yaml.Number

/-
  What is made of the nodes of a document.

  Of every node something is made once, however often it is
  referred to.  A scalar becomes a value at once.  A collection
  is begun first and waits; what is in it is made when its turn
  comes.  So the nodes that lie equally deep come before those
  below them, and of several faults the first one met counts.

  A mapping under the sign of merging gives its entries to the
  mapping around it, which wins where both have a key.  The
  sign of a default value is a plain key.  Both are settled in
  the nodes themselves, before the entries are made.

  Key definitions include:
    * `Yaml.Product`
    * `Yaml.Build`
    * `Yaml.flatten`
    * `Yaml.start`
    * `Yaml.finish`
    * `Yaml.construct`
-/

------------------------------------------------------------
-- Scalars
------------------------------------------------------------

namespace SyntaxOutline

namespace Yaml

/-
  The text of a scalar.  A mapping stands for the scalar that
  it has under the sign of a default value.
-/
def scalarText?
    (graph : Graph) :
    (fuel : Nat) → Nat → Option (List Nat)
  | 0, _ => none
  | fuel + 1, n =>
      match (graph.node n).content with
      | .scalar text => some text
      | .sequence _ => none
      | .mapping entries =>
          match entries.find? fun (key, _) =>
              (graph.node key).tag = .value with
          | some (_, value) => scalarText? graph fuel value
          | none => none

/- The truth value of a word in any case. -/
def truth
    (word : List Nat) : Except BadValue Bool :=
  let lower := Text.lowerPoints word
  if (["yes", "true", "on"].map Text.points).contains lower then .ok true
  else if (["no", "false", "off"].map Text.points).contains lower then
    .ok false
  else .error (.truth lower)

/- The microseconds that the digits of a fraction give. -/
def microseconds
    (digits : List Char) : Nat :=
  Json.natOf ((digits ++ List.replicate 6 '0').take 6)

/- The distance from universal time that a zone gives. -/
def zoneOffset : Option (Char × List Char × List Char) → Int
  | none => 0
  | some (sign, hour, minute) =>
      let seconds : Int :=
        Json.natOf hour * 3600 + Json.natOf minute * 60
      if sign = '-' then -seconds else seconds

/- The moment that a text is written for. -/
def moment
    (text : List Nat) : Except BadValue Moment :=
  let all := charsOf text
  let chars :=
    match all.getLast? with
    | some '\n' => all.dropLast
    | _ => all
  match Tag.momentText? chars with
  | none => .error .moment
  | some m =>
      let date : CalendarDate :=
        ⟨Json.natOf m.year, Json.natOf m.month, Json.natOf m.day⟩
      let result : Moment :=
        if m.hour.isEmpty then .day date
        else
          .time date (Json.natOf m.hour) (Json.natOf m.minute)
            (Json.natOf m.second) (microseconds m.fraction)
            (m.zone.map zoneOffset)
      result.check.mapError .calendar

/- The number of a text that is written at a place. -/
def floatAt
    (origin : String)
    (place : Nat)
    (text : List Nat) : Except BadValue Value := do
  let x ← float text
  if x = .nan && !isNanWord text then return .nan origin place
  else return .float x

/- The moment of a node, which must be a scalar itself. -/
def momentAt
    (content : Content)
    (text : List Nat) : Except BadValue Value :=
  match content with
  | .scalar _ => (moment text).map .moment
  | _ => .error (.momentOf (Value.list []).kindName)

/- The value of a text under a tag of scalars. -/
def scalarValue
    (origin : String)
    (place : Nat)
    (node : Node)
    (text : List Nat) : Except Failure Value :=
  match node.tag with
  | .null => .ok .null
  | .bool => ((truth text).map .bool).mapError .value
  | .int => ((integer text).map .int).mapError .value
  | .float => (floatAt origin place text).mapError .value
  | .binary =>
      match octets? text with
      | some bytes => .ok (.bytes bytes)
      | none => .error .construction
  | .timestamp => (momentAt node.content text).mapError .value
  | .str => .ok (.ofPoints text)
  | _ => .error .construction

/- The tags whose values are made of a text. -/
def isScalarTag : Tag → Bool
  | .null | .bool | .int | .float | .binary | .timestamp | .str => true
  | _ => false

------------------------------------------------------------
-- Products
------------------------------------------------------------

/- What is made of a node: a value, or a collection of products. -/
inductive Product where
  | value (v : Value)
  | list (items : List Nat)
  | pairs (items : List (Nat × Nat))
  | map (entries : List (Value × Nat))
  deriving Repr, Inhabited

/- A collection that is begun, for a tag of collections. -/
def Product.begun? : Tag → Option Product
  | .seq => some (.list [])
  | .omap => some (.pairs [])
  | .pairs => some (.pairs [])
  | .set => some (.value (.set []))
  | .map => some (.map [])
  | _ => none

/- The key that a product is; collections cannot be keys. -/
def Product.key? : Product → Option (Key × Value)
  | .value v => v.key.toOption.map fun key => (key, v)
  | _ => none

/- The nodes, what is made of them, and which ones wait, last first. -/
structure Bench where
  nodes : Graph
  products : Array (Option Product)
  waiting : List Nat := []

/- A step of making values. -/
abbrev Build :=
  StateT Bench (Except Failure)

/- The node of a number. -/
def nodeAt
    (n : Nat) : Build Node :=
  return (← get).nodes.node n

/- Change the node of a number. -/
def changeNode
    (n : Nat)
    (f : Node → Node) : Build Unit :=
  modify fun b => { b with nodes := b.nodes.modify n f }

/- What is made of the node of a number. -/
def productAt
    (n : Nat) : Build (Option Product) :=
  return ((← get).products[n]?).join

/- Note what is made of the node of a number. -/
def produce
    (n : Nat)
    (product : Product) : Build Unit :=
  modify fun b =>
    { b with products := b.products.setIfInBounds n (some product) }

/- Let a node wait for its turn. -/
def await
    (n : Nat) : Build Unit :=
  modify fun b => { b with waiting := n :: b.waiting }

------------------------------------------------------------
-- Merging
------------------------------------------------------------

/- The entries of a node. -/
def entriesOf
    (n : Nat) : Build (List (Nat × Nat)) := do
  match (← nodeAt n).content with
  | .mapping entries => return entries
  | _ => return []

/- Give a node other entries. -/
def setEntries
    (n : Nat)
    (entries : List (Nat × Nat)) : Build Unit :=
  changeNode n fun node => { node with content := .mapping entries }

/- The entries of a mapping, after a step that settles them. -/
def settled
    (settle : Nat → Build Unit)
    (n : Nat) : Build (List (Nat × Nat)) := do
  match (← nodeAt n).content with
  | .mapping _ => do
      settle n
      entriesOf n
  | _ => throw .construction

/-
  The entries that a value under the sign of merging gives.  Of
  several mappings the last one's come first.
-/
def given
    (settle : Nat → Build Unit)
    (n : Nat) : Build (List (Nat × Nat)) := do
  match (← nodeAt n).content with
  | .sequence items => do
      let each ← items.mapM (settled settle)
      return each.reverse.flatten
  | _ => settled settle n

/-
  Settle the entries of a mapping from an index on: those that
  it merges are put first.  An entry is taken out before what
  it merges is settled, so a mapping may even merge itself.
-/
def flattenFrom :
    (fuel : Nat) → (n index : Nat) → (merged : List (Nat × Nat)) →
      Build Unit
  | 0, _, _, _ => throw .construction
  | fuel + 1, n, index, merged => do
      let entries ← entriesOf n
      match entries[index]? with
      | none =>
          if merged.isEmpty then return ()
          else setEntries n (merged ++ entries)
      | some (key, value) => do
          match (← nodeAt key).tag with
          | .merge => do
              setEntries n (entries.eraseIdx index)
              let more ← given (flattenFrom fuel · 0 []) value
              flattenFrom fuel n index (merged ++ more)
          | .value => do
              changeNode key fun node => { node with tag := .str }
              flattenFrom fuel n (index + 1) merged
          | _ => flattenFrom fuel n (index + 1) merged

/- More entries than any mapping has. -/
def manyEntries : Nat := 1000000000

/- Settle the entries of a mapping. -/
def flatten
    (n : Nat) : Build Unit :=
  flattenFrom manyEntries n 0 []

------------------------------------------------------------
-- Making
------------------------------------------------------------

/- Begin what is to be made of a node, unless it is begun. -/
def start
    (origin : String)
    (n : Nat) : Build Unit := do
  match ← productAt n with
  | some _ => return ()
  | none => do
      let node ← nodeAt n
      if isScalarTag node.tag then
        let graph := (← get).nodes
        match scalarText? graph (graph.size + 1) n with
        | none => throw .construction
        | some text =>
            produce n (.value (← scalarValue origin n node text))
      else
        match Product.begun? node.tag with
        | none => throw .construction
        | some product => do
            produce n product
            await n

/- The key that is made of a node. -/
def makeKey
    (origin : String)
    (n : Nat) : Build (Key × Value) := do
  start origin n
  match (← productAt n).bind Product.key? with
  | some key => return key
  | none => throw .construction

/- The entries that are made of a mapping. -/
def makeEntries
    (origin : String)
    (n : Nat) : Build (Table Nat) := do
  flatten n
  (← entriesOf n).foldlM
    (fun table (key, value) => do
      let (k, spelling) ← makeKey origin key
      start origin value
      return Table.put k spelling value table)
    []

/- The pair that is made of a mapping with one entry. -/
def makePair
    (origin : String)
    (n : Nat) : Build (Nat × Nat) := do
  match (← nodeAt n).content with
  | .mapping [(key, value)] => do
      start origin key
      start origin value
      return (key, value)
  | _ => throw .construction

/- Make what is in a collection that was begun. -/
def finish
    (origin : String)
    (n : Nat) : Build Unit := do
  let node ← nodeAt n
  match node.tag, node.content with
  | .seq, .sequence items => do
      items.forM (start origin)
      produce n (.list items)
  | .map, .mapping _ => do
      let table ← makeEntries origin n
      produce n (.map (table.map fun line => (line.spelling, line.item)))
  | .set, .mapping _ => do
      let table ← makeEntries origin n
      produce n (.value (.set (Table.spellings table)))
  | .omap, .sequence items => do
      produce n (.pairs (← items.mapM (makePair origin)))
  | .pairs, .sequence items => do
      produce n (.pairs (← items.mapM (makePair origin)))
  | _, _ => throw .construction

/- Finish all that waits, and what comes to wait meanwhile. -/
def finishAll
    (origin : String) :
    (fuel : Nat) → Build Unit
  | 0 => return ()
  | fuel + 1 => do
      let waiting := (← get).waiting
      if waiting.isEmpty then return ()
      else
        modify fun b => { b with waiting := [] }
        waiting.reverse.forM (finish origin)
        finishAll origin fuel

/- What is made of the nodes of a document with a root. -/
def construct
    (origin : String)
    (graph : Graph)
    (root : Nat) : Except Failure (Array (Option Product)) :=
  let making : Build Unit := do
    start origin root
    finishAll origin (graph.size + 1)
  (making.run ⟨graph, Array.replicate graph.size none, []⟩).map
    (·.2.products)

end Yaml

end SyntaxOutline
