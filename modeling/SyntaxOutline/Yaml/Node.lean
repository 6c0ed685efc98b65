import SyntaxOutline.Yaml.Lexing
import SyntaxOutline.Yaml.Tag

/-
  The nodes of a YAML document.

  A node carries a tag that says what value to make of it.  The
  nodes of a document are numbered, and a node holds others by
  their numbers.  A reference stands for the number of the node
  with the anchor of its name.  So one node may be in several
  places, and even inside of itself.

  Key definitions include:
    * `Yaml.Content`
    * `Yaml.Node`
    * `Yaml.Graph`
    * `Yaml.Reading`
    * `Yaml.node`
    * `Yaml.document`
-/

------------------------------------------------------------
-- Nodes
------------------------------------------------------------

namespace SyntaxOutline

namespace Yaml

/- What is in a node: a text, or other nodes by number. -/
inductive Content where
  | scalar (text : List Nat)
  | sequence (items : List Nat)
  | mapping (entries : List (Nat × Nat))
  deriving DecidableEq, Repr, Inhabited

/- A node of a document. -/
structure Node where
  tag : Tag
  content : Content
  deriving DecidableEq, Repr, Inhabited

/- The nodes of a document by number. -/
abbrev Graph :=
  Array Node

/- An empty scalar without properties. -/
def Node.empty : Node :=
  ⟨.null, .scalar []⟩

/- The node of a number. -/
def Graph.node
    (graph : Graph)
    (n : Nat) : Node :=
  (graph[n]?).getD .empty

------------------------------------------------------------
-- State
------------------------------------------------------------

/- Lexemes to come, nodes so far, anchors and handles of tags. -/
structure Reading where
  lexing : Lexing
  nodes : Graph := #[]
  anchors : List (String × Nat) := []
  handles : List (String × String) := []
  deriving Inhabited

/- A step of reading. -/
abbrev Read :=
  StateT Reading (Except Fault)

/- Handles that every document knows. -/
def defaultHandles : List (String × String) :=
  [("!", "!"), ("!!", Tag.standard)]

/- The next lexeme. -/
def look : Read Lexeme := do
  let r ← get
  let lexing ← r.lexing.ready
  set { r with lexing := lexing }
  return lexing.peek

/- Step behind the next lexeme. -/
def drop : Read Unit :=
  modify fun r => { r with lexing := r.lexing.take }

/- Stop reading here. -/
def refuse {α : Type}
    (cause : Failure) : Read α := do
  throw ((← get).lexing.cursor.fault cause)

/- A fault in the grammar. -/
def misplaced {α : Type} : Read α :=
  refuse .grammar

/- The number of a new node. -/
def add
    (node : Node) : Read Nat :=
  modifyGet fun r =>
    (r.nodes.size, { r with nodes := r.nodes.push node })

/- The number of a new node with nothing in it. -/
def addEmpty : Read Nat :=
  add .empty

/- Put something else under a number. -/
def replace
    (n : Nat)
    (node : Node) : Read Unit :=
  modify fun r => { r with nodes := r.nodes.setIfInBounds n node }

------------------------------------------------------------
-- Properties
------------------------------------------------------------

/- The anchor and the written tag of a node. -/
structure Properties where
  anchor : Option String := none
  tag : Option (Option String × String) := none
  deriving Repr

/- The anchor that stands here, if one does. -/
def anchorHere : Read (Option String) := do
  match ← look with
  | .anchor name => do
      drop
      return some name
  | _ => return none

/- The tag that stands here, if one does. -/
def tagHere : Read (Option (Option String × String)) := do
  match ← look with
  | .tag handle suffix => do
      drop
      return some (handle, suffix)
  | _ => return none

/- Anchor and tag, in any order, each at most once. -/
def properties : Read Properties := do
  match ← anchorHere with
  | some name => return ⟨some name, ← tagHere⟩
  | none =>
      match ← tagHere with
      | none => return {}
      | some tag => return ⟨← anchorHere, some tag⟩

/- The full name of a written tag. -/
def fullTag : Option (Option String × String) → Read (Option String)
  | none => return none
  | some (none, suffix) => return some suffix
  | some (some handle, suffix) => do
      match (← get).handles.lookup handle with
      | none => misplaced
      | some start => return some (start ++ suffix)

/- A node may not take a name that another node has. -/
def checkAnchor : Option String → Read Unit
  | none => return ()
  | some name => do
      if ((← get).anchors.lookup name).isSome then refuse .composition

/- Let references to a name stand for a node. -/
def bindAnchor
    (anchor : Option String)
    (n : Nat) : Read Unit :=
  match anchor with
  | none => return ()
  | some name =>
      modify fun r => { r with anchors := (name, n) :: r.anchors }

/- The node that a name refers to. -/
def referred
    (name : String) : Read Nat := do
  match (← get).anchors.lookup name with
  | some n => return n
  | none => refuse .composition

/- A scalar with an anchor. -/
def scalarNode
    (anchor : Option String)
    (tag : Tag)
    (text : List Nat) : Read Nat := do
  checkAnchor anchor
  let n ← add ⟨tag, .scalar text⟩
  bindAnchor anchor n
  return n

/-
  A collection with an anchor.  What is in it is read when its
  name is known already, since it may refer to itself.
-/
def collectionNode
    (anchor : Option String)
    (tag : Tag)
    (start : Content)
    (read : Read Content) : Read Nat := do
  checkAnchor anchor
  let n ← add ⟨tag, start⟩
  bindAnchor anchor n
  let content ← read
  replace n ⟨tag, content⟩
  return n

/- A sequence with an anchor. -/
def sequenceNode
    (anchor tag : Option String)
    (read : Read (List Nat)) : Read Nat :=
  collectionNode anchor (Tag.ofSequence tag) (.sequence [])
    (.sequence <$> read)

/- A mapping with an anchor. -/
def mappingNode
    (anchor tag : Option String)
    (read : Read (List (Nat × Nat))) : Read Nat :=
  collectionNode anchor (Tag.ofMapping tag) (.mapping [])
    (.mapping <$> read)

------------------------------------------------------------
-- Grammar
------------------------------------------------------------

/- Which nodes may stand somewhere. -/
structure Setting where
  block : Bool
  indentless : Bool

/- Inside brackets. -/
def inBrackets : Setting :=
  ⟨false, false⟩

/- In a block. -/
def inBlock : Setting :=
  ⟨true, false⟩

/- Beside a key, where a sequence need not be indented. -/
def besideKey : Setting :=
  ⟨true, true⟩

mutual

/- A node. -/
def node : (fuel : Nat) → Setting → Read Nat
  | 0, _ => misplaced
  | fuel + 1, setting => do
      match ← look with
      | .reference name => do
          drop
          referred name
      | _ => do
          let written ← properties
          let tag ← fullTag written.tag
          let anchor := written.anchor
          match ← look with
          | .scalar text isPlain => do
              drop
              scalarNode anchor (Tag.ofScalar tag text isPlain) text
          | .flowSequenceStart => do
              drop
              sequenceNode anchor tag (flowItems fuel true)
          | .flowMappingStart => do
              drop
              mappingNode anchor tag (flowEntries fuel true)
          | lexeme => do
              if lexeme = .blockEntry && setting.indentless then
                sequenceNode anchor tag (indentlessItems fuel)
              else if lexeme = .blockSequenceStart && setting.block then
                drop
                sequenceNode anchor tag (blockItems fuel)
              else if lexeme = .blockMappingStart && setting.block then
                drop
                mappingNode anchor tag (blockEntries fuel)
              else if anchor.isSome || tag.isSome then
                scalarNode anchor (Tag.ofEmpty tag) []
              else misplaced

/- A node, unless one of the given lexemes stands here. -/
def nodeUnless :
    (fuel : Nat) → Setting → List Lexeme → Read Nat
  | 0, _, _ => misplaced
  | fuel + 1, setting, ends => do
      if ends.contains (← look) then addEmpty
      else node fuel setting

/- The entries of an indented sequence. -/
def blockItems : (fuel : Nat) → Read (List Nat)
  | 0 => misplaced
  | fuel + 1 => do
      match ← look with
      | .blockEntry => do
          drop
          let item ← nodeUnless fuel inBlock [.blockEntry, .blockEnd]
          return item :: (← blockItems fuel)
      | .blockEnd => do
          drop
          return []
      | _ => misplaced

/- The entries of a sequence that is not indented. -/
def indentlessItems : (fuel : Nat) → Read (List Nat)
  | 0 => misplaced
  | fuel + 1 => do
      match ← look with
      | .blockEntry => do
          drop
          let item ← nodeUnless fuel inBlock
            [.blockEntry, .key, .value, .blockEnd]
          return item :: (← indentlessItems fuel)
      | _ => return []

/- The value of an entry in a block. -/
def blockValue : (fuel : Nat) → Read Nat
  | 0 => misplaced
  | fuel + 1 => do
      match ← look with
      | .value => do
          drop
          nodeUnless fuel besideKey [.key, .value, .blockEnd]
      | _ => addEmpty

/- The entries of a mapping in a block. -/
def blockEntries : (fuel : Nat) → Read (List (Nat × Nat))
  | 0 => misplaced
  | fuel + 1 => do
      match ← look with
      | .key => do
          drop
          let key ← nodeUnless fuel besideKey [.key, .value, .blockEnd]
          let value ← blockValue fuel
          return (key, value) :: (← blockEntries fuel)
      | .blockEnd => do
          drop
          return []
      | _ => misplaced

/- The value of an entry in brackets that end in the given way. -/
def flowValue : (fuel : Nat) → Lexeme → Read Nat
  | 0, _ => misplaced
  | fuel + 1, closing => do
      match ← look with
      | .value => do
          drop
          nodeUnless fuel inBrackets [.flowEntry, closing]
      | _ => addEmpty

/- The entries of a sequence in brackets. -/
def flowItems : (fuel : Nat) → (first : Bool) → Read (List Nat)
  | 0, _ => misplaced
  | fuel + 1, first => do
      if (← look) = .flowSequenceEnd then
        drop
        return []
      else
        if !first then
          if (← look) = .flowEntry then drop else misplaced
        match ← look with
        | .key => do
            drop
            let key ← nodeUnless fuel inBrackets
              [.value, .flowEntry, .flowSequenceEnd]
            let value ← flowValue fuel .flowSequenceEnd
            let item ← add ⟨.map, .mapping [(key, value)]⟩
            return item :: (← flowItems fuel false)
        | .flowSequenceEnd => do
            drop
            return []
        | _ => do
            let item ← node fuel inBrackets
            return item :: (← flowItems fuel false)

/- The entries of a mapping in brackets. -/
def flowEntries :
    (fuel : Nat) → (first : Bool) → Read (List (Nat × Nat))
  | 0, _ => misplaced
  | fuel + 1, first => do
      if (← look) = .flowMappingEnd then
        drop
        return []
      else
        if !first then
          if (← look) = .flowEntry then drop else misplaced
        match ← look with
        | .key => do
            drop
            let key ← nodeUnless fuel inBrackets
              [.value, .flowEntry, .flowMappingEnd]
            let value ← flowValue fuel .flowMappingEnd
            return (key, value) :: (← flowEntries fuel false)
        | .flowMappingEnd => do
            drop
            return []
        | _ => do
            let key ← node fuel inBrackets
            let value ← addEmpty
            return (key, value) :: (← flowEntries fuel false)

end

------------------------------------------------------------
-- Documents
------------------------------------------------------------

/- Skip lines that end a document. -/
def dropDocumentEnds : (fuel : Nat) → Read Unit
  | 0 => return ()
  | fuel + 1 => do
      if (← look) = .documentEnd then
        drop
        dropDocumentEnds fuel

/- The handles of directives, and whether a version was given. -/
def directives :
    (fuel : Nat) → (versioned : Bool) → List (String × String) →
      Read (List (String × String))
  | 0, _, handles => return handles
  | fuel + 1, versioned, handles => do
      match ← look with
      | .versionDirective major => do
          drop
          if versioned || major ≠ 1 then misplaced
          else directives fuel true handles
      | .tagDirective handle start => do
          drop
          if (handles.lookup handle).isSome then misplaced
          else directives fuel versioned (handles ++ [(handle, start)])
      | .otherDirective => do
          drop
          directives fuel versioned handles
      | _ => return handles

/-
  The start of a document that is marked as one; `false` when
  there is no further document.
-/
def markedStart
    (fuel : Nat) : Read Bool := do
  dropDocumentEnds fuel
  if (← look) = .streamEnd then return false
  else
    let handles ← directives fuel false []
    modify fun r => { r with handles := handles ++ defaultHandles }
    if (← look) = .documentStart then
      drop
      return true
    else misplaced

/- The content of a document that is marked as one. -/
def markedContent
    (fuel : Nat) : Read Nat := do
  let lexeme ← look
  if lexeme.isDirective ||
      [Lexeme.documentStart, .documentEnd, .streamEnd].contains lexeme then
    addEmpty
  else node fuel inBlock

/- The only document, if there is one. -/
def document
    (fuel : Nat) : Read (Option Nat) := do
  let lexeme ← look
  let isMarked :=
    lexeme.isDirective ||
      [Lexeme.documentStart, .streamEnd].contains lexeme
  let root ←
    if isMarked then do
      if ← markedStart fuel then some <$> markedContent fuel
      else pure none
    else do
      modify fun r => { r with handles := defaultHandles }
      some <$> node fuel inBlock
  if root.isSome then
    if (← look) = .documentEnd then drop
    if ← markedStart fuel then refuse .composition
  return root

/- The nodes of the only document of a text, and its root. -/
def compose
    (text : List Char) : Except Fault (Graph × Option Nat) :=
  let fuel := 8 * text.length + 64
  ((document fuel).run { lexing := { cursor := .ofText text } }).map
    fun (root, r) => (r.nodes, root)

end Yaml

end SyntaxOutline
