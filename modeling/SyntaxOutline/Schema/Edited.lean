import SyntaxOutline.Schema.Item
import SyntaxOutline.Value.Misuse

/-
  Checked things whose fields were set afterwards.

  Nothing is checked when a field is set, so it can come to
  hold any value; only the name must be one of the thing's own,
  and a classification takes no changes.  Under names that
  start with an underscore anything may be set.  Most of it is
  never asked for, but some of these names have a meaning for
  the thing itself: one of them stands for the whole table of
  its attributes, others for what sets and writes its fields.

  Key definitions include:
    * `Schema.Hidden`
    * `Schema.EditFault`
    * `Schema.Edited`
    * `Schema.Edited.set`
    * `Schema.Edited.fields`
    * `Schema.Edited.facts`
-/

------------------------------------------------------------
-- Hidden Names And Faults
------------------------------------------------------------

namespace SyntaxOutline

namespace Schema

/- What a name with an underscore means for a thing. -/
inductive Hidden where
  | kind
  | table
  | computed
  | unwritable
  | setters
  | setter
  | writer
  | tally
  | spare
  | nothing
  deriving DecidableEq, Repr

/- Why a field cannot be set or a thing cannot be described. -/
inductive EditFault where
  | frozen (title name : String)
  | unknown (title name : String)
  | computed (name title : String)
  | unwritable (name title : String)
  | classNeeded (kind : String)
  | tableNeeded (kind : String)
  | notCallable (kind : String)
  | countsItems
  | countsTexts
  | misuse (cause : Misuse)
  deriving DecidableEq, Repr

/- The text of a fault. -/
def EditFault.message : EditFault → String
  | .frozen _ _ => Fault.frozen.message
  | .unknown title name =>
      "\x22" ++ title ++ "\x22 object has no field \x22" ++ name ++ "\x22"
  | .computed name title =>
      "property '" ++ name ++ "' of '" ++ title ++
        "' object has no setter"
  | .unwritable name title =>
      "attribute '" ++ name ++ "' of '" ++ title ++
        "' objects is not writable"
  | .classNeeded kind =>
      "__class__ must be set to a class, not '" ++ kind ++ "' object"
  | .tableNeeded kind =>
      "__dict__ must be set to a dictionary, not a '" ++ kind ++ "'"
  | .notCallable kind => "'" ++ kind ++ "' object is not callable"
  | .countsItems => "list.count() takes exactly one argument (0 given)"
  | .countsTexts => "count() takes at least 1 argument (0 given)"
  | .misuse cause => cause.message

/- Plain data lacks an ability. -/
def lacking
    (ability : String)
    (value : Value) : EditFault :=
  .misuse (.lacks value.kindName ability)

------------------------------------------------------------
-- Edited Things
------------------------------------------------------------

/-
  A thing and the attributes that were set on it afterwards.  It
  is emptied when its table of attributes was replaced: then it
  has none of its own fields any more.  The tally of set fields
  and the spare attributes are kept apart from that table.
-/
structure Edited where
  item : Item
  meaning : String → Hidden
  emptied : Bool := false
  attributes : Fields := []
  tally : Option Value := none
  spare : Option Value := none

namespace Edited

/- The name of the thing's kind in messages. -/
def title
    (e : Edited) : String :=
  e.item.kind.title

/- The value that was set under a name with a meaning. -/
def hidden?
    (e : Edited)
    (h : Hidden) : Option Value :=
  (e.attributes.find? fun (name, _) => e.meaning name = h).map (·.2)

/- The thing with one more attribute. -/
def withAttribute
    (e : Edited)
    (name : String)
    (value : Value) : Edited :=
  { e with attributes := Fields.set name value e.attributes }

/- The thing with other attributes in place of all its own. -/
def withTable
    (e : Edited)
    (entries : List (Value × Value)) : Edited :=
  { e with
    emptied := true
    attributes := entries.map fun (key, value) => (key.sentence, value) }

/-
  What sets attributes must be able to: plain data is asked for
  its setter of a name first, and cannot be called.
-/
def checkSetters
    (e : Edited)
    (name : String) : Except EditFault Unit := do
  match e.hidden? .setters with
  | none => pure ()
  | some setters =>
      match (← (setters.getOr name .null).mapError .misuse) with
      | .null => pure ()
      | other => .error (.notCallable other.kindName)
  match e.hidden? .setter with
  | none => pure ()
  | some setter => .error (.notCallable setter.kindName)

/- Set a name that starts with an underscore. -/
def setHidden
    (e : Edited)
    (name : String)
    (value : Value) : Except EditFault Edited :=
  match e.meaning name, value with
  | .kind, _ => .error (.classNeeded value.kindName)
  | .table, .map entries => .ok (e.withTable entries)
  | .table, _ => .error (.tableNeeded value.kindName)
  | .computed, _ => .error (.computed name e.title)
  | .unwritable, _ => .error (.unwritable name e.title)
  | .tally, _ => .ok { e with tally := some value }
  | .spare, _ => .ok { e with spare := some value }
  | _, _ => .ok (e.withAttribute name value)

/- Set one of the thing's fields, which is noted in the tally. -/
def setField
    (e : Edited)
    (name : String)
    (value : Value) : Except EditFault Edited :=
  match e.tally with
  | some tally => .error (lacking "add" tally)
  | none => .ok (e.withAttribute name value)

/- Set one attribute. -/
def set
    (e : Edited)
    (name : String)
    (value : Value) : Except EditFault Edited := do
  let kind := e.item.kind
  e.checkSetters name
  if name.toList.head? = some '_' then e.setHidden name value
  else if kind = .classification then .error (.frozen e.title name)
  else if name ∈ kind.computedNames then .error (.computed name e.title)
  else if name ∈ kind.fieldNames then e.setField name value
  else .error (.unknown e.title name)

------------------------------------------------------------
-- Fields
------------------------------------------------------------

/- What a thing without an attribute has to spare under its name. -/
def spareAttribute
    (e : Edited)
    (name : String) : Except EditFault Value :=
  let missing : EditFault := .misuse (.lacks e.title name)
  match e.spare.filter (!·.isEmpty) with
  | none => .error missing
  | some spare =>
      match spare.item name with
      | .ok value => .ok value
      | .error (.missingKey _) => .error missing
      | .error cause => .error (.misuse cause)

/- The plain data in place of a field, unless the field is there. -/
def replaced?
    (e : Edited)
    (name : String) : Except EditFault (Option Value) :=
  match e.attributes.lookup name with
  | some value => .ok (some value)
  | none =>
      if e.emptied then (e.spareAttribute name).map some else .ok none

/- The thing can be asked: no attribute hides what it can do. -/
def canDo
    (e : Edited)
    (ability : String) : Except EditFault Unit :=
  match e.attributes.lookup ability with
  | some value => .error (.notCallable value.kindName)
  | none => .ok ()

/- The number of elements of a value. -/
def sizeOf
    (value : Value) : Except EditFault Nat :=
  match value.parts? with
  | some parts => .ok parts.length
  | none => .error (.misuse (.sizeless value.kindName))

/- The fields that the thing has now. -/
def ownFields
    (e : Edited) : Fields :=
  Fields.merge (if e.emptied then [] else e.item.fields)
    (e.attributes.filter (·.1 ∈ e.item.kind.fieldNames))

/- The fields of a parsed source; of its stream only the size. -/
def sourceFields
    (e : Edited) : Except EditFault Fields := do
  match ← e.replaced? "tree" with
  | some tree => .error (lacking "model_dump" tree)
  | none =>
      let fields := e.ownFields.filter (·.1 ≠ "token_stream")
      match ← e.replaced? "token_stream" with
      | some stream =>
          return Fields.set "token_count" (.int (← sizeOf stream)) fields
      | none => return fields

/- All fields as they are now. -/
def fields
    (e : Edited) : Except EditFault Fields := do
  if e.item.kind = .parsedSource then e.sourceFields
  else
    e.canDo "model_dump"
    match e.hidden? .writer with
    | some writer => .error (lacking "to_python" writer)
    | none => return e.ownFields

------------------------------------------------------------
-- Facts About A Thing
------------------------------------------------------------

/-
  Children that were set are plain data, which lacks what the
  children of a thing can do, so there must be none.
-/
def noChildren
    (unable : Value → EditFault)
    (children : Value) : Except EditFault Unit :=
  match children.parts? with
  | none => .error (.misuse (.notIterable children.kindName))
  | some [] => .ok ()
  | some (first :: _) => .error (unable first)

/- Plain data cannot be counted; lists and texts count otherwise. -/
def uncounted : Value → EditFault
  | .list _ => .countsItems
  | .str _ => .countsTexts
  | value => lacking "count" value

/- The names under which the fields of a leaf are written. -/
def leafNames : List (String × String) :=
  [("token", "token"), ("is_leaf", "isLeaf"),
    ("is_variable", "isVariable"),
    ("is_capitalized", "isCapitalized"), ("leading", "leading"),
    ("trailing", "trailing")]

/- The field is written: it is not null. -/
def isPresent : Value → Bool
  | .null => false
  | _ => true

/- An outline, the number of its leaves and their tokens. -/
def outlineFacts : Option Branch → Fields
  | none => [("tree", .null)]
  | some b =>
      [("tree", b.toValue),
        ("leaf_count", .int b.leaves.length),
        ("leaves", .strs (b.leaves.map (·.token)))]

/- What a rule tells about itself. -/
def ruleFacts
    (e : Edited)
    (r : Rule) : Except EditFault Fields := do
  match ← e.replaced? "children" with
  | none =>
      return [("child_count", .int r.childCount),
        ("terminal_count", .int r.terminalCount)]
  | some children => do
      let size ← sizeOf children
      e.canDo "terminal_count"
      noChildren (lacking "terminal_count") children
      return [("child_count", .int size), ("terminal_count", .int 0)]

/- What a bracket node tells about itself. -/
def nodeFacts
    (e : Edited)
    (n : Bracket.Node) : Except EditFault Fields := do
  e.canDo "count"
  match ← e.replaced? "children" with
  | none => return [("count", .int n.count)]
  | some children => do
      noChildren uncounted children
      return [("count", .int 1)]

/- What a leaf tells about itself. -/
def leafFacts
    (e : Edited) : Except EditFault Fields := do
  e.canDo "to_dict"
  let fields := e.ownFields
  return [("dict",
    .record
      (leafNames.filterMap fun (name, written) =>
        ((fields.lookup name).filter isPresent).map fun value =>
          (written, value)))]

/- What a branch tells about itself. -/
def branchFacts
    (e : Edited)
    (b : Branch) : Except EditFault Fields := do
  e.canDo "to_dict"
  let label ← e.replaced? "label"
  let children ←
    match ← e.replaced? "children" with
    | none => pure b.children
    | some children => do
        noChildren (lacking "to_dict") children
        pure []
  e.canDo "leaf_count"
  e.canDo "iter_leaves"
  let facts := outlineFacts (some ⟨b.label, children⟩)
  match label with
  | none => return facts
  | some label =>
      return Fields.set "tree"
        (.record
          [("label", label),
            ("children", .list (Outline.toValues children))])
        facts

/- What a thing tells about itself besides its fields. -/
def facts
    (e : Edited) : Except EditFault Fields :=
  match e.item with
  | .rule r => e.ruleFacts r
  | .node n => e.nodeFacts n
  | .leaf _ => e.leafFacts
  | .branch b => e.branchFacts b
  | _ => .ok []

end Edited

end Schema

end SyntaxOutline
