import SyntaxOutline.Text.Quoted
import SyntaxOutline.Value.Moment

/-
  Plain data: what configuration files, settings and log
  records hold.

  A mapping keeps the order in which its keys came, and its
  keys may be values of any kind that can serve as a key.  A
  text with halves of characters in it is kept by its code
  points.

  A collection may hold itself.  Such a collection is tied to a
  label, and a loop with that label stands for it inside.  Its
  content has the whole collection in place of its loops.

  Key definitions include:
    * `Value`
    * `Value.ofPoints`
    * `Value.content`
    * `Value.kindName`
    * `Value.literal`
    * `Value.sentence`
-/

------------------------------------------------------------
-- Values
------------------------------------------------------------

namespace SyntaxOutline

/-
  A piece of plain data.  A number that is no number may have
  been written somewhere; then it is known by where that was.
-/
inductive Value where
  | null
  | bool (b : Bool)
  | int (n : Int)
  | float (x : Binary64)
  | nan (origin : String) (place : Nat)
  | str (s : String)
  | halved (points : List Nat)
  | bytes (bs : List UInt8)
  | moment (m : Moment)
  | pair (first second : Value)
  | list (items : List Value)
  | set (items : List Value)
  | map (entries : List (Value × Value))
  | tied (label : Nat) (body : Value)
  | loop (label : Nat)
  deriving Repr, Inhabited

namespace Value

/- A mapping whose keys are texts. -/
def record
    (fields : List (String × Value)) : Value :=
  .map (fields.map fun (name, value) => (.str name, value))

/- A list of texts. -/
def strs
    (texts : List String) : Value :=
  .list (texts.map .str)

/- A text, or null when it is missing. -/
def ofText? : Option String → Value
  | none => .null
  | some text => .str text

/- The text of code points, with or without halves. -/
def ofPoints
    (points : List Nat) : Value :=
  if points.any Text.isHalf then .halved points
  else .str (Text.joined points)

/- The code points of the text that a value is. -/
def points? : Value → Option (List Nat)
  | .str s => some (Text.points s)
  | .halved points => some points
  | _ => none

/- The text that a value is, if it is a row of characters. -/
def text? : Value → Option String
  | .str s => some s
  | _ => none

------------------------------------------------------------
-- Collections That Hold Themselves
------------------------------------------------------------

mutual

/- The value with a whole collection in place of its loops. -/
def retie
    (label : Nat)
    (whole : Value) :
    Value → Value
  | .loop other => if other = label then whole else .loop other
  | .tied other body =>
      if other = label then .tied other body
      else .tied other (retie label whole body)
  | .pair a b => .pair (retie label whole a) (retie label whole b)
  | .list items => .list (retieAll label whole items)
  | .map entries => .map (retieEntries label whole entries)
  | .null => .null
  | .bool b => .bool b
  | .int n => .int n
  | .float x => .float x
  | .nan origin place => .nan origin place
  | .str s => .str s
  | .halved points => .halved points
  | .bytes bs => .bytes bs
  | .moment m => .moment m
  | .set items => .set items

/- Values with a whole collection in place of its loops. -/
def retieAll
    (label : Nat)
    (whole : Value) :
    List Value → List Value
  | [] => []
  | value :: rest =>
      retie label whole value :: retieAll label whole rest

/- Entries with a whole collection in place of its loops. -/
def retieEntries
    (label : Nat)
    (whole : Value) :
    List (Value × Value) → List (Value × Value)
  | [] => []
  | (key, value) :: rest =>
      (key, retie label whole value) :: retieEntries label whole rest

end

/- The value itself, or what a tied collection holds. -/
def content : Value → Value
  | .tied label body => retie label (.tied label body) body
  | value => value

------------------------------------------------------------
-- Fields
------------------------------------------------------------

/-
  The value of the last entry under a text, which is the one
  that counts when a text is given twice.
-/
def fieldOf?
    (name : String) :
    List (Value × Value) → Option Value
  | [] => none
  | (key, value) :: rest =>
      match fieldOf? name rest with
      | some later => some later
      | none => if key.text? = some name then some value else none

/- The value of a mapping under a text. -/
def field?
    (name : String)
    (value : Value) : Option Value :=
  match value.content with
  | .map entries => fieldOf? name entries
  | _ => none

------------------------------------------------------------
-- Kinds
------------------------------------------------------------

/- The name of the kind of a value, as messages give it. -/
def kindName : Value → String
  | .null => "NoneType"
  | .bool _ => "bool"
  | .int _ => "int"
  | .float _ => "float"
  | .nan .. => "float"
  | .str _ => "str"
  | .halved _ => "str"
  | .bytes _ => "bytes"
  | .moment (.day _) => "datetime.date"
  | .moment (.time ..) => "datetime.datetime"
  | .pair .. => "tuple"
  | .list _ => "list"
  | .set _ => "set"
  | .map _ => "dict"
  | .tied _ body => kindName body
  | .loop _ => "list"

/- The value counts as nothing: null, false, zero or empty. -/
def isEmpty : Value → Bool
  | .null => true
  | .bool b => !b
  | .int n => n == 0
  | .float x => x.isZero
  | .nan .. => false
  | .str s => s == ""
  | .halved _ => false
  | .bytes bs => bs.isEmpty
  | .list items => items.isEmpty
  | .set items => items.isEmpty
  | .map entries => entries.isEmpty
  | .tied _ body => isEmpty body
  | .moment _ => false
  | .pair .. => false
  | .loop _ => false

/- The value, or an empty mapping if it counts as nothing. -/
def orEmpty
    (value : Value) : Value :=
  if value.isEmpty then .map [] else value

------------------------------------------------------------
-- Long Integers
------------------------------------------------------------

/- The most digits that an integer may be read or written with. -/
def maxDigits : Nat := 4300

/- The integer has more digits than can be written. -/
def isLong
    (n : Int) : Bool :=
  Binary64.tens maxDigits ≤ n.natAbs

mutual

/- An integer that cannot be written is in the value. -/
def hasLong : Value → Bool
  | .int n => isLong n
  | .pair a b => hasLong a || hasLong b
  | .list items => anyLong items
  | .set items => anyLong items
  | .map entries => anyEntryLong entries
  | .tied _ body => hasLong body
  | _ => false

/- An integer that cannot be written is in one of the values. -/
def anyLong : List Value → Bool
  | [] => false
  | value :: rest => hasLong value || anyLong rest

/- An integer that cannot be written is in one of the entries. -/
def anyEntryLong : List (Value × Value) → Bool
  | [] => false
  | (key, value) :: rest =>
      hasLong key || hasLong value || anyEntryLong rest

end

------------------------------------------------------------
-- Values As Text
------------------------------------------------------------

/- What stands for a collection inside of itself. -/
def selfMark : Value → String
  | .map _ => "\x7b...\x7d"
  | _ => "[...]"

mutual

/- A value spelled out within collections that have a mark each. -/
def literalWithin
    (marks : List (Nat × String)) :
    Value → String
  | .null => "None"
  | .bool b => if b then "True" else "False"
  | .int n => toString n
  | .float x => x.toText
  | .nan .. => Binary64.nan.toText
  | .str s => Text.quote s
  | .halved points => Text.quotePoints points
  | .bytes bs => Text.quoteBytes bs
  | .moment m => m.literal
  | .pair a b =>
      "(" ++ literalWithin marks a ++ ", " ++ literalWithin marks b ++
        ")"
  | .list items =>
      "[" ++ ", ".intercalate (literalsWithin marks items) ++ "]"
  | .set items =>
      if items.isEmpty then "set()"
      else
        "\x7b" ++ ", ".intercalate (literalsWithin marks items) ++ "\x7d"
  | .map entries =>
      "\x7b" ++ ", ".intercalate (entryLiterals marks entries) ++ "\x7d"
  | .tied label body =>
      match marks.lookup label with
      | some mark => mark
      | none => literalWithin ((label, selfMark body) :: marks) body
  | .loop label => (marks.lookup label).getD (selfMark .null)

/- Values spelled out, one by one. -/
def literalsWithin
    (marks : List (Nat × String)) :
    List Value → List String
  | [] => []
  | value :: rest =>
      literalWithin marks value :: literalsWithin marks rest

/- The entries of a mapping spelled out. -/
def entryLiterals
    (marks : List (Nat × String)) :
    List (Value × Value) → List String
  | [] => []
  | (key, value) :: rest =>
      (literalWithin marks key ++ ": " ++ literalWithin marks value) ::
        entryLiterals marks rest

end

/- A value spelled out, with texts in quotes. -/
def literal
    (value : Value) : String :=
  literalWithin [] value

/- A value inside a sentence: a text stands by itself. -/
def sentence : Value → String
  | .str s => s
  | .halved points => Text.joined points
  | .moment m => m.sentence
  | value => value.literal

end Value

end SyntaxOutline
