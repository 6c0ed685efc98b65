import SyntaxOutline.Value.Key

/-
  Values used in ways that their kind does not allow.

  Configurations are plain data of any kind, so asking one for
  its entries, its elements or its fields can fail.

  Key definitions include:
    * `Misuse`
    * `Value.inMessage`
    * `Value.elements`
    * `Value.elementSet`
    * `Value.holds`
    * `Value.item`
    * `Value.getOr`
-/

------------------------------------------------------------
-- Misuses
------------------------------------------------------------

namespace SyntaxOutline

/- What a value was asked for that its kind does not have. -/
inductive Misuse where
  | notIterable (kind : String)
  | unhashable (kind : String)
  | notSearchable (kind : String)
  | notMember (kind : String)
  | notRoute (kind : String)
  | notEncodable
  | octetsNeeded
  | textIndex
  | listIndex (kind : String)
  | notIndexable (kind : String)
  | missingKey (key : String)
  | lacks (kind ability : String)
  | notOrdered (kind : String)
  | sizeless (kind : String)
  | longInteger
  deriving DecidableEq, Repr

namespace Misuse

/- The text of a misuse. -/
def message : Misuse → String
  | .notIterable kind => "'" ++ kind ++ "' object is not iterable"
  | .unhashable kind => (Unhashable.mk kind).message
  | .notSearchable kind =>
      "argument of type '" ++ kind ++ "' is not iterable"
  | .notMember kind =>
      "'in <string>' requires string as left operand, not " ++ kind
  | .notRoute kind =>
      "expected str, bytes or os.PathLike object, not " ++ kind
  | .notEncodable => "encoding without a string argument"
  | .octetsNeeded => "a bytes-like object is required, not 'str'"
  | .textIndex => "string indices must be integers, not 'str'"
  | .listIndex kind =>
      "list indices must be integers or slices, not " ++ kind
  | .notIndexable kind =>
      "'" ++ kind ++ "' object is not subscriptable"
  | .missingKey key => key
  | .lacks kind ability =>
      "'" ++ kind ++ "' object has no attribute '" ++ ability ++ "'"
  | .notOrdered kind =>
      "'<' not supported between instances of '" ++ kind ++
        "' and 'int'"
  | .sizeless kind => "object of type '" ++ kind ++ "' has no len()"
  | .longInteger =>
      "Exceeds the limit (" ++ toString Value.maxDigits ++
        " digits) for integer string conversion; use " ++
        "sys.set_int_max_str_digits() to increase the limit"

/- The misuse inside a sentence: a failed lookup quotes its key. -/
def sentence : Misuse → String
  | .missingKey key => Text.quote key
  | other => other.message

end Misuse

------------------------------------------------------------
-- Asking Values
------------------------------------------------------------

namespace Value

/- A value inside a message; there are integers too long for it. -/
def inMessage
    (v : Value) : Except Misuse String :=
  if v.hasLong then .error .longInteger else .ok v.sentence

/- The elements of a value. -/
def elements
    (v : Value) : Except Misuse (List Value) :=
  match v.parts? with
  | some items => .ok items
  | none => .error (.notIterable v.kindName)

/- The key of a value. -/
def keyOrMisuse
    (v : Value) : Except Misuse Key :=
  v.key.mapError fun u => .unhashable u.kind

/- The distinct elements of a value. -/
def elementSet
    (v : Value) : Except Misuse (List Value) := do
  let items ← v.elements
  let keyed ← items.mapM fun item => do
    let key ← item.keyOrMisuse
    return (key, item)
  return distinct keyed

/- A row of code points occurs within another one. -/
def occursIn
    (text : List Nat) :
    List Nat → Bool
  | [] => text.isEmpty
  | c :: rest => text.isPrefixOf (c :: rest) || occursIn text rest

/- The value holds a text: as a key, an element or a part. -/
def holds
    (v : Value)
    (text : String) : Except Misuse Bool :=
  match v.content with
  | .map entries => .ok (fieldOf? text entries).isSome
  | .list items => .ok (items.any (·.text? = some text))
  | .set items => .ok (items.any (·.text? = some text))
  | .pair a b => .ok ([a, b].any (·.text? = some text))
  | .str s => .ok (occursIn (Text.points text) (Text.points s))
  | .halved points => .ok (occursIn (Text.points text) points)
  | .bytes _ => .error .octetsNeeded
  | other => .error (.notSearchable other.kindName)

/- The entry of a value under a text. -/
def item
    (v : Value)
    (text : String) : Except Misuse Value :=
  match v.content with
  | .map entries =>
      match fieldOf? text entries with
      | some value => .ok value
      | none => .error (.missingKey text)
  | .list _ => .error (.listIndex "str")
  | .str _ => .error .textIndex
  | .halved _ => .error .textIndex
  | other => .error (.notIndexable other.kindName)

/- The entry of a mapping under a text, or the default. -/
def getOr
    (v : Value)
    (text : String)
    (default : Value) : Except Misuse Value :=
  match v.content with
  | .map entries => .ok ((fieldOf? text entries).getD default)
  | other => .error (.lacks other.kindName "get")

end Value

end SyntaxOutline
