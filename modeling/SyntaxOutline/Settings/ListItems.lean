import SyntaxOutline.Text.Blank
import SyntaxOutline.Text.Quoted

/-
  Lists on a command line.

  The items of a list stand between commas, with or without
  brackets around them all.  Items may be objects or lists in
  JSON, texts in quotes or plain words; digits are plain words as
  well, since the lists hold texts.  Two commas in a row, or one
  at an end, stand around an empty item, but brackets may hold no
  item at all.  All values given to the same list make one list,
  as JSON text.

  Key definitions include:
    * `ListItems.Fault`
    * `ListItems.itemText`
    * `ListItems.itemsFrom`
    * `ListItems.listText`
-/

------------------------------------------------------------
-- Single Items
------------------------------------------------------------

namespace SyntaxOutline

namespace ListItems

/- Why a value holds no items. -/
inductive Fault where
  | unclosed (close : Char)
  | openQuote
  deriving DecidableEq, Repr

/- The text of a fault. -/
def Fault.message : Fault → String
  | .unclosed close =>
      "Missing end delimiter \x22" ++ String.singleton close ++ "\x22"
  | .openQuote => "Mismatched quotes"

/-
  An item of a list as JSON writes it.  What is not in quotes is
  put in quotes, whether or not it looks like a number, except for
  the words of JSON and the word that means null.
-/
def itemText
    (nullWord : Option String)
    (text : List Char) : List Char :=
  let word := String.ofList text
  let word := if nullWord = some word then "null" else word
  if ["true", "false", "null"].contains word ||
      text.head? = some Text.doubleQuote then word.toList
  else Text.doubleQuote :: text ++ [Text.doubleQuote]

------------------------------------------------------------
-- Taking Items
------------------------------------------------------------

/- The quote opens or closes a text, unless it is escaped. -/
def isQuote
    (previous c : Char) : Bool :=
  c = Text.doubleQuote && previous ≠ '\\'

/-
  The rest of an object or list up to its end, and what follows.
  Brackets inside of texts do not count.
-/
def takeNested
    (close : Char)
    (depth : Int)
    (inText : Bool)
    (previous : Char) :
    List Char → Option (List Char × List Char)
  | [] => none
  | c :: rest =>
      let more (depth : Int) (inText : Bool) :=
        (takeNested close depth inText c rest).map fun (taken, left) =>
          (c :: taken, left)
      if isQuote previous c then more depth (!inText)
      else if inText then more depth inText
      else if c = '\x7b' || c = '[' then more (depth + 1) inText
      else if c = '\x7d' || c = ']' then
        if c = close && depth = 1 then some ([c], rest)
        else more (depth - 1) inText
      else more depth inText

/- The text up to a comma outside of quotes, and what follows. -/
def takePlain
    (inText : Bool)
    (previous : Char) :
    List Char → Option (List Char × List Char)
  | [] => if inText then none else some ([], [])
  | c :: rest =>
      let inside := if isQuote previous c then !inText else inText
      if !inside && c = ',' then some ([], c :: rest)
      else
        (takePlain inside c rest).map fun (taken, left) =>
          (c :: taken, left)

/- The first item of a text, and what follows. -/
def takeItem
    (nullWord : Option String)
    (text : List Char) : Except Fault (List Char × List Char) :=
  let nested (first close : Char) (rest : List Char) :
      Except Fault (List Char × List Char) :=
    match takeNested close 1 false first rest with
    | some (taken, left) => .ok (first :: taken, left)
    | none => .error (.unclosed close)
  match text with
  | '\x7b' :: rest => nested '\x7b' '\x7d' rest
  | '[' :: rest => nested '[' ']' rest
  | _ =>
      match takePlain false ' ' text with
      | some (taken, left) =>
          .ok (itemText nullWord (Text.trimWhile Text.isBlank taken),
            left)
      | none => .error .openQuote

------------------------------------------------------------
-- Values
------------------------------------------------------------

/- An item without anything in it. -/
def emptyItem : List Char :=
  [Text.doubleQuote, Text.doubleQuote]

/- The text between brackets, if it is in brackets. -/
def bracketed?
    (text : List Char) : Option (List Char) :=
  if text.head? = some '[' ∧ text.getLast? = some ']' then
    some (Text.trimWhile Text.isBlank (text.drop 1).dropLast)
  else none

/- The items so far, and whether the last sign was an item. -/
structure Progress where
  items : List (List Char) := []
  endsInItem : Bool := false
  deriving DecidableEq, Repr, Inhabited

namespace Progress

/- Go on behind a comma, or at the end of a value. -/
def pause
    (p : Progress) : Progress :=
  if p.endsInItem then p
  else { p with items := p.items ++ [emptyItem] }

/- Go on behind an item. -/
def add
    (p : Progress)
    (item : List Char) : Progress :=
  ⟨p.items ++ [item], true⟩

end Progress

/- Go on with the items of a text, at most as many as there is fuel. -/
def itemsFrom
    (nullWord : Option String) :
    (fuel : Nat) → Progress → List Char → Except Fault Progress
  | 0, p, _ => .ok p
  | fuel + 1, p, text =>
      match Text.trimWhile Text.isBlank text with
      | [] => .ok p
      | ',' :: rest =>
          itemsFrom nullWord fuel { p.pause with endsInItem := false }
            rest
      | start => do
          let (item, rest) ← takeItem nullWord start
          itemsFrom nullWord fuel (p.add item) rest

/-
  Go on with the items of one value.  Brackets around nothing are
  a list without items; nothing at all is an empty item.
-/
def itemsOf
    (nullWord : Option String)
    (p : Progress)
    (value : String) : Except Fault Progress :=
  let text := Text.trimWhile Text.isBlank value.toList
  match bracketed? text with
  | some [] => .ok p
  | inner => do
      let items := inner.getD text
      let p ← itemsFrom nullWord (items.length + 1) p items
      return p.pause

/- The list of all items of some values, as JSON text. -/
def listText
    (nullWord : Option String)
    (values : List String) : Except Fault String := do
  let p ← values.foldlM (itemsOf nullWord) {}
  return String.ofList ('[' :: [','].intercalate p.items ++ [']'])

end ListItems

end SyntaxOutline
