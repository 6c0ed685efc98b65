import SyntaxOutline.Schema.Fault
import SyntaxOutline.Text.Blank
import SyntaxOutline.Value.Json

/-
  Texts, integers, truth values and lists out of plain data.

  Integers may be given as truth values, as numbers without a
  fraction and as text; truth values as zero, one and a few
  words.

  Key definitions include:
    * `Schema.text`
    * `Schema.int`
    * `Schema.bool`
    * `Schema.list`
    * `Schema.textSet`
    * `Schema.required`
    * `Schema.optional`
-/

------------------------------------------------------------
-- Texts
------------------------------------------------------------

namespace SyntaxOutline

namespace Schema

/- A text. -/
def text : Value → Checked String
  | .str s => .ok s
  | _ => fail .notText

------------------------------------------------------------
-- Integers
------------------------------------------------------------

/-
  An integer as JSON writes it: an optional minus, then digits
  without leading zeros.  The digits have a limit, which counts
  even when something else follows.
-/
def strictInt
    (text : List Char) : Except Fault Int :=
  let (negative, rest) :=
    match text with
    | '-' :: rest => (true, rest)
    | _ => (false, text)
  let digits := rest.takeWhile Json.isDigit
  let startsZero : Bool := digits.head? = some '0'
  let ends : Bool := digits.length = rest.length
  if digits.isEmpty || (startsZero && digits.length ≠ 1) then
    .error .unreadableInt
  else if Value.maxDigits < digits.length then .error .oversizedInt
  else if ends then
    let n := Json.natOf digits
    .ok (if negative then -(n : Int) else n)
  else .error .unreadableInt

/-
  What follows zeros that stand at the start, with underscores
  among them.  The last one stays where no digit follows.
-/
def behindZeros?
    (last : Char) :
    List Char → Option (List Char)
  | [] => some [last]
  | c :: rest =>
      if c = '0' ∨ c = '_' then behindZeros? c rest
      else if Json.isDigit c ∨ c = '-' then some (c :: rest)
      else if c = '.' then some (last :: c :: rest)
      else none

/- The text without leading zeros. -/
def dropZeros? : List Char → Option (List Char)
  | [] => none
  | c :: rest =>
      if c = '0' then behindZeros? c rest
      else if Json.isDigit c ∨ c = '-' then some (c :: rest)
      else none

/- The text without a fraction, which may consist of zeros only. -/
def dropFraction?
    (text : List Char) : Option (List Char) :=
  match text.dropWhile (· ≠ '.') with
  | [] => some text
  | _ :: zeros =>
      if zeros.isEmpty ∨ zeros.any (· ≠ '0') then none
      else some (text.takeWhile (· ≠ '.'))

/- Two underscores follow one another somewhere. -/
def hasDoubleLine : List Char → Bool
  | c :: d :: rest =>
      (c = '_' && d = '_') || hasDoubleLine (d :: rest)
  | _ => false

/- The text without underscores, if each of them divides. -/
def dropLines
    (text : List Char) : List Char :=
  if text.head? = some '_' ∨ text.getLast? = some '_' ∨
      hasDoubleLine text then text
  else text.filter (· ≠ '_')

/- Sign, zeros, fraction and underscores put aside. -/
def cleaned?
    (text : List Char) : Option (List Char) := do
  let (minus, rest) ←
    match text with
    | '+' :: '-' :: _ => none
    | '+' :: rest => some ([], rest)
    | '-' :: rest => some (['-'], rest)
    | _ => some ([], text)
  let whole ← dropFraction? (← dropZeros? rest)
  return minus ++ dropLines whole

/-
  The integer that a text gives, blanks around it aside.  What
  has too many digits only once it is cleaned is no integer.
-/
def intOfText
    (text : String) : Except Fault Int :=
  let chars := Text.trimWhile Text.isSpace text.toList
  match strictInt chars with
  | .error .unreadableInt =>
      match (cleaned? chars).map strictInt with
      | some (.ok n) => .ok n
      | _ => .error .unreadableInt
  | outcome => outcome

/- Numbers with a point lie between these bounds as integers. -/
def wordBound : Int :=
  Binary64.twos 63

/- The integer that a number with a point gives. -/
def intOfFloat
    (x : Binary64) : Except Fault Int :=
  match x, x.toInt? with
  | .finite .., some n =>
      if -wordBound < n ∧ n < wordBound then .ok n
      else .error .oversizedInt
  | .finite .., none => .error .fractionalInt
  | _, _ => .error .notFinite

/- An integer. -/
def int : Value → Checked Int
  | .int n => .ok n
  | .bool b => .ok (if b then 1 else 0)
  | .float x =>
      match intOfFloat x with
      | .ok n => .ok n
      | .error fault => fail fault
  | .str s =>
      match intOfText s with
      | .ok n => .ok n
      | .error fault => fail fault
  | _ => fail .notInt

/- An integer that is not negative. -/
def nonNegative
    (value : Value) : Checked Int := do
  let n ← int value
  if n < 0 then fail .belowZero else return n

------------------------------------------------------------
-- Truth Values
------------------------------------------------------------

/- Words for truth, in lower case. -/
def trueWords : List String :=
  ["true", "t", "yes", "y", "on", "1"]

/- Words for falsehood, in lower case. -/
def falseWords : List String :=
  ["false", "f", "no", "n", "off", "0"]

/- The truth value that a word gives, in any case. -/
def boolOfText?
    (word : String) : Option Bool :=
  let lower := String.ofList (word.toList.map Char.toLower)
  if lower ∈ trueWords then some true
  else if lower ∈ falseWords then some false
  else none

/- The truth value that an integer of a machine word gives. -/
def boolOfInt
    (n : Int) : Checked Bool :=
  if n < -wordBound ∨ wordBound ≤ n then fail .notBool
  else if n = 0 then .ok false
  else if n = 1 then .ok true
  else fail .unreadableBool

/- A truth value. -/
def bool : Value → Checked Bool
  | .bool b => .ok b
  | .int n => boolOfInt n
  | .float x =>
      match intOfFloat x with
      | .ok n => boolOfInt n
      | .error _ => fail .notBool
  | .str s =>
      match boolOfText? s with
      | some b => .ok b
      | none => fail .unreadableBool
  | _ => fail .notBool

/- The value is true, or a number equal to one. -/
def isTrue : Value → Bool
  | .bool b => b
  | .int n => n == 1
  | .float x => x.toInt? == some 1
  | _ => false

------------------------------------------------------------
-- Absent Values And Lists
------------------------------------------------------------

variable {α : Type}

/- Null, or what the given check accepts. -/
def orNull
    (check : Value → Checked α) :
    Value → Checked (Option α)
  | .null => .ok none
  | value => (check value).map some

/- The items of a list from a position on. -/
def itemsFrom
    (check : Value → Checked α)
    (position : Nat) :
    List Value → Checked (List α)
  | [] => .ok []
  | item :: rest =>
      .ok List.cons
        |> taking (under (.position position) (check item))
        |> taking (itemsFrom check (position + 1) rest)

/- A list of things that the given check accepts. -/
def list
    (check : Value → Checked α) :
    Value → Checked (List α)
  | .list items => itemsFrom check 0 items
  | _ => fail .notList

/- A set of texts. -/
def textSet : Value → Checked (List String)
  | .list items => itemsFrom text 0 items
  | .set items => itemsFrom text 0 items
  | _ => fail .notSet

------------------------------------------------------------
-- Fields
------------------------------------------------------------

/- A field that must be there. -/
def required
    (name : String)
    (check : Value → Checked α)
    (entries : List (Value × Value)) : Checked α :=
  under (.name name) <|
    match Value.fieldOf? name entries with
    | none => fail .missing
    | some value => check value

/- A field that may be left out. -/
def optional
    (name : String)
    (default : α)
    (check : Value → Checked α)
    (entries : List (Value × Value)) : Checked α :=
  match Value.fieldOf? name entries with
  | none => .ok default
  | some value => under (.name name) (check value)

/- A field that can only hold one text, and may be left out. -/
def literalField
    (name expected : String)
    (entries : List (Value × Value)) : Checked Unit :=
  optional name () (fun value =>
    if value.text? = some expected then .ok ()
    else fail (.notLiteral (Text.quote expected))) entries

/- A thing with fields. -/
def object
    (title : String)
    (fields : List (Value × Value) → Checked α) :
    Value → Checked α
  | .map entries => fields entries
  | _ => fail (.notModel title)

end Schema

end SyntaxOutline
