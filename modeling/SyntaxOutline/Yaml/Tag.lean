import SyntaxOutline.Value.Json

/-
  Tags: what value to make of a node.

  A plain scalar without a tag gets one by its text alone: the
  words for null and for truth values, numbers in several
  notations, moments, the sign of merging and the sign of a
  default value.  All other scalars are texts.

  Key definitions include:
    * `Yaml.Tag`
    * `Yaml.Tag.ofText`
    * `Yaml.Tag.ofScalar`
-/

------------------------------------------------------------
-- Tags
------------------------------------------------------------

namespace SyntaxOutline

namespace Yaml

/- What value to make of a node. -/
inductive Tag where
  | null
  | bool
  | int
  | float
  | binary
  | timestamp
  | omap
  | pairs
  | set
  | str
  | seq
  | map
  | merge
  | value
  | other (name : String)
  deriving DecidableEq, Repr, Inhabited

namespace Tag

/- How the names of all tags of the standard start. -/
def standard : String :=
  "tag:yaml.org,2002:"

/- The tags of the standard by their names. -/
def known : List (String × Tag) :=
  [("null", .null), ("bool", .bool), ("int", .int),
    ("float", .float), ("binary", .binary),
    ("timestamp", .timestamp), ("omap", .omap), ("pairs", .pairs),
    ("set", .set), ("str", .str), ("seq", .seq), ("map", .map),
    ("merge", .merge), ("value", .value)]

/- The tag with a full name. -/
def ofName
    (name : String) : Tag :=
  ((known.find? fun (short, _) => standard ++ short = name).map
    (·.2)).getD (.other name)

------------------------------------------------------------
-- Numbers By Their Text
------------------------------------------------------------

/- A decimal digit or an underscore. -/
def isDigitOrLine
    (c : Char) : Bool :=
  Json.isDigit c || c = '_'

/- The text behind an optional sign. -/
def dropSign : List Char → List Char
  | c :: rest => if c = '+' ∨ c = '-' then rest else c :: rest
  | [] => []

/- One or more digits of base sixty behind colons. -/
def isSexagesimalTail : (fuel : Nat) → List Char → Bool
  | 0, _ => false
  | fuel + 1, ':' :: text =>
      let one (rest : List Char) : Bool :=
        rest.isEmpty || isSexagesimalTail fuel rest
      match text with
      | a :: b :: rest =>
          (Json.isDigit a && one (b :: rest)) ||
            ('0' ≤ a && a ≤ '5' && Json.isDigit b && one rest)
      | [a] => Json.isDigit a
      | [] => false
  | _ + 1, _ => false

/- Digits that do not start with zero, and what follows. -/
def splitWhole? : List Char → Option (List Char)
  | c :: rest =>
      if '1' ≤ c && c ≤ '9' then some (rest.dropWhile isDigitOrLine)
      else none
  | [] => none

/- The text is an integer in one of the notations. -/
def isInt
    (text : List Char) : Bool :=
  let digits := dropSign text
  let binary :=
    match digits with
    | '0' :: 'b' :: c :: rest =>
        (c :: rest).all fun d => d = '0' || d = '1' || d = '_'
    | _ => false
  let octal :=
    match digits with
    | '0' :: c :: rest =>
        (c :: rest).all fun d => ('0' ≤ d && d ≤ '7') || d = '_'
    | _ => false
  let hexadecimal :=
    match digits with
    | '0' :: 'x' :: c :: rest =>
        (c :: rest).all fun d => (Json.hexValue? d).isSome || d = '_'
    | _ => false
  let decimal :=
    match splitWhole? digits with
    | some rest =>
        rest.isEmpty || isSexagesimalTail rest.length rest
    | none => digits = ['0']
  binary || octal || decimal || hexadecimal

/- Nothing, or an exponent with a sign. -/
def isExponent : List Char → Bool
  | [] => true
  | e :: sign :: rest =>
      (e = 'e' || e = 'E') && (sign = '+' || sign = '-') &&
        !rest.isEmpty && rest.all Json.isDigit
  | _ => false

/- Digits of base sixty with a point behind the last ones. -/
def isSexagesimalFloat
    (tail : List Char) : Bool :=
  match tail.dropWhile (· ≠ '.') with
  | _ :: fraction =>
      let whole := tail.takeWhile (· ≠ '.')
      isSexagesimalTail whole.length whole && fraction.all isDigitOrLine
  | [] => false

/- The words behind a point that are numbers. -/
def isSpecialFloat
    (text : List Char) : Bool :=
  [".inf", ".Inf", ".INF"].contains (String.ofList (dropSign text)) ||
    [".nan", ".NaN", ".NAN"].contains (String.ofList text)

/- The text is a number with a point. -/
def isFloat
    (text : List Char) : Bool :=
  let withWhole :=
    match dropSign text with
    | c :: rest =>
        Json.isDigit c &&
          match rest.dropWhile isDigitOrLine with
          | '.' :: more => isExponent (more.dropWhile isDigitOrLine)
          | tail => isSexagesimalFloat tail
    | [] => false
  let withoutWhole :=
    match text with
    | '.' :: c :: rest =>
        Json.isDigit c && isExponent (rest.dropWhile isDigitOrLine)
    | _ => false
  withWhole || withoutWhole || isSpecialFloat text

------------------------------------------------------------
-- Moments By Their Text
------------------------------------------------------------

/- The digits at the start, at most a given number of them. -/
def digitsUpTo
    (n : Nat)
    (text : List Char) : List Char :=
  (text.take n).takeWhile Json.isDigit

/- A mark and then some digits, not fewer and not more. -/
def digitsBehind?
    (mark : Char)
    (least most : Nat) :
    List Char → Option (List Char × List Char)
  | c :: rest =>
      let digits := digitsUpTo most rest
      if c = mark ∧ least ≤ digits.length then
        some (digits, rest.drop digits.length)
      else none
  | [] => none

/- The parts of a moment, as they are written. -/
structure MomentText where
  year : List Char
  month : List Char
  day : List Char
  hour : List Char := []
  minute : List Char := []
  second : List Char := []
  fraction : List Char := []
  zone : Option (Option (Char × List Char × List Char)) := none
  deriving Repr

/- The zone at the end of a moment; `none` is universal time. -/
def zone? :
    List Char → Option (Option (Option (Char × List Char × List Char)))
  | [] => some none
  | text =>
      match text.dropWhile fun c => c = ' ' || c = '\t' with
      | ['Z'] => some (some none)
      | sign :: rest =>
          let hour := digitsUpTo 2 rest
          if (sign = '+' ∨ sign = '-') ∧ 1 ≤ hour.length then
            match rest.drop hour.length with
            | [] => some (some (some (sign, hour, [])))
            | tail =>
                match digitsBehind? ':' 2 2 tail with
                | some (minute, []) =>
                    some (some (some (sign, hour, minute)))
                | _ => none
          else none
      | [] => none

/- The time of day behind a date. -/
def timeOf?
    (date : MomentText)
    (text : List Char) : Option MomentText := do
  let hour := digitsUpTo 2 text
  guard (1 ≤ hour.length)
  let (minute, rest) ← digitsBehind? ':' 2 2 (text.drop hour.length)
  let (second, rest) ← digitsBehind? ':' 2 2 rest
  let (fraction, rest) :=
    match rest with
    | '.' :: more =>
        (more.takeWhile Json.isDigit, more.dropWhile Json.isDigit)
    | _ => ([], rest)
  let zone ← zone? rest
  return { date with
    hour := hour
    minute := minute
    second := second
    fraction := fraction
    zone := zone }

/- The parts of a moment. -/
def momentText?
    (text : List Char) : Option MomentText := do
  let year := digitsUpTo 4 text
  guard (year.length = 4)
  let (month, rest) ← digitsBehind? '-' 1 2 (text.drop 4)
  let (day, rest) ← digitsBehind? '-' 1 2 rest
  let date : MomentText := { year := year, month := month, day := day }
  match rest with
  | [] => return date
  | c :: more =>
      if c = 'T' ∨ c = 't' then timeOf? date more
      else if c = ' ' ∨ c = '\t' then
        timeOf? date (more.dropWhile fun c => c = ' ' || c = '\t')
      else none

/- The text is a moment; a day alone has all of its digits. -/
def isMoment
    (text : List Char) : Bool :=
  match momentText? text with
  | none => false
  | some m =>
      !m.hour.isEmpty || (m.month.length = 2 && m.day.length = 2)

------------------------------------------------------------
-- Tags By The Text
------------------------------------------------------------

/- Words for truth values. -/
def truthWords : List String :=
  ["yes", "Yes", "YES", "no", "No", "NO", "true", "True", "TRUE",
    "false", "False", "FALSE", "on", "On", "ON", "off", "Off",
    "OFF"]

/- Words for null, besides no word at all. -/
def nullWords : List String :=
  ["~", "null", "Null", "NULL"]

/- Signs that a plain scalar cannot consist of. -/
def signWords : List String :=
  ["!", "&", "*"]

/- The tag of a plain scalar without one. -/
def ofText
    (text : String) : Tag :=
  let chars :=
    match text.toList.getLast? with
    | some '\n' => text.toList.dropLast
    | _ => text.toList
  let word := String.ofList chars
  if truthWords.contains word then .bool
  else if isFloat chars then .float
  else if isInt chars then .int
  else if word = "<<" then .merge
  else if text = "" || nullWords.contains word then .null
  else if isMoment chars then .timestamp
  else if word = "=" then .value
  else if signWords.contains word then .other (standard ++ "yaml")
  else .str

/- The tag of a text without one; halves make no other value. -/
def ofPoints
    (text : List Nat) : Tag :=
  if text.any Text.isHalf then .str else ofText (Text.joined text)

/- The tag of a scalar, given the tag it is written with. -/
def ofScalar
    (written : Option String)
    (text : List Nat)
    (isPlain : Bool) : Tag :=
  match written with
  | none => if isPlain then ofPoints text else .str
  | some "!" => ofPoints text
  | some name => ofName name

/- The tag of a scalar that is not written at all. -/
def ofEmpty : Option String → Tag
  | none => .null
  | some "!" => .null
  | some name => ofName name

/- The tag of a sequence, given the tag it is written with. -/
def ofSequence : Option String → Tag
  | none => .seq
  | some "!" => .seq
  | some name => ofName name

/- The tag of a mapping, given the tag it is written with. -/
def ofMapping : Option String → Tag
  | none => .map
  | some "!" => .map
  | some name => ofName name

end Tag

end Yaml

end SyntaxOutline
