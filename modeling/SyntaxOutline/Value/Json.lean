import SyntaxOutline.Value.Key

/-
  Values written as JSON text.

  Besides the standard grammar the words `NaN`, `Infinity` and
  `-Infinity` are read as numbers.  A number with neither a
  fraction nor an exponent is an integer of at most 4300
  digits.  Of members with one name the last counts.

  Key definitions include:
    * `Json.value?`
    * `Json.parse?`
-/

------------------------------------------------------------
-- Characters
------------------------------------------------------------

namespace SyntaxOutline

namespace Json

/- A blank between the parts of a document. -/
def isBlank
    (c : Char) : Bool :=
  c = ' ' || c = '\t' || c = '\n' || c = '\r'

/- The text behind its leading blanks. -/
def skip
    (text : List Char) : List Char :=
  text.dropWhile isBlank

/- The text behind a word that it starts with. -/
def word? : List Char → List Char → Option (List Char)
  | [], text => some text
  | _ :: _, [] => none
  | w :: ws, c :: cs => if w = c then word? ws cs else none

/- The value of a hexadecimal digit. -/
def hexValue?
    (c : Char) : Option Nat :=
  let n := c.toNat
  if 48 ≤ n ∧ n ≤ 57 then some (n - 48)
  else if 65 ≤ n ∧ n ≤ 70 then some (n - 55)
  else if 97 ≤ n ∧ n ≤ 102 then some (n - 87)
  else none

/- The value of four hexadecimal digits, and what follows. -/
def hex4? : List Char → Option (Nat × List Char)
  | a :: b :: c :: d :: rest => do
      let a ← hexValue? a
      let b ← hexValue? b
      let c ← hexValue? c
      let d ← hexValue? d
      return (((a * 16 + b) * 16 + c) * 16 + d, rest)
  | _ => none

/- The number of a row of decimal digits. -/
def natOf
    (digits : List Char) : Nat :=
  digits.foldl (fun n c => n * 10 + (c.toNat - 48)) 0

------------------------------------------------------------
-- Numbers
------------------------------------------------------------

/- A decimal digit. -/
def isDigit
    (c : Char) : Bool :=
  '0' ≤ c && c ≤ '9'

/- The fraction behind a point, when at least one digit stands there. -/
def fraction? : List Char → Option (List Char × List Char)
  | '.' :: rest =>
      match rest.takeWhile isDigit with
      | [] => none
      | digits => some (digits, rest.dropWhile isDigit)
  | _ => none

/- The exponent of ten, when at least one digit stands there. -/
def exponent? : List Char → Option (Int × List Char)
  | c :: rest =>
      if c = 'e' ∨ c = 'E' then
        let (negative, rest) :=
          match rest with
          | '-' :: more => (true, more)
          | '+' :: more => (false, more)
          | more => (false, more)
        match rest.takeWhile isDigit with
        | [] => none
        | digits =>
            let n : Int := natOf digits
            some (if negative then -n else n, rest.dropWhile isDigit)
      else none
  | [] => none

/- A number whose sign has been read. -/
def unsigned?
    (negative : Bool)
    (text : List Char) : Option (Value × List Char) :=
  let digits :=
    match text with
    | '0' :: _ => ['0']
    | _ => text.takeWhile isDigit
  if digits.isEmpty then none
  else
    let rest := text.drop digits.length
    let whole := natOf digits
    match fraction? rest, exponent? rest with
    | none, none =>
        if Value.maxDigits < digits.length then none
        else
          some (.int (if negative then -(whole : Int) else whole), rest)
    | none, some (e, rest) =>
        some (.float (.ofDecimal negative whole e), rest)
    | some (f, rest), _ =>
        let digits := natOf (digits ++ f)
        match exponent? rest with
        | none =>
            some (.float (.ofDecimal negative digits (-f.length)), rest)
        | some (e, rest) =>
            some (.float (.ofDecimal negative digits (e - f.length)), rest)

/- A number. -/
def number? : List Char → Option (Value × List Char)
  | '-' :: rest =>
      match word? "Infinity".toList rest with
      | some rest => some (.float (.infinite true), rest)
      | none => unsigned? true rest
  | text => unsigned? false text

------------------------------------------------------------
-- Texts
------------------------------------------------------------

/- The character behind a backslash, when it is a short escape. -/
def shortEscape?
    (c : Char) : Option Char :=
  if c = '\x22' then some '\x22'
  else if c = '\\' then some '\\'
  else if c = '/' then some '/'
  else if c = 'b' then some '\x08'
  else if c = 'f' then some '\x0C'
  else if c = 'n' then some '\n'
  else if c = 'r' then some '\r'
  else if c = 't' then some '\t'
  else none

/- The rest of a text behind its opening quote. -/
def string?
    (done : List Char) :
    (fuel : Nat) → List Char → Option (String × List Char)
  | 0, _ => none
  | _ + 1, [] => none
  | fuel + 1, c :: rest =>
      if c = '\x22' then some (String.ofList done.reverse, rest)
      else if c = '\\' then
        match rest with
        | 'u' :: rest => do
            let (high, rest) ← hex4? rest
            match rest with
            | '\\' :: 'u' :: more =>
                match hex4? more with
                | some (low, more) =>
                    if 0xD800 ≤ high ∧ high < 0xDC00 ∧
                        0xDC00 ≤ low ∧ low < 0xE000 then
                      let code :=
                        0x10000 + (high - 0xD800) * 0x400 + (low - 0xDC00)
                      string? (Char.ofNat code :: done) fuel more
                    else string? (unit high :: done) fuel rest
                | none => string? (unit high :: done) fuel rest
            | _ => string? (unit high :: done) fuel rest
        | e :: rest => do
            let c ← shortEscape? e
            string? (c :: done) fuel rest
        | [] => none
      else if c.toNat < 32 then none
      else string? (c :: done) fuel rest
where
  unit (code : Nat) : Char :=
    if 0xD800 ≤ code ∧ code < 0xE000 then '\uFFFD' else Char.ofNat code

------------------------------------------------------------
-- Values
------------------------------------------------------------

mutual

/- A value at the start of a text without leading blanks. -/
def value? : (fuel : Nat) → List Char → Option (Value × List Char)
  | 0, _ => none
  | _ + 1, [] => none
  | fuel + 1, c :: rest =>
      if c = '\x22' then do
        let (s, rest) ← string? [] (fuel + 1) rest
        return (.str s, rest)
      else if c = '[' then
        match skip rest with
        | ']' :: rest => some (.list [], rest)
        | rest => do
            let (items, rest) ← items? fuel rest
            return (.list items, rest)
      else if c = '\x7b' then
        match skip rest with
        | '\x7d' :: rest => some (.map [], rest)
        | rest => do
            let (members, rest) ← members? fuel rest
            return (.mapOf members, rest)
      else if c = 'n' then
        (word? "ull".toList rest).map (Value.null, ·)
      else if c = 't' then
        (word? "rue".toList rest).map (Value.bool true, ·)
      else if c = 'f' then
        (word? "alse".toList rest).map (Value.bool false, ·)
      else if c = 'N' then
        (word? "aN".toList rest).map (Value.float .nan, ·)
      else if c = 'I' then
        (word? "nfinity".toList rest).map
          (Value.float (.infinite false), ·)
      else number? (c :: rest)

/- The items of a list up to its closing bracket. -/
def items? : (fuel : Nat) → List Char → Option (List Value × List Char)
  | 0, _ => none
  | fuel + 1, text => do
      let (item, rest) ← value? fuel text
      match skip rest with
      | ',' :: rest =>
          let (items, rest) ← items? fuel (skip rest)
          return (item :: items, rest)
      | ']' :: rest => return ([item], rest)
      | _ => none

/- The members of an object up to its closing brace. -/
def members? :
    (fuel : Nat) → List Char →
      Option (List (Key × Value × Value) × List Char)
  | 0, _ => none
  | fuel + 1, text =>
      match text with
      | '\x22' :: rest => do
          let (name, rest) ← string? [] (fuel + 1) rest
          match skip rest with
          | ':' :: rest =>
              let (item, rest) ← value? fuel (skip rest)
              let member := (Key.str name, Value.str name, item)
              match skip rest with
              | ',' :: rest =>
                  let (members, rest) ← members? fuel (skip rest)
                  return (member :: members, rest)
              | '\x7d' :: rest => return ([member], rest)
              | _ => none
          | _ => none
      | _ => none

end

/- The value of a whole document. -/
def parse?
    (text : String) : Option Value :=
  let chars := text.toList
  match value? (2 * chars.length + 2) (skip chars) with
  | some (v, rest) => if (skip rest).isEmpty then some v else none
  | none => none

end Json

end SyntaxOutline
