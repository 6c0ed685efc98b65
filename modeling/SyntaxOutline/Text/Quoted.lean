import SyntaxOutline.Text.Points
import SyntaxOutline.Text.Printable

/-
  Texts in quotes, as they stand in messages.

  The quote is the apostrophe, unless the text holds an
  apostrophe and no double quote.  The quote in use and the
  backslash get a backslash; line feed, carriage return and
  tab have short escapes; every other character that is not
  printable is written by its code in lower case hexadecimal
  digits, two, four or eight of them, and so is every half of a
  character.

  Key definitions include:
    * `Text.hex`
    * `Text.quotePoints`
    * `Text.quote`
    * `Text.quoteBytes`
-/

------------------------------------------------------------
-- Hexadecimal Digits
------------------------------------------------------------

namespace SyntaxOutline

namespace Text

/- The lower case digit of a number below sixteen. -/
def hexDigit
    (n : Nat) : Char :=
  if n < 10 then Char.ofNat (48 + n) else Char.ofNat (87 + n)

/- A number in exactly `width` hexadecimal digits. -/
def hex : (width n : Nat) → List Char
  | 0, _ => []
  | width + 1, n => hex width (n / 16) ++ [hexDigit (n % 16)]

------------------------------------------------------------
-- Quoting
------------------------------------------------------------

/- The apostrophe. -/
def apostrophe : Char := '\x27'

/- The double quote. -/
def doubleQuote : Char := '\x22'

/- The quote that a text is put in. -/
def quoteFor
    (text : List Char) : Char :=
  if apostrophe ∈ text ∧ doubleQuote ∉ text then doubleQuote
  else apostrophe

/- An escape by code, as short as the code allows. -/
def escapeCode
    (n : Nat) : List Char :=
  if n < 0x100 then '\\' :: 'x' :: hex 2 n
  else if n < 0x10000 then '\\' :: 'u' :: hex 4 n
  else '\\' :: 'U' :: hex 8 n

/- One character inside the given quote. -/
def escape
    (quote c : Char) : List Char :=
  if c = quote ∨ c = '\\' then ['\\', c]
  else if c = '\n' then ['\\', 'n']
  else if c = '\r' then ['\\', 'r']
  else if c = '\t' then ['\\', 't']
  else if isPrintable c then [c]
  else escapeCode c.toNat

/- One code point inside the given quote. -/
def escapePoint
    (quote : Char)
    (n : Nat) : List Char :=
  if isHalf n then escapeCode n else escape quote (Char.ofNat n)

/- Code points in quotes. -/
def quotePoints
    (points : List Nat) : String :=
  let q := quoteFor (points.map single)
  String.ofList (q :: points.flatMap (escapePoint q) ++ [q])

/- A text in quotes. -/
def quote
    (text : String) : String :=
  let q := quoteFor text.toList
  String.ofList (q :: text.toList.flatMap (escape q) ++ [q])

------------------------------------------------------------
-- Quoted Octets
------------------------------------------------------------

/- One octet inside the given quote. -/
def escapeOctet
    (quote : Char)
    (b : UInt8) : List Char :=
  let c := Char.ofNat b.toNat
  if c = quote ∨ c = '\\' then ['\\', c]
  else if c = '\n' then ['\\', 'n']
  else if c = '\r' then ['\\', 'r']
  else if c = '\t' then ['\\', 't']
  else if 32 ≤ b.toNat ∧ b.toNat < 127 then [c]
  else '\\' :: 'x' :: hex 2 b.toNat

/- Octets in quotes, behind the letter that marks them. -/
def quoteBytes
    (bytes : List UInt8) : String :=
  let q := quoteFor (bytes.map fun b => Char.ofNat b.toNat)
  String.ofList ('b' :: q :: bytes.flatMap (escapeOctet q) ++ [q])

end Text

end SyntaxOutline
