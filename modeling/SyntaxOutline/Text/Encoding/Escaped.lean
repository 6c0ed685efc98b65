import SyntaxOutline.Text.Encoding.Broken
import SyntaxOutline.Text.Points

/-
  Texts with escapes.

  A character is an octet, unless a backslash starts an escape.
  Escapes give the number of a character in digits, or name one
  of a few characters by a letter.  Plain escapes only give
  numbers of four or eight digits.

  Key definitions include:
    * `Encoding.Escape`
    * `Encoding.fullEscape`
    * `Encoding.plainEscape`
    * `Encoding.readEscaped`
-/

------------------------------------------------------------
-- Escapes
------------------------------------------------------------

namespace SyntaxOutline

namespace Encoding

/-
  What follows a backslash comes to: characters and how many
  octets they took, or how many octets are wrong and why.
-/
abbrev Escape := Except (Nat × String) (List Char × Nat)

/- The value of a digit, for digits up to sixteen. -/
def hexValue?
    (octet : UInt8) : Option Nat :=
  let n := octet.toNat
  if 48 ≤ n ∧ n ≤ 57 then some (n - 48)
  else if 97 ≤ n ∧ n ≤ 102 then some (n - 87)
  else if 65 ≤ n ∧ n ≤ 70 then some (n - 55)
  else none

/- The number of some digits in a base. -/
def numberOfDigits
    (base : Nat)
    (digits : List Nat) : Nat :=
  digits.foldl (fun n d => n * base + d) 0

/- The character of a number with so many digits behind a letter. -/
def hexEscape
    (letter : String)
    (width : Nat)
    (tooLarge : String)
    (rest : List UInt8) : Escape :=
  let digits :=
    ((rest.take width).map hexValue?).takeWhile Option.isSome
  if digits.length < width then
    .error (1 + digits.length,
      "truncated \\" ++ letter ++
        String.ofList (List.replicate width 'X') ++ " escape")
  else
    let n := numberOfDigits 16 (digits.filterMap id)
    if 0x110000 ≤ n then .error (1 + width, tooLarge)
    else .ok ([Text.single n], 1 + width)

/- Letters that name a character, with its number. -/
def letterEscapes : List (Char × Nat) :=
  [('\\', 92), ('\x27', 39), ('\x22', 34), ('b', 8), ('f', 12),
    ('t', 9), ('n', 10), ('r', 13), ('v', 11), ('a', 7)]

/- The digit of an octet in base eight. -/
def octalValue?
    (octet : UInt8) : Option Nat :=
  let n := octet.toNat
  if 48 ≤ n ∧ n ≤ 55 then some (n - 48) else none

/- A character by its name in braces; no names are known. -/
def nameEscape
    (rest : List UInt8) : Escape :=
  match rest with
  | 123 :: more =>
      let name := more.takeWhile (· ≠ 125)
      if name.length = more.length then
        .error (2 + name.length, "malformed \\N character escape")
      else if name.isEmpty then
        .error (2, "malformed \\N character escape")
      else
        .error (3 + name.length, "unknown Unicode character name")
  | _ => .error (1, "malformed \\N character escape")

/- An escape among all kinds of them. -/
def fullEscape : List UInt8 → Escape
  | [] => .error (0, "\\ at end of string")
  | octet :: rest =>
      let c := latinChar octet
      if c = '\n' then .ok ([], 1)
      else if c = 'x' then hexEscape "x" 2 "" rest
      else if c = 'u' then hexEscape "u" 4 "" rest
      else if c = 'U' then
        hexEscape "U" 8 "illegal Unicode character" rest
      else if c = 'N' then nameEscape rest
      else
        match letterEscapes.lookup c with
        | some n => .ok ([Char.ofNat n], 1)
        | none =>
            let digits :=
              (((octet :: rest).take 3).map octalValue?).takeWhile
                Option.isSome
            if digits.isEmpty then .ok (['\\', c], 1)
            else
              .ok ([Char.ofNat (numberOfDigits 8 (digits.filterMap id))],
                digits.length)

/- An escape that gives a number of four or eight digits. -/
def plainEscape : List UInt8 → Escape
  | [] => .ok (['\\'], 0)
  | octet :: rest =>
      let c := latinChar octet
      if c = 'u' then hexEscape "u" 4 "" rest
      else if c = 'U' then
        hexEscape "U" 8 "\\Uxxxxxxxx out of range" rest
      else .ok (['\\', c], 1)

------------------------------------------------------------
-- Reading
------------------------------------------------------------

/- Read octets from a place on, after leaving some of them out. -/
def readEscapedFrom
    (escape : List UInt8 → Escape)
    (skip place : Nat) :
    List UInt8 → Except Broken (List Char)
  | [] => .ok []
  | octet :: rest =>
      if 0 < skip then
        readEscapedFrom escape (skip - 1) (place + 1) rest
      else if octet ≠ 92 then
        (readEscapedFrom escape 0 (place + 1) rest).map
          (latinChar octet :: ·)
      else
        match escape rest with
        | .error (count, reason) => .error ⟨place, 1 + count, reason⟩
        | .ok (chars, used) =>
            (readEscapedFrom escape used (place + 1) rest).map
              (chars ++ ·)

/- Read octets with escapes. -/
def readEscaped
    (escape : List UInt8 → Escape)
    (octets : List UInt8) : Except Broken (List Char) :=
  readEscapedFrom escape 0 0 octets

end Encoding

end SyntaxOutline
