import SyntaxOutline.Text.Blank
import SyntaxOutline.Text.Digit
import SyntaxOutline.Text.LetterCase
import SyntaxOutline.Text.Pieces
import SyntaxOutline.Yaml.Failure
import SyntaxOutline.Yaml.Tag

/-
  Numbers out of the texts of scalars.

  The texts are given by their code points; a half of a
  character is part of no number.  Underscores are left out.
  Integers may be written in base two, eight, ten and sixteen,
  and integers as well as other numbers in groups of base
  sixty, which colons divide.  The digits may be those of any
  script.  In base ten there are at most 4300 of them.

  Key definitions include:
    * `Yaml.integer`
    * `Yaml.float`
    * `Yaml.isNanWord`
-/

------------------------------------------------------------
-- Signs
------------------------------------------------------------

namespace SyntaxOutline

namespace Yaml

/- Whether a number is negative, and what follows its sign. -/
def signOf : List Char → Bool × List Char
  | '-' :: rest => (true, rest)
  | '+' :: rest => (false, rest)
  | text => (false, text)

/- The characters of code points, a half being none that counts. -/
def charsOf
    (text : List Nat) : List Char :=
  text.map Text.single

/- Whether a text is negative, and what follows its sign. -/
def splitSign
    (text : List Nat) : Bool × List Nat :=
  let (negative, digits) := signOf (charsOf text)
  (negative, text.drop (text.length - digits.length))

/- The text without underscores. -/
def dropLow
    (text : List Nat) : List Nat :=
  text.filter (· ≠ '_'.toNat)

/- The pieces of a text between colons. -/
def groupsOf
    (text : List Nat) : List (List Nat) :=
  Text.pieces ':'.toNat text

------------------------------------------------------------
-- Integers
------------------------------------------------------------

/- The value of a digit in a base. -/
def digitValue?
    (base : Nat)
    (c : Char) : Option Nat :=
  match Json.hexValue? c with
  | some n => if n < base then some n else none
  | none => none

/- The number of a row of digits, of which there is at least one. -/
def digitsValue?
    (base : Nat) :
    List Char → Option Nat
  | [] => none
  | digits =>
      digits.foldlM
        (fun n d => (digitValue? base d).map fun v => n * base + v) 0

/- The letter that may mark a base behind a zero. -/
def baseLetter : Nat → Option Char
  | 2 => some 'b'
  | 8 => some 'o'
  | 16 => some 'x'
  | _ => none

/- The digits behind the mark of the base, if there is one. -/
def dropBaseMark
    (base : Nat) :
    List Char → List Char
  | '0' :: c :: rest =>
      if baseLetter base = some c.toLower then rest
      else '0' :: c :: rest
  | text => text

/- A number as it is read: blanks and other scripts aside. -/
def bare
    (text : List Char) : List Char :=
  Text.unifyDigits (Text.trimWhile Text.isSpace text)

/- The integer of a text in a base, blanks around it aside. -/
def integerIn
    (base : Nat)
    (text : List Nat) : Except BadValue Int :=
  let (negative, digits) := signOf (bare (charsOf text))
  let count := (digits.takeWhile Json.isDigit).length
  if base = 10 ∧ Value.maxDigits < count then
    .error (.longInteger count)
  else
    match digitsValue? base (dropBaseMark base digits) with
    | some n => .ok (if negative then -(n : Int) else n)
    | none => .error (.integer base text)

/- The number of groups of base sixty. -/
def sexagesimal
    (groups : List Int) : Int :=
  groups.foldl (fun n group => n * 60 + group) 0

/- The integer of a text without its sign. -/
def unsignedInteger
    (text : List Nat) : Except BadValue Int :=
  match charsOf text with
  | [] => .error .emptyNumber
  | ['0'] => .ok 0
  | '0' :: 'b' :: _ => integerIn 2 (text.drop 2)
  | '0' :: 'x' :: _ => integerIn 16 (text.drop 2)
  | '0' :: _ => integerIn 8 text
  | chars =>
      if chars.contains ':' then do
        let groups ← (groupsOf text).mapM (integerIn 10)
        return sexagesimal groups
      else integerIn 10 text

/- The integer that a text is written for. -/
def integer
    (text : List Nat) : Except BadValue Int := do
  let text := dropLow text
  if text.isEmpty then .error .emptyNumber
  else
    let (negative, digits) := splitSign text
    let n ← unsignedInteger digits
    return if negative then -n else n

------------------------------------------------------------
-- Other Numbers
------------------------------------------------------------

/- Words for numbers that digits cannot give. -/
def wordValue?
    (negative : Bool)
    (word : String) : Option Binary64 :=
  if word = "inf" ∨ word = "infinity" then some (.infinite negative)
  else if word = "nan" then some .nan
  else none

/- The exponent at the end of a number. -/
def exponentOf? : List Char → Option Int
  | [] => some 0
  | e :: rest =>
      if e = 'e' then
        let (negative, digits) := signOf rest
        if digits.isEmpty || !digits.all Json.isDigit then none
        else
          let n : Int := Json.natOf digits
          some (if negative then -n else n)
      else none

/- The number of digits with a point and an exponent. -/
def decimalValue?
    (negative : Bool)
    (text : List Char) : Option Binary64 :=
  let whole := text.takeWhile Json.isDigit
  let rest := text.dropWhile Json.isDigit
  let (fraction, rest) :=
    match rest with
    | '.' :: more =>
        (more.takeWhile Json.isDigit, more.dropWhile Json.isDigit)
    | _ => ([], rest)
  if whole.isEmpty && fraction.isEmpty then none
  else
    (exponentOf? rest).map fun exponent =>
      .ofDecimal negative (Json.natOf (whole ++ fraction))
        (exponent - fraction.length)

/- The number of a text in lower case, blanks around it aside. -/
def decimal
    (text : List Nat) : Except BadValue Binary64 :=
  let (negative, digits) := signOf (bare (charsOf text))
  match (wordValue? negative (String.ofList digits)).or
      (decimalValue? negative digits) with
  | some x => .ok x
  | none => .error (.float text)

/-
  The sum of groups, each in its power of sixty, last one first.
  The powers must be within the range of all numbers.
-/
def sexagesimalSum
    (sum : Binary64)
    (base : Nat) :
    List Binary64 → Except BadValue Binary64
  | [] => .ok sum
  | group :: rest =>
      if (Binary64.ofInt base).toRatio?.isNone then .error .hugeNumber
      else
        sexagesimalSum (sum.add (group.scale base)) (base * 60) rest

/- The number of a text without its sign. -/
def unsignedFloat
    (text : List Nat) : Except BadValue Binary64 :=
  if text = Text.points ".inf" then .ok (.infinite false)
  else if text = Text.points ".nan" then .ok .nan
  else if (charsOf text).contains ':' then do
    let groups ← (groupsOf text).mapM decimal
    sexagesimalSum (.zero false) 1 groups.reverse
  else decimal text

/- A text in lower case, without underscores. -/
def lowered
    (text : List Nat) : List Nat :=
  Text.lowerPoints (dropLow text)

/-
  The text is the word for the one number that is no number.
  Other texts give such numbers too, each one of its own.
-/
def isNanWord
    (text : List Nat) : Bool :=
  (splitSign (lowered text)).2 = Text.points ".nan"

/- The number that a text is written for. -/
def float
    (text : List Nat) : Except BadValue Binary64 := do
  let text := lowered text
  if text.isEmpty then .error .emptyNumber
  else
    let (negative, digits) := splitSign text
    let x ← unsignedFloat digits
    return if negative then x.neg else x

end Yaml

end SyntaxOutline
