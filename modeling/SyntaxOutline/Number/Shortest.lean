import SyntaxOutline.Number.Binary64

/-
  Numbers as text: the fewest decimal digits that read back.

  Of all decimals that round to a number, the one with the
  fewest digits is taken, and of those the nearest; of two that
  are equally near, the one with the even last digit.  It is
  written positionally when the number lies from a
  ten-thousandth up to ten to the sixteenth, and with an
  exponent otherwise.

  Key definitions include:
    * `Binary64.shortest`
    * `Binary64.NumberStyle`
    * `Binary64.toText`
-/

------------------------------------------------------------
-- Shortest Digits
------------------------------------------------------------

namespace SyntaxOutline

namespace Binary64

/-
  The decimals that round to `m * 2 ^ e`, as the two ends of
  an interval over a common denominator.  The lower neighbour
  is nearer when the mantissa is a power of two.
-/
def interval
    (m : Nat)
    (e : Int) : Nat × Nat × Nat × Nat :=
  let near := m = twos 52 ∧ minExponent < e
  let low := if near then 4 * m - 1 else 4 * m - 2
  let (value, den) :=
    if 2 ≤ e then (4 * m * twos (e - 2).toNat, 1)
    else (4 * m, twos (2 - e).toNat)
  let unit := value / (4 * m)
  (low * unit, value, (4 * m + 2) * unit, den)

/- Divide by a power of ten, or multiply when it is negative. -/
def overTen
    (n d : Nat)
    (k : Int) : Nat × Nat :=
  if 0 ≤ k then (n, d * tens k.toNat)
  else (n * tens (-k).toNat, d)

/- Which of two neighbours on a grid is nearer to `v / d`. -/
def nearer
    (v d q : Nat) : Nat :=
  let twice := 2 * (v - q * d)
  if twice < d ∨ (twice = d ∧ q % 2 = 0) then q else q + 1

/-
  The point of the grid of multiples of `10 ^ k` that rounds to
  the number and is nearest to it, if there is one.
-/
def onGrid?
    (m : Nat)
    (e k : Int) : Option Nat :=
  let (low, value, high, den) := interval m e
  let (v, d) := overTen value den k
  let q := v / d
  let inside (g : Nat) : Bool :=
    let (l, ld) := overTen low den k
    let (h, hd) := overTen high den k
    if m % 2 = 0 then l ≤ g * ld && g * hd ≤ h
    else l < g * ld && g * hd < h
  match inside q && q != 0, inside (q + 1) with
  | true, true => some (nearer v d q)
  | true, false => some q
  | false, true => some (q + 1)
  | false, false => none

/- The number of decimal digits of `n`. -/
def digitCount
    (n : Nat) : Nat :=
  (Nat.toDigits 10 n).length

/- The position of the first digit: the value is below `10 ^ p`. -/
def magnitude
    (m : Nat)
    (e : Int) : Int :=
  let (_, value, _, den) := interval m e
  if den ≤ value then digitCount (value / den)
  else
    let p := digitCount (den / value)
    if value * tens p ≤ den then -(p : Int)
    else if value * tens (p - 1) < den then -((p : Int) - 1)
    else -((p : Int) - 2)

/- Search the grids from coarse to fine. -/
def searchGrid
    (m : Nat)
    (e p : Int) :
    (fuel count : Nat) → Nat × Int
  | 0, count => (m, p - count)
  | fuel + 1, count =>
      match onGrid? m e (p - count) with
      | some g => (g, p - count)
      | none => searchGrid m e p fuel (count + 1)

/- Remove zeros at the end of the digits. -/
def stripZeros : (fuel digits : Nat) → Int → Nat × Int
  | 0, digits, k => (digits, k)
  | fuel + 1, digits, k =>
      if digits % 10 = 0 ∧ digits ≠ 0 then
        stripZeros fuel (digits / 10) (k + 1)
      else (digits, k)

/-
  The digits and the power of ten of the shortest decimal of
  `m * 2 ^ e`, where `m` is positive.
-/
def shortest
    (m : Nat)
    (e : Int) : Nat × Int :=
  let (g, k) := searchGrid m e (magnitude m e) 18 0
  stripZeros 20 g k

------------------------------------------------------------
-- Written Numbers
------------------------------------------------------------

/-
  Where positional notation ends: the position of the decimal
  point lies above `low` and is at most `high`.
-/
structure NumberStyle where
  low : Int
  high : Int
  exponentDigits : Nat

/- Numbers in messages and answers. -/
def style : NumberStyle :=
  ⟨-4, 16, 2⟩

/- A decimal text padded with zeros on the left. -/
def padLeft
    (width : Nat)
    (digits : List Char) : List Char :=
  List.replicate (width - digits.length) '0' ++ digits

/- Digits with the decimal point behind the first `point`. -/
def positional
    (digits : List Char)
    (point : Int) : List Char :=
  if point ≤ 0 then
    '0' :: '.' :: List.replicate (-point).toNat '0' ++ digits
  else if digits.length ≤ point.toNat then
    digits ++ List.replicate (point.toNat - digits.length) '0' ++
      ['.', '0']
  else
    digits.take point.toNat ++ '.' :: digits.drop point.toNat

/- Digits with an exponent of ten. -/
def scientific
    (digits : List Char)
    (point : Int) : List Char :=
  let exponent := point - 1
  let fraction :=
    match digits.drop 1 with
    | [] => []
    | rest => '.' :: rest
  digits.take 1 ++ fraction ++
    'e' :: (if exponent < 0 then '-' else '+') ::
      padLeft style.exponentDigits
        (Nat.toDigits 10 exponent.natAbs)

/- A positive number as text. -/
def magnitudeText
    (m : Nat)
    (e : Int) : List Char :=
  let (g, k) := shortest m e
  let digits := Nat.toDigits 10 g
  let point := digits.length + k
  if style.low < point ∧ point ≤ style.high then
    positional digits point
  else
    scientific digits point

/- A number as text. -/
def toText : Binary64 → String
  | .nan => "nan"
  | .infinite negative => if negative then "-inf" else "inf"
  | .finite negative m e =>
      let body := if m = 0 then ['0', '.', '0'] else magnitudeText m e
      String.ofList (if negative then '-' :: body else body)

end Binary64

end SyntaxOutline
