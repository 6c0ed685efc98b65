/-
  Double precision numbers as exact values.

  A finite number is a sign, a mantissa below `2 ^ 53` and an
  exponent of two that is at least `-1074`; the mantissa is at
  least `2 ^ 52` unless the exponent is the least one.  Every
  operation is carried out exactly on fractions and rounded
  once, to the nearest number and in a tie to the even
  mantissa.

  Key definitions include:
    * `Binary64`
    * `Binary64.ofRatio`
    * `Binary64.ofDecimal`
    * `Binary64.toInt?`
    * `Binary64.add`
    * `Binary64.scale`
-/

------------------------------------------------------------
-- Numbers
------------------------------------------------------------

namespace SyntaxOutline

/- A double precision number. -/
inductive Binary64 where
  | nan
  | infinite (negative : Bool)
  | finite (negative : Bool) (mantissa : Nat) (exponent : Int)
  deriving DecidableEq, Repr, Inhabited

namespace Binary64

/- The least exponent of a finite number. -/
def minExponent : Int := -1074

/- The greatest exponent of a finite number. -/
def maxExponent : Int := 971

/- Zero with a sign. -/
def zero
    (negative : Bool) : Binary64 :=
  .finite negative 0 minExponent

------------------------------------------------------------
-- Rounding
------------------------------------------------------------

/- The quotient rounded to the nearest number, ties to even. -/
def roundDiv
    (n d : Nat) : Nat :=
  let q := n / d
  let r := n % d
  if 2 * r < d then q
  else if d < 2 * r then q + 1
  else if q % 2 = 0 then q
  else q + 1

/- A power of two. -/
def twos
    (n : Nat) : Nat :=
  Nat.pow 2 n

/- A power of ten. -/
def tens
    (n : Nat) : Nat :=
  Nat.pow 10 n

/- The fraction `n / (d * 2 ^ e)` as numerator and denominator. -/
def scaled
    (n d : Nat)
    (e : Int) : Nat × Nat :=
  if 0 ≤ e then (n, d * twos e.toNat)
  else (n * twos (-e).toNat, d)

/-
  The exponent at which the mantissa of `n / d` has 53 bits, or
  the least exponent if that is greater.
-/
def exponentFor
    (n d : Nat) : Int :=
  let guess := max (n.log2 - d.log2 - 53 : Int) minExponent
  let (a, b) := scaled n d guess
  if twos 53 ≤ a / b then guess + 1 else guess

/- The number nearest to `n / d`, where `d` is positive. -/
def ofRatio
    (negative : Bool)
    (n d : Nat) : Binary64 :=
  if n = 0 then zero negative
  else
    let e := exponentFor n d
    let (a, b) := scaled n d e
    let m := roundDiv a b
    let (m, e) := if m = twos 53 then (twos 52, e + 1) else (m, e)
    if maxExponent < e then .infinite negative
    else .finite negative m e

/-
  The number nearest to `digits * 10 ^ exponent`.  Far outside
  the range of all numbers, the power of ten is not needed.
-/
def ofDecimal
    (negative : Bool)
    (digits : Nat)
    (exponent : Int) : Binary64 :=
  if digits = 0 then zero negative
  else if 310 < exponent then .infinite negative
  else if (digits.log2 + 1 : Int) + 3 * exponent < -1100 then
    zero negative
  else if 0 ≤ exponent then
    ofRatio negative (digits * tens exponent.toNat) 1
  else
    ofRatio negative digits (tens (-exponent).toNat)

/- The number nearest to an integer. -/
def ofInt
    (n : Int) : Binary64 :=
  ofRatio (n < 0) n.natAbs 1

------------------------------------------------------------
-- Exact Values
------------------------------------------------------------

/- The exact value of a finite number as a fraction. -/
def toRatio? : Binary64 → Option (Int × Nat)
  | .finite negative m e =>
      let (a, b) := if 0 ≤ e then (m * twos e.toNat, 1)
        else (m, twos (-e).toNat)
      some (if negative then -(a : Int) else a, b)
  | _ => none

/- The integer that a number is equal to, if there is one. -/
def toInt?
    (x : Binary64) : Option Int :=
  match x.toRatio? with
  | some (a, b) => if a % b = 0 then some (a / b) else none
  | none => none

/- The number has no value different from zero. -/
def isZero : Binary64 → Bool
  | .finite _ 0 _ => true
  | _ => false

------------------------------------------------------------
-- Arithmetic
------------------------------------------------------------

/- The number with the opposite sign. -/
def neg : Binary64 → Binary64
  | .nan => .nan
  | .infinite s => .infinite (!s)
  | .finite s m e => .finite (!s) m e

/- The number nearest to a signed fraction. -/
def ofSignedRatio
    (n : Int)
    (d : Nat) : Binary64 :=
  ofRatio (n < 0) n.natAbs d

/- The rounded sum. -/
def add
    (x y : Binary64) : Binary64 :=
  match x.toRatio?, y.toRatio? with
  | some (a, b), some (c, d) => ofSignedRatio (a * d + c * b) (b * d)
  | some _, none => y
  | none, some _ => x
  | none, none => if x = y then x else .nan

/- The rounded product with an integer that is positive. -/
def scale
    (x : Binary64)
    (n : Nat) : Binary64 :=
  match x.toRatio?, (ofInt n).toRatio? with
  | some (a, b), some (c, d) => ofSignedRatio (a * c) (b * d)
  | _, _ => x

end Binary64

end SyntaxOutline
