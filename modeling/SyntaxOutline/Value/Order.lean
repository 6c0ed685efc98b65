import SyntaxOutline.Value.Key

/-
  The order in which the members of a set are listed.

  Members stand by the name of their kind first.  Within a kind
  numbers stand by size, octets one by one, points in time with
  a known offset by when they are, and everything else by the
  characters of its text.

  Key definitions include:
    * `Binary64.isAtMost`
    * `Value.isListedBefore`
    * `Value.listed`
-/

------------------------------------------------------------
-- Numbers
------------------------------------------------------------

namespace SyntaxOutline

namespace Binary64

/- The first number is no larger than the second. -/
def isAtMost
    (x y : Binary64) : Bool :=
  match x, y with
  | .infinite negative, _ => negative
  | _, .infinite negative => !negative
  | _, _ =>
      match x.toRatio?, y.toRatio? with
      | some (a, b), some (c, d) => a * d ≤ c * b
      | _, _ => true

end Binary64

------------------------------------------------------------
-- Members
------------------------------------------------------------

namespace Value

/- The first row of octets stands no later than the second. -/
def octetsAtMost : List UInt8 → List UInt8 → Bool
  | [], _ => true
  | _ :: _, [] => false
  | x :: xs, y :: ys =>
      if x = y then octetsAtMost xs ys else x.toNat < y.toNat

/- The first member is listed no later than the second. -/
def isListedBefore
    (a b : Value) : Bool :=
  if a.kindName ≠ b.kindName then a.kindName < b.kindName
  else
    match a, b with
    | .int m, .int n => m ≤ n
    | .float x, .float y => x.isAtMost y
    | .bytes x, .bytes y => octetsAtMost x y
    | .moment x, .moment y =>
        match a.key, b.key with
        | .ok (.instant m), .ok (.instant n) => m ≤ n
        | _, _ => x.iso ≤ y.iso
    | _, _ => a.sentence ≤ b.sentence

/- The members in the order in which they are listed. -/
def listed
    (members : List Value) : List Value :=
  members.mergeSort isListedBefore

end Value

end SyntaxOutline
