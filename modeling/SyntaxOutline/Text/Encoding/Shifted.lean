import SyntaxOutline.Text.Encoding.Broken
import SyntaxOutline.Text.Points

/-
  Texts with shifts.

  Characters of ASCII stand for themselves.  A plus sign starts a
  shift, in which each octet gives six bits of further characters,
  sixteen bits a unit.  The shift ends at an octet that gives no
  bits, and a hyphen there is left out.  A plus sign before a
  hyphen stands for itself.

  Key definitions include:
    * `Encoding.Shift`
    * `Encoding.readShifted`
-/

------------------------------------------------------------
-- Bits
------------------------------------------------------------

namespace SyntaxOutline

namespace Encoding

/- The six bits that an octet gives in a shift. -/
def bitsOf?
    (octet : UInt8) : Option Nat :=
  let n := octet.toNat
  if 65 ≤ n ∧ n ≤ 90 then some (n - 65)
  else if 97 ≤ n ∧ n ≤ 122 then some (n - 71)
  else if 48 ≤ n ∧ n ≤ 57 then some (n + 4)
  else if n = 43 then some 62
  else if n = 47 then some 63
  else none

/-
  Where reading is: outside of a shift, right behind the plus sign
  that may start one, or in a shift, with the number of bits that
  are left over, their value, and the first half of a character.
-/
inductive Shift where
  | outside
  | begun (start : Nat)
  | inside (start count bits : Nat) (half : Option Nat)
  deriving DecidableEq, Repr

/- What a unit of sixteen bits gives after the half before it. -/
def unitChars
    (half : Option Nat)
    (u : Nat) : List Nat × Option Nat :=
  match half with
  | some first =>
      if Text.isSecondHalf u then ([Text.pairCode first u], none)
      else if Text.isFirstHalf u then ([first], some u)
      else ([first, u], none)
  | none =>
      if Text.isFirstHalf u then ([], some u) else ([u], none)

/- Take six more bits in a shift. -/
def takeBits
    (start count bits : Nat)
    (half : Option Nat)
    (six : Nat) : Shift × List Nat :=
  let bits := bits * 64 + six
  let count := count + 6
  if count < 16 then (.inside start count bits half, [])
  else
    let left := count - 16
    let scale := (List.replicate left 2).foldl (· * ·) 1
    let (chars, half) := unitChars half (bits / scale)
    (.inside start left (bits % scale) half, chars)

------------------------------------------------------------
-- Steps
------------------------------------------------------------

/- An octet outside of a shift. -/
def stepOutside
    (place : Nat)
    (octet : UInt8) : Except Broken (Shift × List Nat) :=
  if octet = 43 then .ok (.begun place, [])
  else if octet.toNat < 128 then .ok (.outside, [octet.toNat])
  else .error ⟨place, 1, "unexpected special character"⟩

/- An octet that ends a shift. -/
def stepEnding
    (place start count bits : Nat)
    (half : Option Nat)
    (octet : UInt8) : Except Broken (Shift × List Nat) :=
  let size := place + 1 - start
  if 6 ≤ count then
    .error ⟨start, size, "partial character in shift sequence"⟩
  else if bits ≠ 0 then
    .error ⟨start, size, "non-zero padding bits in shift sequence"⟩
  else
    let before :=
      if octet.toNat < 128 ∧ octet ≠ 43 then half.toList else []
    if octet = 45 then .ok (.outside, before)
    else
      (stepOutside place octet).map fun (shift, chars) =>
        (shift, before ++ chars)

/- One octet. -/
def shiftStep
    (place : Nat)
    (octet : UInt8) :
    Shift → Except Broken (Shift × List Nat)
  | .outside => stepOutside place octet
  | .begun start =>
      if octet = 45 then .ok (.outside, [43])
      else
        match bitsOf? octet with
        | some six => .ok (takeBits start 0 0 none six)
        | none => .error ⟨start, 2, "ill-formed sequence"⟩
  | .inside start count bits half =>
      match bitsOf? octet with
      | some six => .ok (takeBits start count bits half six)
      | none => stepEnding place start count bits half octet

/- The end of the octets, which must not cut a shift. -/
def shiftEnd
    (place : Nat) :
    Shift → Except Broken (List Nat)
  | .inside start count bits half =>
      if half.isSome ∨ 6 ≤ count ∨ bits ≠ 0 then
        .error ⟨start, place - start, "unterminated shift sequence"⟩
      else .ok []
  | _ => .ok []

/- Code points from a place on. -/
def readShiftedFrom
    (shift : Shift)
    (place : Nat) :
    List UInt8 → Except Broken (List Nat)
  | [] => shiftEnd place shift
  | octet :: rest => do
      let (shift, chars) ← shiftStep place octet shift
      let others ← readShiftedFrom shift (place + 1) rest
      return chars ++ others

/- Read octets with shifts. -/
def readShifted
    (octets : List UInt8) : Except Broken (List Char) :=
  (readShiftedFrom .outside 0 octets).map (·.map Text.single)

end Encoding

end SyntaxOutline
