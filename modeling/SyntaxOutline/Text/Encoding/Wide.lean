import SyntaxOutline.Text.Encoding.Broken
import SyntaxOutline.Text.Points

/-
  Wide characters: two or four octets make a number.

  With two octets a number can be a half of a character, and two
  halves in a row are one.  With four octets it is a code point.

  Key definitions include:
    * `Encoding.pairs`
    * `Encoding.fours`
    * `Encoding.readWide`
-/

------------------------------------------------------------
-- Numbers
------------------------------------------------------------

namespace SyntaxOutline

namespace Encoding

/- The number that octets make. -/
def numberOf
    (lowFirst : Bool)
    (octets : List UInt8) : Nat :=
  (if lowFirst then octets.reverse else octets).foldl
    (fun n octet => n * 256 + octet.toNat) 0

/- The numbers that pairs of octets make, and what is left over. -/
def pairs
    (lowFirst : Bool) :
    List UInt8 → List Nat × List UInt8
  | a :: b :: rest =>
      let (numbers, left) := pairs lowFirst rest
      (numberOf lowFirst [a, b] :: numbers, left)
  | left => ([], left)

/- The numbers that fours of octets make, and what is left over. -/
def fours
    (lowFirst : Bool) :
    List UInt8 → List Nat × List UInt8
  | a :: b :: c :: d :: rest =>
      let (numbers, left) := fours lowFirst rest
      (numberOf lowFirst [a, b, c, d] :: numbers, left)
  | left => ([], left)

------------------------------------------------------------
-- Characters
------------------------------------------------------------

/- Octets that are left over break a text, if there are any. -/
def leftOver
    (place left : Nat) : Except Broken (List Char) :=
  if left = 0 then .ok [] else .error ⟨place, left, "truncated data"⟩

/- Characters out of units of two octets, some of them halves. -/
def readUnits
    (left place : Nat) :
    List Nat → Except Broken (List Char)
  | [] => leftOver place left
  | [u] =>
      if Text.isFirstHalf u then
        .error ⟨place, 2 + left, "unexpected end of data"⟩
      else if Text.isSecondHalf u then
        .error ⟨place, 2, "illegal encoding"⟩
      else (leftOver (place + 2) left).map (Char.ofNat u :: ·)
  | u :: v :: rest =>
      if Text.isFirstHalf u then
        if Text.isSecondHalf v then
          (readUnits left (place + 4) rest).map
            (Char.ofNat (Text.pairCode u v) :: ·)
        else .error ⟨place, 2, "illegal UTF-16 surrogate"⟩
      else if Text.isSecondHalf u then
        .error ⟨place, 2, "illegal encoding"⟩
      else
        (readUnits left (place + 2) (v :: rest)).map
          (Char.ofNat u :: ·)

/- Characters out of code points of four octets. -/
def readPoints
    (left place : Nat) :
    List Nat → Except Broken (List Char)
  | [] => leftOver place left
  | n :: rest =>
      if 0x110000 ≤ n then
        .error ⟨place, 4, "code point not in range(0x110000)"⟩
      else if Text.isHalf n then
        .error ⟨place, 4,
          "code point in surrogate code point range(0xd800, 0xe000)"⟩
      else
        (readPoints left (place + 4) rest).map (Char.ofNat n :: ·)

/- Read wide characters, the lowest octet first or last. -/
def readWide
    (width : Nat)
    (lowFirst : Bool)
    (octets : List UInt8) : Except Broken (List Char) :=
  if width = 2 then
    let (units, left) := pairs lowFirst octets
    readUnits left.length 0 units
  else
    let (points, left) := fours lowFirst octets
    readPoints left.length 0 points

end Encoding

end SyntaxOutline
