/-
  Octets that cannot be read.

  Reading octets as characters stops at the first ones that make
  no character.  They are known by their place, by their number,
  and by the reason why they make none.

  Key definitions include:
    * `Encoding.Broken`
    * `Encoding.readEach`
    * `Encoding.asciiChar?`
-/

------------------------------------------------------------
-- Broken Texts
------------------------------------------------------------

namespace SyntaxOutline

namespace Encoding

/- What cannot be read: its place, its size and the reason. -/
structure Broken where
  place : Nat
  count : Nat
  reason : String
  deriving DecidableEq, Repr

------------------------------------------------------------
-- One Octet A Character
------------------------------------------------------------

/- Read octets one by one; the first without a character fails. -/
def readEach
    (char? : UInt8 → Option Char)
    (reason : String)
    (octets : List UInt8) : Except Broken (List Char) :=
  match octets.dropWhile fun octet => (char? octet).isSome with
  | [] => .ok (octets.filterMap char?)
  | rest => .error ⟨octets.length - rest.length, 1, reason⟩

/- The character of ASCII that an octet is. -/
def asciiChar?
    (octet : UInt8) : Option Char :=
  if octet.toNat < 128 then some (Char.ofNat octet.toNat) else none

/- The character with the number of an octet. -/
def latinChar
    (octet : UInt8) : Char :=
  Char.ofNat octet.toNat

end Encoding

end SyntaxOutline
