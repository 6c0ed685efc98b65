/-
  Octets in base sixty-four.

  Characters outside the alphabet are passed over.  Two or more
  digits of a group may be filled up by equals signs, which end
  the data.

  Key definitions include:
    * `Yaml.octets?`
-/

------------------------------------------------------------
-- Digits
------------------------------------------------------------

namespace SyntaxOutline

namespace Yaml

/- The value of a digit in base sixty-four. -/
def sextet?
    (c : Char) : Option Nat :=
  let n := c.toNat
  if 65 ≤ n ∧ n ≤ 90 then some (n - 65)
  else if 97 ≤ n ∧ n ≤ 122 then some (n - 71)
  else if 48 ≤ n ∧ n ≤ 57 then some (n + 4)
  else if c = '+' then some 62
  else if c = '/' then some 63
  else none

------------------------------------------------------------
-- Octets
------------------------------------------------------------

/-
  The octets of a text, where `place` digits of the current
  group have been read, `bits` are left of them and `pads`
  equals signs came just now.  A group that is not full at the
  end has no octets.
-/
def octetsFrom
    (place bits pads : Nat)
    (done : List UInt8) :
    List Char → Option (List UInt8)
  | [] => if place = 0 then some done else none
  | c :: rest =>
      if c = '=' then
        if 2 ≤ place then
          if 4 ≤ place + pads + 1 then some done
          else octetsFrom place bits (pads + 1) done rest
        else octetsFrom place bits pads done rest
      else
        match sextet? c with
        | none => octetsFrom place bits pads done rest
        | some v =>
            match place with
            | 0 => octetsFrom 1 v 0 done rest
            | 1 =>
                octetsFrom 2 (v % 16) 0
                  (done ++ [UInt8.ofNat (bits * 4 + v / 16)]) rest
            | 2 =>
                octetsFrom 3 (v % 4) 0
                  (done ++ [UInt8.ofNat (bits * 16 + v / 4)]) rest
            | _ =>
                octetsFrom 0 0 0
                  (done ++ [UInt8.ofNat (bits * 64 + v)]) rest

/- The octets that a text gives, by its code points. -/
def octets?
    (text : List Nat) : Option (List UInt8) :=
  if text.all (· < 128) then
    octetsFrom 0 0 0 [] (text.map Char.ofNat)
  else none

end Yaml

end SyntaxOutline
